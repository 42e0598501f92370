import PacketHost.Proofs.Outgoing

/-!
What stood in the buffer before a frame was received makes no difference.

Two buffers that hold the same received frame agree on that frame only. The relation between two
runs that start from them is that they agree up to where the frame, or what is made of it, ends.
Each layer of an answer reads within this range and keeps or extends it, and an application that
goes by its request does the same to its region (`Exchange.Alike`).
-/

namespace PacketHost

open Bytes Received

namespace Exchange

lemma length_request (x : Exchange) : x.request.length = x.length := by
  rw [request, List.length_take, Nat.min_eq_left x.length_le]

/-- Exchanges with the same request and the same answer so far; the rest of their regions may
differ. -/
structure Alike (x y : Exchange) : Prop where
  size : x.region.length = y.region.length
  length : x.length = y.length
  remoteIp : x.remoteIp = y.remoteIp
  remotePort : x.remotePort = y.remotePort
  localPort : x.localPort = y.localPort
  reply : x.reply = y.reply
  request_byte : ∀ i < x.length, byteAt x.region i = byteAt y.region i
  reply_byte : ∀ n ∈ x.reply, ∀ i < n, byteAt x.region i = byteAt y.region i

variable {x y x' y' : Exchange}

namespace Alike

lemma capacity (h : Alike x y) : x.capacity = y.capacity := by
  rw [Exchange.capacity, Exchange.capacity, h.size]

lemma request (h : Alike x y) : x.request = y.request := by
  refine ext_byteAt ?_ fun i hi => ?_
  · rw [length_request, length_request, h.length]
  · rw [length_request] at hi
    rw [Exchange.request, Exchange.request, byteAt_take, byteAt_take, if_pos hi,
      if_pos (h.length ▸ hi)]
    exact h.request_byte i hi

lemma write (h : Alike x y) (off : Nat) (data : Bytes) :
    Alike (x.write off data) (y.write off data) := by
  have hbyte : ∀ i, byteAt x.region i = byteAt y.region i →
      byteAt (x.write off data).region i = byteAt (y.write off data).region i := by
    intro i hi
    rw [byteAt_write, byteAt_write, h.capacity, hi]
  exact {
    size := by rw [length_region_write, length_region_write, h.size]
    length := h.length
    remoteIp := h.remoteIp
    remotePort := h.remotePort
    localPort := h.localPort
    reply := h.reply
    request_byte i hi := hbyte i (h.request_byte i hi)
    reply_byte n hn i hi := hbyte i (h.reply_byte n hn i hi) }

/-- An answer is made of bytes that are the same. -/
lemma setReply (h : Alike x y) (h' : Alike x' y') {n : Nat}
    (hbyte : n ≤ x.capacity → ∀ i < n, byteAt x'.region i = byteAt y'.region i) :
    (x.setReply n x').1 = (y.setReply n y').1 ∧
      Alike (x.setReply n x').2 (y.setReply n y').2 := by
  unfold Exchange.setReply
  rw [← h.capacity]
  split
  · exact ⟨rfl, h⟩
  next hn =>
    refine ⟨rfl, { h' with reply := rfl, reply_byte := ?_ }⟩
    rintro k ⟨⟩ i hi
    exact hbyte (Nat.not_lt.1 hn) i hi

lemma perform (h : Alike x y) (a : Action) (ha : ∀ n, a = .replyInPlace n → n ≤ x.length) :
    (x.perform a).1 = (y.perform a).1 ∧ Alike (x.perform a).2 (y.perform a).2 := by
  cases a with
  | reply data =>
    refine h.setReply (h.write 0 data) fun hn i hi => ?_
    have hcap := h.capacity
    rw [byteAt_write, byteAt_write, if_pos (by omega), if_pos (by omega)]
  | replyInPlace n =>
    refine h.setReply h fun _ i hi => h.request_byte i ?_
    exact Nat.lt_of_lt_of_le hi (ha n rfl)
  | write off data => exact ⟨rfl, h.write off data⟩
  | edit change =>
    have hpart : x.region.take (min x.length x.capacity) =
        y.region.take (min y.length y.capacity) := by
      rw [Nat.min_comm, Nat.min_comm y.length, ← List.take_take, ← List.take_take, ← h.capacity]
      exact congrArg _ h.request
    refine ⟨rfl, ?_⟩
    simp only [Exchange.perform, hpart]
    exact h.write 0 _

lemma performAll (h : Alike x y) (as : List Action)
    (has : ∀ n, Action.replyInPlace n ∈ as → n ≤ x.length) :
    (x.performAll as).1 = (y.performAll as).1 ∧ Alike (x.performAll as).2 (y.performAll as).2 := by
  induction as generalizing x y with
  | nil => exact ⟨rfl, h⟩
  | cons a as ih =>
    obtain ⟨hfirst, halike⟩ := h.perform a fun n hn => has n (by simp [hn])
    obtain ⟨hrest, hafter⟩ := ih halike fun n hn => by
      rw [(x.follows_perform a).length]
      exact has n (List.mem_cons_of_mem a hn)
    refine ⟨?_, hafter⟩
    simp only [Exchange.performAll, hfirst, hrest]

end Alike

end Exchange

/-! ### Applications that go by the request -/

/-- An application that goes by its request, by who sent it, to which port, and by the room to
answer, and that answers in place with bytes of the request only. -/
structure Handler.Stateless (h : Handler) : Prop where
  respond_eq : ∀ {turn turn' : Nat} {x y : Exchange}, x.request = y.request →
    x.capacity = y.capacity → x.remoteIp = y.remoteIp → x.remotePort = y.remotePort →
    x.localPort = y.localPort → h.respond turn x = h.respond turn' y
  inPlace : ∀ {turn : Nat} {x : Exchange} {n : Nat},
    Action.replyInPlace n ∈ h.respond turn x → n ≤ x.request.length

structure Registry.Stateless (r : Registry) : Prop where
  tcp : ∀ {port : UInt16} {h : Handler}, r.tcpHandler? port = some h → h.Stateless
  udp : ∀ {port : UInt16} {h : Handler}, r.udpHandler? port = some h → h.Stateless

namespace Exchange.Alike

variable {x y : Exchange} {handler : Handler}

lemma turn (h : Alike x y) (hh : handler.Stateless) (turn turn' : Nat) :
    x.delivery turn handler = y.delivery turn' handler ∧
      Alike (x.after turn handler) (y.after turn' handler) := by
  have hrespond : handler.respond turn x = handler.respond turn' y :=
    hh.respond_eq h.request h.capacity h.remoteIp h.remotePort h.localPort
  obtain ⟨houtcomes, hafter⟩ := h.performAll (handler.respond turn x) fun n hn => by
    rw [← x.length_request]
    exact hh.inPlace hn
  rw [hrespond] at houtcomes hafter
  have hafter' : Alike (x.after turn handler) (y.after turn' handler) := by
    rw [Exchange.after, hrespond]
    exact hafter
  refine ⟨?_, hafter'⟩
  rw [delivery, delivery, hafter'.request, hrespond, houtcomes, h.request, h.capacity, h.remoteIp,
    h.remotePort, h.localPort]

end Exchange.Alike

namespace Frame

variable {s : Settings} {r : Registry} {turn turn' : Nat} {f g : Frame} {c : Call} {n stop : Nat}

lemma alike_exchange (h : AgreeOn 0 (c.start + c.length) f g) :
    (f.exchange c).Alike (g.exchange c) := by
  have hsize : (f.exchange c).region.length = (g.exchange c).region.length := by
    rw [length_region_exchange, length_region_exchange]
  exact {
    size := hsize
    length := congrArg (min c.length) hsize
    remoteIp := rfl
    remotePort := rfl
    localPort := rfl
    reply := rfl
    request_byte i hi := by
      have hi' : i < c.length := Nat.lt_of_lt_of_le hi (Nat.min_le_left _ _)
      simp only [exchange, Exchange.start, byteAt_slice]
      rw [h (c.start + i) (Nat.zero_le _) (Nat.add_lt_add_left hi' _)]
    reply_byte n hn := by cases hn }

/-- Up to the end of an answer there is nothing that stood in the region before. -/
lemma agreeOn_turned_of_alike (turn' : Nat) (h : AgreeOn 0 (c.start + c.length) f g)
    (hh : c.handler.Stateless)
    (hn : ((f.exchange c).after turn c.handler).reply = some n) :
    AgreeOn 0 (c.start + n) (f.turned c turn) (g.turned c turn') := by
  obtain ⟨-, halike⟩ := (alike_exchange h).turn hh turn turn'
  have hsize := length_region_turned f c turn
  have hsize' := length_region_turned g c turn'
  have hle := Exchange.reply_after_le rfl hn
  rw [capacity_exchange, Call.capacity] at hle
  have hfit : maxFrameLength ≤ frameSize := by decide
  intro i _ hi
  rw [turned, turned, byte_write, byte_write, hsize, hsize']
  split
  next hin => exact halike.reply_byte n hn _ (by omega)
  next hout => exact h i (Nat.zero_le i) (by omega)

/-! ### Layers -/

namespace AgreeOn

lemma addressed {protocol : UInt8} (h : AgreeOn 0 stop f g) (hstop : transportOffset ≤ stop) :
    AgreeOn 0 stop (f.addressed s protocol n) (g.addressed s protocol n) := by
  rw [Frame.addressed, Frame.addressed, h.get_ipv4 hstop,
    h.get_ethernet (Nat.le_trans (by decide) hstop)]
  exact (h.put _ _).put _ _

lemma padEven {start off : Nat} (h : AgreeOn start (off + n) f g) :
    AgreeOn start (off + evenLength n) (f.padEven off n) (g.padEven off n) := by
  unfold Frame.padEven
  split
  next heven => rwa [evenLength, heven]
  next hodd =>
    have hone : n % 2 = 1 := by omega
    rw [evenLength, hone, ← Nat.add_assoc]
    exact h.write_extend (Nat.le_refl _) [0]

lemma datagram (h : AgreeOn 0 (udpDataOffset + n) f g) :
    AgreeOn 0 (transportOffset + (8 + evenLength n)) (f.datagram s n) (g.datagram s n) := by
  have hudp := h.get_udp (Nat.le_add_right udpDataOffset n)
  have hip := h.get_ipv4 (Nat.le_add_right_of_le (by decide))
  have hunsummed : AgreeOn 0 (transportOffset + (8 + evenLength n)) (f.unsummed n)
      (g.unsummed n) := by
    rw [unsummed, unsummed, datagramHeader, datagramHeader, hudp, ← Nat.add_assoc]
    exact h.padEven.put _ _
  have hsum : f.datagramSum n = g.datagramSum n := by
    rw [datagramSum, datagramSum, hip, hunsummed.slice_eq (Nat.zero_le _) (Nat.le_refl _)]
  unfold Frame.datagram
  split
  · rw [hsum]
    exact hunsummed.write _ _
  · exact hunsummed

lemma summed (h : AgreeOn 0 (transportOffset + n) f g) :
    AgreeOn 0 (transportOffset + n) (f.summed n) (g.summed n) := by
  have hcleared := h.write (transportOffset + 16) (ofWord16 0)
  have hslice := hcleared.slice_eq (Nat.zero_le transportOffset) (Nat.le_refl (transportOffset + n))
  simp only [Frame.summed, h.get_ipv4 (Nat.le_add_right _ _), hslice]
  exact hcleared.write _ _

lemma segment {offset : Nat} (hoff : (f.get TcpHeader transportOffset).dataOffset = offset)
    (hge : 20 ≤ offset) (h : AgreeOn 0 (transportOffset + offset + n) f g) :
    AgreeOn 0 (transportOffset + (offset + evenLength n)) (f.segment r n) (g.segment r n) := by
  have htcp := h.get_tcp (Nat.le_add_right_of_le (Nat.add_le_add_left hge transportOffset))
  rw [Frame.segment, Frame.segment, ← htcp, hoff, ← Nat.add_assoc]
  exact h.padEven.put _ _

end AgreeOn

/-! ### Reactions -/

variable {b : Bytes} {handler : Handler}

namespace Holds

lemma agreeOn_ended (hf : f.Holds b) (hg : g.Holds b) (h : Accepted s b) :
    AgreeOn 0 (ipOffset + packetLength b) (f.ended b) (g.ended b) :=
  ((hf.agreeOn hg).mono (Nat.le_refl 0) h.end_le).write _ _

lemma agreeOn_offeringSegment (hf : f.Holds b) (hg : g.Holds b)
    (hc : Calls s r b (segmentCall b handler)) :
    AgreeOn 0 ((segmentCall b handler).start + (segmentCall b handler).length)
      (f.offeringSegment b) (g.offeringSegment b) :=
  ((hf.agreeOn_ended hg hc.accepted).mono (Nat.le_refl 0) hc.end_le).put _ _

lemma agreeOn_offeringDatagram (hf : f.Holds b) (hg : g.Holds b)
    (hc : Calls s r b (datagramCall b handler)) :
    AgreeOn 0 ((datagramCall b handler).start + (datagramCall b handler).length)
      (f.offeringDatagram b) (g.offeringDatagram b) :=
  ((hf.agreeOn_ended hg hc.accepted).mono (Nat.le_refl 0) hc.end_le).write _ _

end Holds

lemma outgoing?_congr (hf : f.Holds b) (hg : g.Holds b) (hr : r.Stateless) :
    (f.react s r turn b.length).outgoing? = (g.react s r turn' b.length).outgoing? := by
  cases demand s r b with
  | arp h =>
    have hagree := (((hf.agreeOn hg).put ipOffset ((arp b).answer s.mac s.ip)).put 0
      ((ethernet b).turnAround s.mac)).slice_eq (Nat.le_refl 0) h.length_le
    rw [outgoing?_of_asksArp hf h, outgoing?_of_asksArp hg h, hagree]
  | echo h =>
    rw [outgoing?_of_asksEcho hf h, outgoing?_of_asksEcho hg h]
    have hagree : AgreeOn 0 (ipOffset + packetLength b) (f.echoing b) (g.echoing b) :=
      (hf.agreeOn_ended hg h.toAccepted).write _ _
    rw [h.end_eq, (hagree.addressed (Nat.add_le_add_left h.covers ipOffset)).slice_eq
      (Nat.le_refl 0) (Nat.le_refl _)]
  | control h hpsh =>
    rw [outgoing?_of_control hf h hpsh, outgoing?_of_control hg h hpsh]
    have hagree : AgreeOn 0 (transportOffset + 20) (f.controlling b) (g.controlling b) :=
      ((hf.agreeOn_ended hg h.toAccepted).mono (Nat.le_refl 0)
        (Nat.add_le_add_left h.header ipOffset)).put _ _
    rw [(hagree.summed.addressed (Nat.le_add_right _ _)).slice_eq (Nat.le_refl 0)
      (Nat.le_refl _)]
  | segment handler h hpsh hh =>
    rw [outgoing?_of_segment hf h hpsh hh, outgoing?_of_segment hg h hpsh hh]
    have hagree := hf.agreeOn_offeringSegment hg (.segment h hpsh hh)
    obtain ⟨-, halike⟩ := (alike_exchange hagree).turn (hr.tcp hh) turn turn'
    rw [← halike.reply]
    refine Option.map_congr fun len hlen => ?_
    have hturned := agreeOn_turned_of_alike turn' hagree (hr.tcp hh) hlen
    have hsegment := hturned.segment (r := r) (dataOffset_turned h) h.offset_ge
    exact (hsegment.summed.addressed (Nat.le_add_right _ _)).slice_eq (Nat.le_refl 0)
      (Nat.le_refl _)
  | datagram handler h hh =>
    rw [outgoing?_of_datagram hf h hh, outgoing?_of_datagram hg h hh]
    have hagree := hf.agreeOn_offeringDatagram hg (.datagram h hh)
    obtain ⟨-, halike⟩ := (alike_exchange hagree).turn (hr.udp hh) turn turn'
    rw [← halike.reply]
    refine Option.map_congr fun len hlen => ?_
    have hturned := agreeOn_turned_of_alike turn' hagree (hr.udp hh) hlen
    exact (hturned.datagram.addressed (Nat.le_add_right _ _)).slice_eq (Nat.le_refl 0)
      (Nat.le_refl _)
  | nothing h => rw [(react_of_ignored hf h).outgoing?, (react_of_ignored hg h).outgoing?]

lemma delivery_congr (hf : f.Holds b) (hg : g.Holds b) (hr : r.Stateless) :
    (f.react s r turn b.length).delivery = (g.react s r turn' b.length).delivery := by
  cases demand s r b with
  | arp h =>
    rw [react_of_asksArp hf h, react_of_asksArp hg h]
    rfl
  | echo h =>
    rw [react_of_asksEcho hf h, react_of_asksEcho hg h]
    rfl
  | control h hpsh =>
    rw [react_of_carriesSegment hf h, react_of_carriesSegment hg h, if_pos hpsh, if_pos hpsh]
    rfl
  | segment handler h hpsh hh =>
    rw [react_of_segment hf h hpsh hh, react_of_segment hg h hpsh hh, Reaction.delivery_called,
      Reaction.delivery_called]
    have hagree := hf.agreeOn_offeringSegment hg (.segment h hpsh hh)
    exact congrArg some ((alike_exchange hagree).turn (hr.tcp hh) turn turn').1
  | datagram handler h hh =>
    rw [react_of_datagram hf h hh, react_of_datagram hg h hh, Reaction.delivery_called,
      Reaction.delivery_called]
    have hagree := hf.agreeOn_offeringDatagram hg (.datagram h hh)
    exact congrArg some ((alike_exchange hagree).turn (hr.udp hh) turn turn').1
  | nothing h => rw [(react_of_ignored hf h).2, (react_of_ignored hg h).2]

end Frame

end PacketHost
