import PacketHost.Proofs.Retrying

/-!
Requests that are answered with themselves.

A request ends where the frame ends at the latest, and the room for an answer ends one byte before
the largest frame does, since the answer may have to be padded. So a request can be given back, as a
copy or where it stands, unless it ends with the last byte of a frame of the largest size. Then it
is longer by one byte than any answer to it.
-/

namespace PacketHost

open Bytes Received

/-! ### Giving a request back -/

namespace Exchange

variable (x : Exchange)

/-- A request is given back as a copy, or where it stands. -/
inductive GivesBack : Action → Prop
  | copy : GivesBack (.reply x.request)
  | inPlace : GivesBack (.replyInPlace x.request.length)

variable {x} {a : Action}

/-- There is no room for it. -/
lemma perform_of_lt (ha : x.GivesBack a) (hlen : x.capacity < x.request.length) :
    x.perform a = (.error (.payloadTooLarge x.request.length x.capacity), x) := by
  cases ha <;> exact if_pos hlen

/-- Whatever has been done before, if it has left the request alone, the request is the answer. -/
lemma answer?_of_givesBack (as : List Action) (ha : x.GivesBack a)
    (hlen : x.request.length ≤ x.capacity) (hkept : (x.performAll as).2.request = x.request) :
    ((x.performAll as).2.perform a).1 = .ok () ∧
      (x.performAll (as ++ [a])).2.answer? = some x.request := by
  have hroom : ¬ (x.performAll as).2.capacity < x.request.length := by
    rw [capacity_performAll]
    exact Nat.not_lt.2 hlen
  cases ha with
  | copy =>
    refine ⟨?_, x.answer?_of_reply as hlen⟩
    rw [perform, setReply, if_neg hroom]
  | inPlace =>
    have hsame : x.request.length = (x.performAll as).2.length := by
      rw [x.length_request, (x.follows_performAll as).length]
    rw [performAll_append]
    refine ⟨?_, ?_⟩
    · rw [perform, setReply, if_neg hroom]
    · simp only [performAll, perform, setReply, if_neg hroom, answer?, Option.map_some]
      rw [hsame, ← hkept]
      rfl

/-- The room for the answer starts where the request does. -/
lemma request_isPrefix (hlen : x.request.length ≤ x.capacity) :
    x.request <+: x.region.take x.capacity := by
  rw [x.length_request] at hlen
  exact List.take_prefix_take_left hlen

end Exchange

/-! ### The room for it -/

namespace Received

variable {s : Settings} {r : Registry} {b : Bytes} {c : Call}

lemma Calls.start_lt (h : Calls s r b c) : c.start < maxFrameLength := by
  cases h with
  | segment => exact Frame.segmentCall_start_lt b _
  | datagram => exact (by decide : udpDataOffset < maxFrameLength)

lemma Calls.stop_le (h : Calls s r b c) : c.start + c.length ≤ b.length :=
  Nat.le_trans h.end_le h.accepted.end_le

/-- In a frame of no more than the largest size nothing of a request is lost. -/
lemma requested_eq (h : Calls s r b c) (hb : b.length ≤ maxFrameLength) :
    requested b c = slice b c.start (c.start + c.length) := by
  have hstop := h.stop_le
  refine List.take_of_length_le ?_
  rw [length_slice]
  omega

lemma length_requested (h : Calls s r b c) (hb : b.length ≤ maxFrameLength) :
    (requested b c).length = c.length := by
  have hstop := h.stop_le
  rw [requested_eq h hb, length_slice]
  omega

/-- The one byte that is kept back is all that a request can be too long by. -/
lemma Calls.length_le_capacity (h : Calls s r b c) (hb : b.length ≤ maxFrameLength) :
    c.length ≤ c.capacity + 1 ∧
      (c.length ≤ c.capacity ↔ c.start + c.length < maxFrameLength) := by
  have hstart : c.start < 1514 := h.start_lt
  have hstop : c.start + c.length ≤ 1514 := Nat.le_trans h.stop_le hb
  show c.length ≤ 1514 - c.start - 1 + 1 ∧
    (c.length ≤ 1514 - c.start - 1 ↔ c.start + c.length < 1514)
  omega

end Received

/-! ### What goes out -/

namespace Frame

variable {s : Settings} {r : Registry} {turn : Nat} {b : Bytes} {f : Frame} {c : Call}
  {data : Bytes}

/-- The answer to a datagram goes out behind its header. -/
lemma exists_outgoing_of_datagram {handler : Handler} (hf : f.Holds b) (h : CarriesDatagram s b)
    (hh : r.udpHandler? (udp b).dstPort = some handler)
    (hanswer : ((f.offered b (datagramCall b handler)).after turn handler).answer? = some data) :
    ∃ reply, (f.react s r turn b.length).outgoing? = some reply ∧
      reply.drop udpDataOffset = padded data := by
  obtain ⟨len, hreply, hdata⟩ := Option.map_eq_some_iff.1 hanswer
  have hlen : len ≤ 1471 := reply_datagram_le hreply
  have hout := @outgoing?_of_datagram s r turn b f handler hf h hh
  have hoffering : ((f.offeringDatagram b).exchange (datagramCall b handler)).after turn handler =
      (f.offered b (datagramCall b handler)).after turn handler := rfl
  rw [hoffering, hreply] at hout
  refine ⟨_, hout, ?_⟩
  have hslice : ((f.offeringDatagram b).turned (datagramCall b handler) turn).slice udpDataOffset
      (udpDataOffset + len) = data :=
    ((f.offeringDatagram b).slice_turned (datagramCall b handler) turn
      (show 42 + len ≤ 1514 by omega)).trans hdata
  generalize hturned : (f.offeringDatagram b).turned (datagramCall b handler) turn = g at hslice
  simp only [answeringDatagram, hturned]
  calc (((g.datagram s len).addressed s IpProtocol.udp (8 + evenLength len)).slice 0
        (transportOffset + (8 + evenLength len))).drop udpDataOffset
      = (g.datagram s len).slice udpDataOffset (udpDataOffset + evenLength len) := by
        rw [drop_slice, ← Nat.add_assoc]
        exact (agreeOn_addressed s _ _).slice_eq (by decide) (Nat.le_refl _)
    _ = (g.padEven udpDataOffset len).slice udpDataOffset (udpDataOffset + evenLength len) :=
        agreeOn_datagram_data.slice_eq (Nat.le_refl _) (Nat.le_refl _)
    _ = padded data := by
        rw [slice_padEven g (show 42 + len < 1536 by omega), hslice]

/-- Whatever the transport, the answer goes out from where the request was. -/
lemma exists_outgoing_of_answer (hf : f.Holds b) (hc : Calls s r b c)
    (hanswer : ((f.offered b c).after turn c.handler).answer? = some data) :
    ∃ reply, (f.react s r turn b.length).outgoing? = some reply ∧
      reply.drop c.start = padded data := by
  cases hc with
  | segment h hpsh hh =>
    have hreplied : f.replied r turn b = some data := by
      rw [replied, hh]
      exact hanswer
    obtain ⟨-, reply, hout, hcarries⟩ := react_of_replied_some (s := s) hf h hpsh hreplied
    exact ⟨reply, hout, hcarries.payload⟩
  | datagram h hh => exact exists_outgoing_of_datagram hf h hh hanswer

lemma outgoing?_of_answer_none (hf : f.Holds b) (hc : Calls s r b c)
    (hanswer : ((f.offered b c).after turn c.handler).reply = none) :
    (f.react s r turn b.length).outgoing? = none := by
  cases hc with
  | segment h hpsh hh =>
    rw [outgoing?_of_segment hf h hpsh hh, exchange_offeringSegment h]
    exact Option.map_eq_none_iff.2 hanswer
  | datagram h hh =>
    rw [outgoing?_of_datagram hf h hh]
    exact Option.map_eq_none_iff.2 hanswer

end Frame

namespace Host

variable {δ : Type} {b : Bytes} {c : Call}

/-- A request as it is offered, in a frame of no more than the largest size. -/
lemma request_offered_eq (h : Host δ) (hb : b.length ≤ maxFrameLength)
    (hc : Calls h.settings h.handlers b c) :
    (h.offered b c).request = slice b c.start (c.start + c.length) ∧
      (h.offered b c).request.length = c.length ∧
      c.length ≤ (h.offered b c).capacity + 1 ∧
      (c.length ≤ (h.offered b c).capacity ↔ c.start + c.length < maxFrameLength) := by
  have hf : (h.frame.write 0 b).Holds b :=
    Frame.holds_write h.frame (Nat.le_trans hb (by decide))
  have hrequest : (h.offered b c).request = requested b c := Frame.request_offered hf hc
  have hcapacity : (h.offered b c).capacity = c.capacity := Frame.capacity_exchange _ c
  rw [hrequest, hcapacity]
  exact ⟨requested_eq hc hb, length_requested hc hb, hc.length_le_capacity hb⟩

variable [Device δ]

lemma sends_given_back (h : Host δ) (hb : b.length ≤ maxFrameLength)
    (hc : Calls h.settings h.handlers b c)
    (hfit : (h.offered b c).request.length ≤ (h.offered b c).capacity) {as : List Action}
    {a : Action} (ha : (h.offered b c).GivesBack a)
    (hkept : ((h.offered b c).performAll as).2.request = (h.offered b c).request)
    (hrespond : c.handler.respond h.deliveries.length (h.offered b c) = as ++ [a]) :
    ∃ reply, ((h.holding b).dispatch b.length).device = (Device.send reply h.device).2 ∧
      reply.drop c.start = padded (h.offered b c).request := by
  have hf : (h.frame.write 0 b).Holds b :=
    Frame.holds_write h.frame (Nat.le_trans hb (by decide))
  obtain ⟨-, hanswer⟩ := Exchange.answer?_of_givesBack as ha hfit hkept
  rw [← hrespond] at hanswer
  obtain ⟨reply, hout, hdata⟩ := Frame.exists_outgoing_of_answer hf hc hanswer
  obtain ⟨log, hdispatch⟩ := h.dispatch_eq b
  refine ⟨reply, ?_, hdata⟩
  rw [hdispatch, reaction, hout]
  rfl

/-- What is too long to be given back is not answered. -/
lemma silent_of_givesBack (h : Host δ) (hb : b.length ≤ maxFrameLength)
    (hc : Calls h.settings h.handlers b c)
    (hlt : (h.offered b c).capacity < (h.offered b c).request.length) {a : Action}
    (ha : (h.offered b c).GivesBack a)
    (hrespond : c.handler.respond h.deliveries.length (h.offered b c) = [a]) :
    ((h.holding b).dispatch b.length).device = h.device := by
  have hf : (h.frame.write 0 b).Holds b :=
    Frame.holds_write h.frame (Nat.le_trans hb (by decide))
  have hnone : ((h.offered b c).after h.deliveries.length c.handler).reply = none := by
    rw [Exchange.after, hrespond, Exchange.performAll, Exchange.perform_of_lt ha hlt]
    rfl
  obtain ⟨log, hdispatch⟩ := h.dispatch_eq b
  rw [hdispatch, reaction, Frame.outgoing?_of_answer_none hf hc hnone]
  rfl

end Host

/-- **A request can be given back, if it ends before the last byte of the largest frame.** It is
offered whole, the room for the answer begins with it, and a copy of it or the request itself goes
out from where it was received. If it does end there, it is one byte too long, and either way of
giving it back is refused: nothing goes out. -/
theorem request_given_back {δ : Type} [Device δ] (h : Host δ) {b : Bytes} {c : Call}
    (hb : b.length ≤ maxFrameLength) (hc : Calls h.settings h.handlers b c) :
    let x := h.offered b c
    x.request = slice b c.start (c.start + c.length) ∧ x.request.length = c.length ∧
      (c.start + c.length < maxFrameLength →
        x.request.length ≤ x.capacity ∧ x.request <+: x.region.take x.capacity ∧
          ∀ as a, x.GivesBack a → (x.performAll as).2.request = x.request →
            ((x.performAll as).2.perform a).1 = .ok () ∧
              (c.handler.respond h.deliveries.length x = as ++ [a] → ∃ reply,
                ((h.holding b).dispatch b.length).device = (Device.send reply h.device).2 ∧
                  reply.drop c.start = padded x.request)) ∧
      (c.start + c.length = maxFrameLength →
        x.request.length = x.capacity + 1 ∧
          ∀ a, x.GivesBack a →
            x.perform a = (.error (.payloadTooLarge x.request.length x.capacity), x) ∧
              (c.handler.respond h.deliveries.length x = [a] →
                ((h.holding b).dispatch b.length).device = h.device)) := by
  dsimp only
  obtain ⟨hrequest, hlength, hle, hiff⟩ := h.request_offered_eq hb hc
  refine ⟨hrequest, hlength, fun hstop => ?_, fun hstop => ?_⟩
  · have hfit : (h.offered b c).request.length ≤ (h.offered b c).capacity := by
      rw [hlength]
      exact hiff.2 hstop
    refine ⟨hfit, Exchange.request_isPrefix hfit, fun as a ha hkept => ⟨?_, ?_⟩⟩
    · exact (Exchange.answer?_of_givesBack as ha hfit hkept).1
    · exact h.sends_given_back hb hc hfit ha hkept
  · have hlt : (h.offered b c).capacity < (h.offered b c).request.length := by
      rw [hlength]
      omega
    refine ⟨by omega, fun a ha => ⟨Exchange.perform_of_lt ha hlt, ?_⟩⟩
    exact h.silent_of_givesBack hb hc hlt ha

/-- The three bytes are given back with a byte of padding behind them. -/
theorem request_given_back_oddDatagram :
    oddDatagram.length ≤ maxFrameLength ∧
      Calls {} (Host.echoing []).handlers oddDatagram (datagramCall oddDatagram .echo) ∧
      ∃ reply, (((Host.echoing []).holding oddDatagram).dispatch oddDatagram.length).device =
          (Device.send reply (Host.echoing []).device).2 ∧
        reply.drop udpDataOffset = [0x6f, 0x64, 0x64, 0] := by
  have hlength : oddDatagram.length ≤ maxFrameLength := by decide
  have hcalls : Calls (Host.echoing []).settings (Host.echoing []).handlers oddDatagram
      (datagramCall oddDatagram .echo) :=
    .datagram (by decide) rfl
  obtain ⟨hrequest, -, hback, -⟩ := request_given_back (Host.echoing []) hlength hcalls
  obtain ⟨-, -, hgives⟩ := hback (by decide)
  obtain ⟨-, hsends⟩ := hgives [] _ .copy rfl
  obtain ⟨reply, hdevice, hdata⟩ := hsends rfl
  refine ⟨hlength, hcalls, reply, hdevice, ?_⟩
  rw [hrequest] at hdata
  exact hdata

/-- A datagram for the same port that fills the largest frame. -/
def fullDatagram : Bytes :=
  [0x02, 0, 0, 0, 0, 0x01, 0x02, 0, 0, 0, 0, 0x02, 0x08, 0x00,
    0x45, 0, 0x05, 0xdc, 0x12, 0x34, 0, 0, 64, 17, 0, 0, 10, 0, 0, 2, 10, 0, 0, 1,
    0x0f, 0xa0, 0, 7, 0x05, 0xc8, 0, 0] ++ List.replicate 1472 0x61

/-- **A request that fills the largest frame cannot be given back**: either way it is refused, and
the application that would echo it answers nothing. -/
theorem fullDatagram_not_given_back :
    let h := Host.echoing []
    let x := h.offered fullDatagram (datagramCall fullDatagram .echo)
    fullDatagram.length ≤ maxFrameLength ∧
      Calls h.settings h.handlers fullDatagram (datagramCall fullDatagram .echo) ∧
      ¬ x.request.length ≤ x.capacity ∧
      (x.perform (.reply x.request)).1 = .error (.payloadTooLarge 1472 1471) ∧
      (x.perform (.replyInPlace x.request.length)).1 = .error (.payloadTooLarge 1472 1471) ∧
      ((h.holding fullDatagram).dispatch fullDatagram.length).device.sent = [] := by
  dsimp only
  have hlength : fullDatagram.length ≤ maxFrameLength := by decide +kernel
  have hcalls : Calls (Host.echoing []).settings (Host.echoing []).handlers fullDatagram
      (datagramCall fullDatagram .echo) :=
    .datagram (by decide +kernel) (by rfl)
  have hcall : (datagramCall fullDatagram .echo).length = 1472 := by decide +kernel
  have hcapacity : ((Host.echoing []).offered fullDatagram (datagramCall fullDatagram
      .echo)).capacity = 1471 :=
    Frame.capacity_exchange _ _
  obtain ⟨-, hrequest, -⟩ := (Host.echoing []).request_offered_eq hlength hcalls
  rw [hcall] at hrequest
  have hlt : ((Host.echoing []).offered fullDatagram (datagramCall fullDatagram .echo)).capacity <
      ((Host.echoing []).offered fullDatagram
        (datagramCall fullDatagram .echo)).request.length := by
    rw [hcapacity, hrequest]
    decide
  refine ⟨hlength, hcalls, Nat.not_le.2 hlt, ?_, ?_, ?_⟩
  · rw [Exchange.perform_of_lt .copy hlt, hcapacity, hrequest]
  · rw [Exchange.perform_of_lt .inPlace hlt, hcapacity, hrequest]
  · rw [(Host.echoing []).silent_of_givesBack hlength hcalls hlt .copy rfl]
    rfl

end PacketHost
