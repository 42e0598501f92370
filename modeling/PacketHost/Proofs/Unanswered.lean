import PacketHost.Proofs.Retrying

/-!
What a frame that is not answered leaves in the buffer, and what a send makes of that.

The frame is not as it was received: an accepted packet has been ended, and an application may have
written over what was offered to it. But all this is behind the headers, or is the same whatever
stood in the buffer before (`agreeOn_alone`). A send reads the headers and nothing else, and so it
answers the frame alone if the frame holds them all (`prepares_alone`). Of a shorter frame's headers
the rest is what earlier frames have left.
-/

namespace PacketHost

open Bytes Received

namespace Received

/-- The frame reaches to the end of the headers of a record, by the record's own account. -/
def HoldsHeaders (b : Bytes) : Transport → Prop
  | .udp => 42 ≤ b.length
  | .tcp => 54 ≤ b.length ∧ 34 + (tcp b).dataOffset ≤ b.length

lemma HoldsHeaders.outer_le {b : Bytes} {t : Transport} (h : HoldsHeaders b t) :
    transportOffset ≤ b.length := by
  cases t with
  | udp => exact Nat.le_trans (by decide) h
  | tcp => exact Nat.le_trans (by decide) h.1

/-- No application's region reaches into the header of a datagram. -/
lemma Calls.le_start {s : Settings} {r : Registry} {b : Bytes} {c : Call} (h : Calls s r b c) :
    udpDataOffset ≤ c.start := by
  cases h with
  | segment h =>
    have hge := h.offset_ge
    show 42 ≤ 34 + (tcp b).dataOffset
    omega
  | datagram h => exact Nat.le_refl 42

/-- What a segment carries starts behind its header. -/
lemma Calls.start_eq {s : Settings} {r : Registry} {b : Bytes} {c : Call} (h : Calls s r b c)
    (hprotocol : (ip b).protocol = IpProtocol.tcp) :
    c.start = 34 + (tcp b).dataOffset ∧ 20 ≤ (tcp b).dataOffset := by
  cases h with
  | segment h => exact ⟨rfl, h.offset_ge⟩
  | datagram h => exact absurd (h.protocol.symm.trans hprotocol) (by decide)

end Received

namespace Frame

variable {s : Settings} {r : Registry} {turn : Nat} {b data : Bytes} {f g : Frame}

/-! ### The frame that is left -/

/-- What is left in the buffer of a frame that is not answered, up to where an application has had
its turn. A reply to an echo request that is too long to be sent is left as well. -/
def unanswered (s : Settings) (f : Frame) (b : Bytes) : Frame :=
  if AsksEcho s b then f.echoing b else f.kept s b

lemma kept_of_segment (h : CarriesSegment s b) : f.kept s b = f.offeringSegment b := if_pos h

lemma kept_of_datagram (h : CarriesDatagram s b) : f.kept s b = f.offeringDatagram b := by
  rw [kept, if_neg h.not_carriesSegment, if_pos h]
  rfl

/-- Up to an application's region. -/
lemma agreeOn_of_quiet {stop : Nat} (hf : f.Holds b)
    (hquiet : (f.react s r turn b.length).outgoing? = none)
    (hstop : ∀ c, Calls s r b c → stop ≤ c.start) :
    AgreeOn 0 stop (f.react s r turn b.length).frame (f.unanswered s b) := by
  cases demand s r b with
  | arp h =>
    rw [outgoing?_of_asksArp hf h] at hquiet
    cases hquiet
  | echo h =>
    have hlong : 1480 < packetLength b - 20 := by
      rw [outgoing?_of_asksEcho hf h, ite_eq_right_iff] at hquiet
      have hlt := Nat.lt_of_not_le fun hle => nomatch hquiet hle
      omega
    rw [react_of_asksEcho hf h, answerIpv4_of_lt _ _ hlong, unanswered, if_pos h]
    exact .refl _ _ _
  | control h hpsh =>
    rw [outgoing?_of_control hf h hpsh] at hquiet
    cases hquiet
  | segment handler h hpsh hh =>
    rw [outgoing?_of_segment hf h hpsh hh, Option.map_eq_none_iff] at hquiet
    obtain ⟨hframe, -⟩ := called_of_none .tcpData (fun g len => g.answerTcp s r len) hquiet
    rw [react_of_segment hf h hpsh hh, hframe, unanswered, if_neg h.not_asksEcho, kept_of_segment h]
    exact agreeOn_turned _ _ _ (hstop _ (.segment h hpsh hh))
  | datagram handler h hh =>
    rw [outgoing?_of_datagram hf h hh, Option.map_eq_none_iff] at hquiet
    obtain ⟨hframe, -⟩ := called_of_none .udp (fun g len => g.answerUdp s len) hquiet
    rw [react_of_datagram hf h hh, hframe, unanswered, if_neg h.not_asksEcho, kept_of_datagram h]
    exact agreeOn_turned _ _ _ (hstop _ (.datagram h hh))
  | nothing h =>
    rw [(leaves_of_ignored hf h).frame_eq, unanswered, if_neg h.echo]
    exact .refl _ _ _

/-- The outer headers stay as they were received. -/
lemma agreeOn_unanswered_outer : AgreeOn 0 transportOffset (f.unanswered s b) f := by
  unfold unanswered kept
  split
  next h => exact agreeOn_echoing h.toAccepted
  split
  next h => exact agreeOn_offeringSegment h.toAccepted
  split
  next h => exact agreeOn_offeringDatagram h.toAccepted
  split
  next h => exact agreeOn_accepted h
  next => exact .refl _ _ _

lemma agreeOn_outer_of_quiet (hf : f.Holds b)
    (hquiet : (f.react s r turn b.length).outgoing? = none) :
    AgreeOn 0 transportOffset (f.react s r turn b.length).frame f :=
  (agreeOn_of_quiet hf hquiet fun _ hc => Nat.le_trans (by decide) hc.le_start).trans
    agreeOn_unanswered_outer

/-- As far as the frame reaches it is left the same in any buffer. -/
lemma Holds.agreeOn_unanswered (hf : f.Holds b) (hg : g.Holds b) :
    AgreeOn 0 b.length (f.unanswered s b) (g.unanswered s b) := by
  have hagree := hf.agreeOn hg
  have hended : AgreeOn 0 b.length (f.ended b) (g.ended b) := hagree.write _ _
  unfold unanswered kept
  split
  · exact hended.write _ _
  split
  · exact hended.put _ _
  split
  · exact hended.write _ _
  split
  · exact hended
  · exact hagree

/-! ### The frame alone -/

/-- What a frame leaves in a buffer that was blank, with no application registered. -/
def alone (s : Settings) (b : Bytes) : Frame :=
  ((blank.write 0 b).react s {} 0 b.length).frame

/-- What is not answered with applications is not answered without. -/
lemma quiet_unattended {turn' : Nat} (hf : f.Holds b) (hg : g.Holds b)
    (hquiet : (f.react s r turn b.length).outgoing? = none) :
    (g.react s {} turn' b.length).outgoing? = none := by
  cases demand s {} b with
  | arp h =>
    rw [outgoing?_of_asksArp hf h] at hquiet
    cases hquiet
  | echo h =>
    rw [outgoing?_of_asksEcho hf h, ite_eq_right_iff] at hquiet
    rw [outgoing?_of_asksEcho hg h, if_neg fun hle => nomatch hquiet hle]
  | control h hpsh =>
    rw [outgoing?_of_control hf h hpsh] at hquiet
    cases hquiet
  | segment handler h hpsh hh => cases hh
  | datagram handler h hh => cases hh
  | nothing h => exact (leaves_of_ignored hg h).silent.outgoing?

/-- As far as the frame reaches, and no application has had its turn, nothing that stood in the
buffer before is left. -/
lemma agreeOn_alone {stop : Nat} (hf : f.Holds b)
    (hquiet : (f.react s r turn b.length).outgoing? = none) (hlen : stop ≤ b.length)
    (hstop : ∀ c, Calls s r b c → stop ≤ c.start) :
    AgreeOn 0 stop (f.react s r turn b.length).frame (alone s b) := by
  have hblank : (blank.write 0 b).Holds b := holds_write _ hf.length_le
  have hnobody : ∀ c, Calls s {} b c → stop ≤ c.start := by
    rintro c (⟨-, -, hh⟩ | ⟨-, hh⟩)
    · cases hh
    · cases hh
  have halone : AgreeOn 0 stop (alone s b) ((blank.write 0 b).unanswered s b) :=
    agreeOn_of_quiet hblank (quiet_unattended hf hblank hquiet) hnobody
  have hsame := (hf.agreeOn_unanswered (s := s) hblank).mono (Nat.le_refl 0) hlen
  exact ((agreeOn_of_quiet hf hquiet hstop).trans hsame).trans halone.symm

/-! ### What a send asks of the buffer -/

lemma AgreeOn.stages_iff {stop : Nat} {protocol : UInt8} (h : AgreeOn 0 stop f g)
    (hstop : 34 ≤ stop) : f.Stages protocol ↔ g.Stages protocol := by
  rw [← holdsPacket_iff, ← holdsPacket_iff, holdsPacket, holdsPacket, h.get_ipv4 hstop,
    h.get_ethernet (Nat.le_trans (by decide) hstop)]

/-- A frame that reaches beyond them decides what is asked of the outer headers. -/
lemma Holds.stages_iff {protocol : UInt8} (hf : f.Holds b) (hlen : 24 ≤ b.length) :
    f.Stages protocol ↔ word16At b 12 = 0x0800 ∧ byteAt b 14 = 0x45 ∧ byteAt b 23 = protocol := by
  have htype : word16At f.bytes 12 = word16At b 12 :=
    congrArg₂ word16 (hf.byte_eq 12 (by omega)) (hf.byte_eq 13 (by omega))
  rw [Stages, htype, hf.byte_eq 14 (by omega), hf.byte_eq 23 (by omega)]

/-- The data offset is half of a byte. -/
lemma stagedOffset_eq (f : Frame) : f.stagedOffset = (f.byte 46).toNat / 16 * 4 := by
  have hnibble : (word16At f.bytes 46 >>> 12).toNat = (word16At f.bytes 46).toNat / 4096 :=
    (UInt16.toNat_shiftRight ..).trans (Nat.shiftRight_eq_div_pow ..)
  have hlow := (byteAt f.bytes (46 + 1)).toNat_lt
  show (word16At f.bytes 46 >>> 12).toNat * 4 = (byteAt f.bytes 46).toNat / 16 * 4
  rw [hnibble, word16At, toNat_word16]
  omega

/-- Ending a packet does not move the data of a segment back. -/
lemma stagedOffset_terminate_le (f : Frame) (stop : Nat) :
    (f.terminate stop).stagedOffset ≤ f.stagedOffset := by
  rw [stagedOffset_eq, stagedOffset_eq, terminate, byte_write]
  split
  next h =>
    have hstop : stop = 46 := by
      rw [List.length_singleton] at h
      omega
    rw [hstop]
    exact Nat.zero_le _
  next => exact Nat.le_refl _

/-- The data of a segment starts as far on as the frame itself says, or not as far. -/
lemma stagedOffset_unanswered_le (hf : f.Holds b) (hlen : 54 ≤ b.length)
    (hprotocol : (ip b).protocol = IpProtocol.tcp) :
    (f.unanswered s b).stagedOffset ≤ (tcp b).dataOffset := by
  -- a packet that ends early may end in the byte that tells the offset
  have hoffset : f.stagedOffset = (tcp b).dataOffset :=
    congrArg TcpHeader.dataOffset (hf.get_eq (show 34 + 20 ≤ b.length from hlen))
  unfold unanswered kept
  split
  next h => exact absurd (hprotocol.symm.trans h.protocol) (by decide)
  split
  next h => rw [stagedOffset, get_put_tcp, TcpHeader.dataOffset_swapForReply]
  split
  next h => exact absurd (hprotocol.symm.trans h.protocol) (by decide)
  split
  next h => exact hoffset ▸ stagedOffset_terminate_le f _
  next => exact Nat.le_of_eq hoffset

/-! ### Sends -/

/-- Where the headers end that a send answers. -/
def headerEnd (f : Frame) : Transport → Nat
  | .udp => udpDataOffset
  | .tcp => transportOffset + max 20 f.stagedOffset

/-- The same comes of a send over either buffer, up to the device. -/
inductive PreparesAlike (s : Settings) (r : Registry) (data : Bytes) (t : Transport)
    (f g : Frame) : Prop
  | refused {e : NetError} (left : f.prepare s r data t = ⟨f, .error e⟩)
      (right : g.prepare s r data t = ⟨g, .error e⟩)
  | sent {b : Bytes} (left : (f.prepare s r data t).outgoing? = some b)
      (right : (g.prepare s r data t).outgoing? = some b)

variable {t : Transport} {e : NetError}

lemma refuses_mismatch (h : ¬ f.Stages t.protocol) : f.Refuses data t (.protocolMismatch t) := by
  cases t with
  | udp => exact .mismatch h
  | tcp => exact .mismatch h

/-- Of a record of the right protocol something else is reported. -/
lemma Refuses.ne_mismatch (h : f.Refuses data t e) (hstages : f.Stages t.protocol) :
    e ≠ .protocolMismatch t := by
  cases t with
  | udp =>
    cases h with
    | mismatch hnot => exact absurd hstages hnot
    | tooLarge => exact nofun
  | tcp =>
    cases h with
    | mismatch hnot => exact absurd hstages hnot
    | badOffset => exact nofun
    | tooLarge => exact nofun

lemma le_headerEnd (f : Frame) (t : Transport) : transportOffset ≤ f.headerEnd t := by
  cases t with
  | udp => exact show 34 ≤ 42 by decide
  | tcp => exact Nat.le_add_right _ _

namespace AgreeOn

variable (h : AgreeOn 0 (f.headerEnd t) f g)

include h

lemma stages_eq (protocol : UInt8) : f.Stages protocol = g.Stages protocol :=
  propext (h.stages_iff (f.le_headerEnd t))

lemma stagedOffset_eq (ht : t = .tcp) : f.stagedOffset = g.stagedOffset := by
  subst ht
  have hheader : transportOffset + 20 ≤ f.headerEnd .tcp :=
    Nat.add_le_add_left (Nat.le_max_left _ _) _
  exact congrArg TcpHeader.dataOffset (h.get_tcp hheader)

lemma admits (hf : f.Admits data t) : g.Admits data t := by
  cases t with
  | udp => exact ⟨h.stages_eq _ ▸ hf.1, hf.2⟩
  | tcp =>
    rw [Admits, h.stages_eq, h.stagedOffset_eq rfl] at hf
    exact hf

/-- Over either buffer the same is refused, for the same reason. -/
lemma refuses (hf : f.Refuses data t e) : g.Refuses data t e := by
  have hstages := h.stages_eq t.protocol
  cases t with
  | udp =>
    cases hf with
    | mismatch hnot => exact .mismatch (hstages ▸ hnot)
    | tooLarge hready hlen => exact .tooLarge (hstages ▸ hready) hlen
  | tcp =>
    have hoffset := h.stagedOffset_eq rfl
    cases hf with
    | mismatch hnot => exact .mismatch (hstages ▸ hnot)
    | badOffset hready hoff =>
      rw [hoffset] at hoff ⊢
      exact .badOffset (hstages ▸ hready) hoff
    | tooLarge hready hoff hlen =>
      rw [hoffset] at hoff hlen ⊢
      exact .tooLarge (hstages ▸ hready) hoff hlen

end AgreeOn

/-- It is the headers that are answered. -/
lemma answerTo_of_agreeOn (hadmits : f.Admits data t) (h : AgreeOn 0 (f.headerEnd t) f g) :
    answerTo s r data f.bytes t = answerTo s r data g.bytes t := by
  have hle := f.stagedOffset_le
  have hfit : f.headerEnd t ≤ frameSize := by
    cases t with
    | udp => exact show 42 ≤ 1536 by decide
    | tcp => exact show 34 + max 20 f.stagedOffset ≤ 1536 by omega
  obtain ⟨hlen, hf⟩ := holds_of_slice hfit (g := f) rfl
  obtain ⟨-, hg⟩ := holds_of_slice hfit (h.slice_eq (Nat.le_refl 0) (Nat.le_refl _)).symm
  generalize f.slice 0 (f.headerEnd t) = headers at hlen hf hg
  have hoffset (ht : t = .tcp) : headers.length = 34 + f.stagedOffset ∧
      20 ≤ f.stagedOffset ∧ (tcp headers).dataOffset = f.stagedOffset := by
    subst ht
    have hge := hadmits.2.1
    have hlength : headers.length = 34 + f.stagedOffset := by
      rw [hlen, headerEnd, Nat.max_eq_right hge]
    refine ⟨hlength, hge, ?_⟩
    exact (congrArg TcpHeader.dataOffset (hf.get_eq (show 34 + 20 ≤ _ by omega))).symm
  have hanswerable : Answerable headers t := by
    refine ⟨?_, fun ht => ?_, fun ht => ?_⟩
    · rintro rfl
      exact Nat.le_of_eq hlen.symm
    · obtain ⟨-, hge, heq⟩ := hoffset ht
      rwa [heq]
    · obtain ⟨hlength, -, heq⟩ := hoffset ht
      rw [heq, hlength]
  have houter : transportOffset ≤ headers.length := hlen ▸ f.le_headerEnd t
  rw [answerTo_congr hf hanswerable houter, answerTo_congr hg hanswerable houter]

lemma prepares_of_agreeOn (h : AgreeOn 0 (f.headerEnd t) f g) :
    PreparesAlike s r data t f g := by
  rcases f.refuses_or_admits data t with ⟨e, he⟩ | hadmits
  · exact .refused (prepare_of_refuses he) (prepare_of_refuses (h.refuses he))
  · obtain ⟨f', hf'⟩ := exists_answers s r hadmits
    obtain ⟨g', hg'⟩ := exists_answers s r (h.admits hadmits)
    exact .sent hf'.outgoing? (answerTo_of_agreeOn hadmits h ▸ hg'.outgoing?)

/-- The headers that a send answers are in the frame, and in front of every application's region. -/
lemma headerEnd_of_quiet (hf : f.Holds b) (hquiet : (f.react s r turn b.length).outgoing? = none)
    (hb : HoldsHeaders b t)
    (hstages : (f.react s r turn b.length).frame.Stages t.protocol) :
    (f.react s r turn b.length).frame.headerEnd t ≤ b.length ∧
      ∀ c, Calls s r b c → (f.react s r turn b.length).frame.headerEnd t ≤ c.start := by
  cases t with
  | udp => exact ⟨hb, fun c hc => hc.le_start⟩
  | tcp =>
    obtain ⟨hlen, hoffset⟩ := hb
    have hprotocol : (ip b).protocol = IpProtocol.tcp :=
      ((hf.stages_iff (by omega)).1 (((agreeOn_outer_of_quiet hf hquiet).stages_iff
        (Nat.le_refl 34)).1 hstages)).2.2
    have hleft : AgreeOn 0 54 (f.react s r turn b.length).frame (f.unanswered s b) :=
      agreeOn_of_quiet hf hquiet fun c hc => by
        obtain ⟨hstart, hge⟩ := hc.start_eq hprotocol
        omega
    have hle : (f.react s r turn b.length).frame.stagedOffset ≤ (tcp b).dataOffset := by
      rw [stagedOffset, hleft.get_tcp (Nat.le_refl 54)]
      exact stagedOffset_unanswered_le hf hlen hprotocol
    have hend : (f.react s r turn b.length).frame.headerEnd .tcp =
        34 + max 20 (f.react s r turn b.length).frame.stagedOffset := rfl
    refine ⟨by omega, fun c hc => ?_⟩
    obtain ⟨hstart, hge⟩ := hc.start_eq hprotocol
    omega

/-- A send over a frame that has not been answered answers that frame alone, if it holds the headers
of its record. -/
lemma prepares_alone {r' : Registry} (hf : f.Holds b)
    (hquiet : (f.react s r turn b.length).outgoing? = none) (hb : HoldsHeaders b t) :
    PreparesAlike s r' data t (f.react s r turn b.length).frame (alone s b) := by
  by_cases hstages : (f.react s r turn b.length).frame.Stages t.protocol
  · obtain ⟨hlen, hstart⟩ := headerEnd_of_quiet hf hquiet hb hstages
    exact prepares_of_agreeOn (agreeOn_alone hf hquiet hlen hstart)
  · have houter : AgreeOn 0 transportOffset (f.react s r turn b.length).frame (alone s b) :=
      agreeOn_alone hf hquiet hb.outer_le fun c hc => Nat.le_trans (by decide) hc.le_start
    have halone := mt (houter.stages_iff (Nat.le_refl 34)).2 hstages
    exact .refused (prepare_of_refuses (refuses_mismatch hstages))
      (prepare_of_refuses (refuses_mismatch halone))

end Frame

end PacketHost
