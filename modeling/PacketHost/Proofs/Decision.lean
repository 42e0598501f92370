import PacketHost.Proofs.Dispatch
import PacketHost.Proofs.Outgoing

/-!
The decision about a received frame: whether it is answered, and which application has a turn.

Both are said in terms of the received bytes alone, but for one thing: whether an application leaves
a reply. What it is offered begins with bytes of the received frame, although by then the segment's
header stands turned around and the packet has been ended in the buffer.
-/

namespace PacketHost

open Bytes Received

namespace Received

variable (s : Settings) (r : Registry) (b : Bytes)

/-- When a frame is answered, if it is known which turns leave a reply. -/
inductive Answered (replies : Call → Prop) : Prop
  | arp (asks : AsksArp s b)
  | echo (asks : AsksEcho s b) (fits : packetLength b ≤ 1500)
  | control (carries : CarriesSegment s b) (psh : (tcp b).has TcpFlag.psh = false)
  | reply (c : Call) (calls : Calls s r b c) (replied : replies c)

/-- What an application is offered of a frame. -/
def requested (c : Call) : Bytes :=
  (slice b c.start (c.start + c.length)).take (maxFrameLength - c.start)

end Received

namespace Frame

variable {s : Settings} {r : Registry} {turn : Nat} {b : Bytes} {f : Frame} {c : Call}

/-- What an application is offered: the packet is ended, and so is the request. -/
def offered (f : Frame) (b : Bytes) (c : Call) : Exchange :=
  ((f.ended b).terminate (c.start + c.length)).exchange c

lemma request_offered (hf : f.Holds b) (h : Calls s r b c) :
    (f.offered b c).request = requested b c := by
  rw [offered, request_exchange, requested]
  congr 1
  calc ((f.ended b).terminate (c.start + c.length)).slice c.start (c.start + c.length)
      = (f.ended b).slice c.start (c.start + c.length) :=
        (agreeOn_write (.inr (Nat.le_refl _))).slice_eq (Nat.le_refl _) (Nat.le_refl _)
    _ = Bytes.slice b c.start (c.start + c.length) := slice_ended hf h.accepted h.end_le

/-- A segment's data ends with its packet, and its header stands in front of it. -/
lemma exchange_offeringSegment {handler : Handler} (h : CarriesSegment s b) :
    (f.offeringSegment b).exchange (segmentCall b handler) =
      f.offered b (segmentCall b handler) := by
  have hend : (f.ended b).terminate (ipOffset + packetLength b) = f.ended b :=
    write_write_inside (k := 0) (Nat.le_refl 1)
  refine exchange_congr _ _ ?_
  rw [h.end_eq, hend]
  exact agreeOn_put (.inl (Nat.add_le_add_left h.offset_ge transportOffset))

/-- Exactly those frames are answered. -/
lemma isSome_outgoing? (hf : f.Holds b) :
    (f.react s r turn b.length).outgoing?.isSome ↔
      Answered s r b fun c => ((f.offered b c).after turn c.handler).reply.isSome := by
  cases demand s r b with
  | arp h =>
    rw [outgoing?_of_asksArp hf h]
    exact ⟨fun _ => .arp h, fun _ => rfl⟩
  | echo h =>
    rw [outgoing?_of_asksEcho hf h]
    constructor
    · intro hout
      split at hout
      · exact .echo h ‹_›
      · cases hout
    · rintro (harp | ⟨-, hfits⟩ | ⟨hseg, -⟩ | ⟨c, hc, -⟩)
      · exact absurd harp h.toAccepted.not_asksArp
      · rw [if_pos hfits]
        rfl
      · exact absurd h hseg.not_asksEcho
      · exact absurd h hc.not_asksEcho
  | control h hpsh =>
    rw [outgoing?_of_control hf h hpsh]
    exact ⟨fun _ => .control h hpsh, fun _ => rfl⟩
  | segment handler h hpsh hh =>
    have hc : Calls s r b (segmentCall b handler) := .segment h hpsh hh
    rw [outgoing?_of_segment hf h hpsh hh, Option.isSome_map, exchange_offeringSegment h]
    constructor
    · exact fun hreply => .reply _ hc hreply
    · rintro (harp | ⟨hecho, -⟩ | ⟨-, hclear⟩ | ⟨c, hc', hreply⟩)
      · exact absurd harp h.toAccepted.not_asksArp
      · exact absurd hecho h.not_asksEcho
      · rw [hpsh] at hclear
        cases hclear
      · rw [hc'.unique hc] at hreply
        exact hreply
  | datagram handler h hh =>
    have hc : Calls s r b (datagramCall b handler) := .datagram h hh
    rw [outgoing?_of_datagram hf h hh, Option.isSome_map]
    constructor
    · exact fun hreply => .reply _ hc hreply
    · rintro (harp | ⟨hecho, -⟩ | ⟨hseg, -⟩ | ⟨c, hc', hreply⟩)
      · exact absurd harp h.toAccepted.not_asksArp
      · exact absurd hecho h.not_asksEcho
      · exact absurd hseg h.not_carriesSegment
      · rw [hc'.unique hc] at hreply
        exact hreply
  | nothing h =>
    rw [(react_of_ignored hf h).outgoing?]
    constructor
    · intro hout
      cases hout
    · rintro (harp | ⟨hecho, -⟩ | ⟨hseg, hclear⟩ | ⟨c, hc, -⟩)
      · exact absurd harp h.arp
      · exact absurd hecho h.echo
      · rw [h.control hseg] at hclear
        cases hclear
      · exact absurd hc (h.calls c)

lemma delivery_of_calls (hf : f.Holds b) (hc : Calls s r b c) :
    (f.react s r turn b.length).delivery = some ((f.offered b c).delivery turn c.handler) := by
  cases hc with
  | segment h hpsh hh =>
    rw [react_of_segment hf h hpsh hh, Reaction.delivery_called, ← exchange_offeringSegment h]
    rfl
  | datagram h hh =>
    rw [react_of_datagram hf h hh, Reaction.delivery_called]
    rfl

lemma delivery_of_not_calls (hf : f.Holds b) (h : ∀ c, ¬ Calls s r b c) :
    (f.react s r turn b.length).delivery = none := by
  cases demand s r b with
  | arp harp => rw [react_of_asksArp hf harp, Reaction.delivery_note, Reaction.delivery_answering]
  | echo hecho =>
    rw [react_of_asksEcho hf hecho, Reaction.delivery_note, Reaction.delivery_answering]
  | control hseg hpsh =>
    rw [react_of_carriesSegment hf hseg, if_pos hpsh, Reaction.delivery_note,
      Reaction.delivery_answering]
  | segment handler hseg hpsh hh => exact absurd (.segment hseg hpsh hh) (h _)
  | datagram handler hdgram hh => exact absurd (.datagram hdgram hh) (h _)
  | nothing hnone => exact (react_of_ignored hf hnone).2

end Frame

namespace Host

variable {δ : Type} [Device δ]

def offered (h : Host δ) (b : Bytes) (c : Call) : Exchange := (h.frame.write 0 b).offered b c

/-- The decision about a frame, by what is handed to the device and by the turns there have been. -/
structure Decides (h : Host δ) (b : Bytes) (after : Host δ) (out : Option Bytes) : Prop where
  device : after.device = Device.handed h.device out
  answers : out.isSome ↔ Answered h.settings h.handlers b fun c =>
    ((h.offered b c).after h.deliveries.length c.handler).reply.isSome
  called : ∀ c, Calls h.settings h.handlers b c →
    after.deliveries =
      h.deliveries ++ [(h.offered b c).delivery h.deliveries.length c.handler]
  offers : ∀ c, Calls h.settings h.handlers b c →
    (h.offered b c).request = requested b c ∧
      (h.offered b c).capacity = c.capacity
  ignored : (∀ c, ¬ Calls h.settings h.handlers b c) → after.deliveries = h.deliveries

end Host

/-- **The decision about a frame**: an answer goes out exactly if one is due, and an application has
its turn, once and with what the frame carries for it, exactly if the frame is for it. -/
theorem dispatch_decides {δ : Type} [Device δ] (h : Host δ) {b : Bytes}
    (hb : b.length ≤ frameSize) :
    ∃ out, h.Decides b ((h.holding b).dispatch b.length) out := by
  obtain ⟨log, hdispatch⟩ := h.dispatch_eq b
  have hf : (h.frame.write 0 b).Holds b := Frame.holds_write h.frame hb
  refine ⟨(h.reaction b).outgoing?, ?_⟩
  rw [hdispatch]
  exact {
    device := rfl
    answers := Frame.isSome_outgoing? hf
    called c hc := by
      rw [Host.reaction, Frame.delivery_of_calls hf hc]
      rfl
    offers c hc := ⟨Frame.request_offered hf hc, Frame.capacity_exchange _ c⟩
    ignored hnone := by
      rw [Host.reaction, Frame.delivery_of_not_calls hf hnone]
      exact List.append_nil _ }

/-- The three bytes are echoed. -/
theorem dispatch_decides_oddDatagram : oddDatagram.length ≤ frameSize ∧ ∃ reply,
    (Host.echoing []).Decides oddDatagram
      (((Host.echoing []).holding oddDatagram).dispatch oddDatagram.length) (some reply) := by
  obtain ⟨out, hout⟩ :=
    dispatch_decides (Host.echoing []) (by decide : oddDatagram.length ≤ frameSize)
  have hsent := length_sent_oddDatagram
  refine ⟨by decide, ?_⟩
  rw [hout.device] at hsent
  cases out with
  | none => cases hsent
  | some reply => exact ⟨reply, hout⟩

end PacketHost
