import PacketHost.Proofs.Packet
import PacketHost.Proofs.Polling

/-!
What it means to verify checksums on receipt.

Two hosts are polled side by side. One verifies header checksums and has all of a queue pending, the
other does not and has pending only what the first would let pass. Whenever the first takes a frame
that it drops, the other stands still, and otherwise the two take the same frame and make the same
of it, although their buffers may differ by then.
-/

namespace PacketHost

open Bytes Received

namespace Received

/-- The IPv4 header in the frame does not sum to zero. -/
@[mk_iff] structure BadHeader (b : Bytes) : Prop where
  length_le : 34 ≤ b.length
  etherType : (ethernet b).etherType = EtherType.ipv4
  sum : checksum (slice b ipOffset transportOffset) ≠ 0

instance (b : Bytes) : Decidable (BadHeader b) := decidable_of_iff _ (badHeader_iff b).symm

variable {s : Settings} {r : Registry} {b : Bytes}

lemma checksumValid_ip (h : 34 ≤ b.length) :
    (ip b).checksumValid = true ↔ checksum (slice b ipOffset transportOffset) = 0 := by
  have hheader : slice b ipOffset transportOffset = Wire.encode (ip b) :=
    Wire.slice_eq_encode (α := Ipv4Header) h
  rw [Ipv4Header.checksumValid, beq_iff_eq, hheader]

/-- The header stands in front of where a frame is cut. -/
lemma badHeader_take : BadHeader (b.take frameSize) ↔ BadHeader b := by
  have hlen : 34 ≤ (b.take frameSize).length ↔ 34 ≤ b.length := by
    rw [List.length_take]
    show 34 ≤ min 1536 b.length ↔ 34 ≤ b.length
    omega
  have heth : ethernet (b.take frameSize) = ethernet b := by
    refine Wire.decode_congr fun i hi => ?_
    have hi' : i < 14 := hi
    rw [byteAt_take, if_pos (show 0 + i < 1536 by omega)]
  have hheader : slice (b.take frameSize) ipOffset transportOffset =
      slice b ipOffset transportOffset := by
    rw [slice, slice, List.drop_take, List.take_take]
    rfl
  rw [badHeader_iff, badHeader_iff, hlen, heth, hheader]

/-- A frame with a bad header asks for nothing where headers are verified. -/
lemma BadHeader.ignored (h : BadHeader b) (hv : s.verifyChecksums = true) : Ignored s r b := by
  have haccepted : ¬ Accepted s b := by
    intro hacc
    exact h.sum ((checksumValid_ip h.length_le).1 (hacc.checks hv))
  refine ⟨fun harp => ?_, fun hecho => haccepted hecho.toAccepted,
    fun hseg => absurd hseg.toAccepted haccepted, fun c hc => haccepted hc.accepted⟩
  have htype := h.etherType.symm.trans harp.etherType
  exact absurd htype (by decide)

end Received

/-- The same settings with verification of received checksums turned on or off. -/
def Settings.verifying (s : Settings) (on : Bool) : Settings := { s with verifyChecksums := on }

namespace Frame

variable {s : Settings} {r : Registry} {turn : Nat} {b : Bytes} {f : Frame}

/-- Verification makes no difference to any other frame. -/
lemma react_verifying (hf : f.Holds b) (h : ¬ BadHeader b) :
    f.react (s.verifying true) r turn b.length = f.react (s.verifying false) r turn b.length := by
  by_cases hlen : 14 < b.length
  · rw [react_of_lt hf hlen, react_of_lt hf hlen]
    split
    · rfl
    next =>
      split
      next htype =>
        by_cases hshort : b.length < 34
        · rw [readIpv4, readIpv4, get?_of_lt f hshort]
        · have hlen' : 34 ≤ b.length := Nat.not_lt.1 hshort
          have hsum : checksum (Bytes.slice b ipOffset transportOffset) = 0 :=
            Decidable.byContradiction fun hsum => h ⟨hlen', htype, hsum⟩
          have hvalid := (checksumValid_ip hlen').2 hsum
          rw [readIpv4, readIpv4, hf.get_ipv4? hlen']
          dsimp only
          rw [hvalid]
          simp only [Bool.true_eq_false, and_false, if_false]
          rfl
      · rfl
  · rw [react, react, if_pos (Nat.not_lt.1 hlen), if_pos (Nat.not_lt.1 hlen)]

end Frame

/-- A frame with a bad header is received in silence where headers are verified. -/
lemma Host.silent_of_badHeader {δ : Type} [Device δ] (h : Host δ) {b : Bytes}
    (hv : h.settings.verifyChecksums = true) (hb : BadHeader b) :
    (h.reaction (b.take frameSize)).Silent := by
  have hframe : (h.frame.write 0 (b.take frameSize)).Holds (b.take frameSize) :=
    Frame.holds_write _ (List.length_take_le _ _)
  exact Frame.react_of_ignored hframe ((badHeader_take.2 hb).ignored hv)

/-! ### Side by side -/

namespace Host

variable {h g h' g' : Host MemoryDevice} {s : Settings} {b : Bytes}

/-- A poll of `h` takes this frame, and goes on with `h'`. -/
structure Takes (h : Host MemoryDevice) (b : Bytes) (h' : Host MemoryDevice) : Prop where
  settings_eq : h'.settings = h.settings
  handlers_eq : h'.handlers = h.handlers
  queue_eq : h'.device.queue = h.device.queue.tail
  script_eq : h'.device.script = []
  sent_eq : h'.device.sent =
    h.device.sent ++ (h.reaction (b.take frameSize)).outgoing?.toList
  deliveries_eq : h'.deliveries =
    h.deliveries ++ (h.reaction (b.take frameSize)).delivery.toList
  poll_eq : h.poll = (h'.poll.1 + 1, h'.poll.2)

lemma exists_takes {queue : List Bytes} (hqueue : h.device.queue = b :: queue)
    (hscript : h.device.script = []) (hb : b ≠ []) : ∃ h', Takes h b h' := by
  have hreceived : (Device.receive frameSize h.device).1 = .ok (b.take frameSize) := by
    rw [MemoryDevice.receive_eq, hqueue]
    rfl
  obtain ⟨log, h', hh', hpoll⟩ := h.poll_of_received (take_frameSize_ne_nil hb) hreceived
  have hscript' : (Device.receive frameSize h.device).2.script = [] := hscript
  rw [MemoryDevice.handed_eq hscript'] at hh'
  refine ⟨h', ?_, ?_, ?_, ?_, ?_, ?_, hpoll⟩
  · rw [hh']
  · rw [hh']
  · rw [hh']
    rfl
  · rw [hh']
    exact hscript
  · rw [hh']
    rfl
  · rw [hh']

/-- The one verifies and the other does not, but has pending only what the first will let pass. So
far the same has come of both. -/
structure Alongside (s : Settings) (h g : Host MemoryDevice) : Prop where
  settings_left : h.settings = s.verifying true
  settings_right : g.settings = s.verifying false
  handlers_eq : h.handlers = g.handlers
  queue_eq : g.device.queue = h.device.queue.filter fun b => ¬ BadHeader b
  script_left : h.device.script = []
  script_right : g.device.script = []
  sent_eq : h.device.sent = g.device.sent
  deliveries_eq : h.deliveries = g.deliveries

namespace Alongside

/-- A frame with a bad header is taken by the one host only, and nothing comes of it. -/
lemma drop {queue : List Bytes} (hs : Alongside s h g) (hqueue : h.device.queue = b :: queue)
    (hbad : BadHeader b) (ht : Takes h b h') : Alongside s h' g := by
  have hverify : h.settings.verifyChecksums = true := by
    rw [hs.settings_left]
    rfl
  have hsilent := h.silent_of_badHeader hverify hbad
  exact
    { settings_left := ht.settings_eq.trans hs.settings_left
      settings_right := hs.settings_right
      handlers_eq := ht.handlers_eq.trans hs.handlers_eq
      queue_eq := by
        rw [hs.queue_eq, ht.queue_eq, hqueue, List.filter_cons_of_neg (by simpa using hbad)]
        rfl
      script_left := ht.script_eq
      script_right := hs.script_right
      sent_eq := by
        rw [ht.sent_eq, hsilent.outgoing?, Option.toList_none, List.append_nil, hs.sent_eq]
      deliveries_eq := by
        rw [ht.deliveries_eq, hsilent.2, Option.toList_none, List.append_nil, hs.deliveries_eq] }

/-- Any other frame is taken by both, with the same outcome. -/
lemma take {queue : List Bytes} (hs : Alongside s h g) (hr : g.handlers.Stateless)
    (hqueue : h.device.queue = b :: queue) (hgood : ¬ BadHeader b) (ht : Takes h b h')
    (ht' : Takes g b g') : Alongside s h' g' := by
  have hlen : (b.take frameSize).length ≤ frameSize := List.length_take_le _ _
  have hh := Frame.holds_write h.frame hlen
  have hg := Frame.holds_write g.frame hlen
  have hgood' : ¬ BadHeader (b.take frameSize) := mt badHeader_take.1 hgood
  have hout : (h.reaction (b.take frameSize)).outgoing? =
      (g.reaction (b.take frameSize)).outgoing? := by
    rw [reaction, reaction, hs.settings_left, hs.settings_right, hs.handlers_eq,
      Frame.react_verifying hh hgood']
    exact Frame.outgoing?_congr hh hg hr
  have hdelivery : (h.reaction (b.take frameSize)).delivery =
      (g.reaction (b.take frameSize)).delivery := by
    rw [reaction, reaction, hs.settings_left, hs.settings_right, hs.handlers_eq,
      Frame.react_verifying hh hgood']
    exact Frame.delivery_congr hh hg hr
  exact
    { settings_left := ht.settings_eq.trans hs.settings_left
      settings_right := ht'.settings_eq.trans hs.settings_right
      handlers_eq := by rw [ht.handlers_eq, hs.handlers_eq, ht'.handlers_eq]
      queue_eq := by
        rw [ht'.queue_eq, hs.queue_eq, ht.queue_eq, hqueue,
          List.filter_cons_of_pos (by simpa using hgood)]
        rfl
      script_left := ht.script_eq
      script_right := ht'.script_eq
      sent_eq := by rw [ht.sent_eq, hout, hs.sent_eq, ht'.sent_eq]
      deliveries_eq := by rw [ht.deliveries_eq, hdelivery, hs.deliveries_eq, ht'.deliveries_eq] }

/-- Nothing is left to take. -/
lemma poll_of_nil (hs : Alongside s h g) (hqueue : h.device.queue = []) :
    h.poll.1 = g.poll.1 ∧ h.poll.2.deliveries = g.poll.2.deliveries ∧
      h.poll.2.device.sent = g.poll.2.device.sent := by
  have hqueue' : g.device.queue = [] := by
    rw [hs.queue_eq, hqueue]
    rfl
  have hdrained {k : Host MemoryDevice} (hk : k.device.queue = []) :
      (Device.receive frameSize k.device).1 = .ok [] := by
    rw [MemoryDevice.receive_eq, hk]
    rfl
  rw [h.poll_of_drained (hdrained hqueue), g.poll_of_drained (hdrained hqueue')]
  exact ⟨rfl, hs.deliveries_eq, hs.sent_eq⟩

/-- Each of the two comes to the end of its queue. -/
lemma poll (hs : Alongside s h g) (hne : ∀ b ∈ h.device.queue, b ≠ [])
    (hr : g.handlers.Stateless) :
    h.poll.1 = g.poll.1 + h.device.queue.countP (fun b => BadHeader b) ∧
      h.poll.2.deliveries = g.poll.2.deliveries ∧
        h.poll.2.device.sent = g.poll.2.device.sent := by
  generalize hqueue : h.device.queue = queue at hne ⊢
  -- along the longer queue; the other host stands still at each frame that is dropped
  induction queue generalizing h g with
  | nil => exact hs.poll_of_nil hqueue
  | cons b queue ih =>
    have hb : b ≠ [] := hne b List.mem_cons_self
    have hrest : ∀ b ∈ queue, b ≠ [] := fun x hx => hne x (List.mem_cons_of_mem b hx)
    obtain ⟨h', ht⟩ := exists_takes hqueue hs.script_left hb
    have hqueue' : h'.device.queue = queue := by
      rw [ht.queue_eq, hqueue]
      rfl
    by_cases hbad : BadHeader b
    · obtain ⟨hcount, hturns, hanswers⟩ := ih (hs.drop hqueue hbad ht) hr hqueue' hrest
      rw [ht.poll_eq, List.countP_cons_of_pos (by simpa using hbad)]
      exact ⟨by rw [hcount]; rfl, hturns, hanswers⟩
    · have hpassed : g.device.queue = b :: queue.filter fun b => ¬ BadHeader b := by
        rw [hs.queue_eq, hqueue, List.filter_cons_of_pos (by simpa using hbad)]
      obtain ⟨g', ht'⟩ := exists_takes hpassed hs.script_right hb
      obtain ⟨hcount, hturns, hanswers⟩ := ih (hs.take hr hqueue hbad ht ht')
        (by rw [ht'.handlers_eq]; exact hr) hqueue' hrest
      rw [ht.poll_eq, ht'.poll_eq, List.countP_cons_of_neg (by simpa using hbad)]
      exact ⟨by rw [hcount, Nat.add_right_comm], hturns, hanswers⟩

end Alongside

/-- The host with verification turned on. -/
def verifying (h : Host MemoryDevice) : Host MemoryDevice :=
  { h with settings := h.settings.verifying true }

/-- The host with verification turned off, with what has a bad header taken out of its queue, and
with this in its buffer. -/
def trusting (h : Host MemoryDevice) (buffer : Frame) : Host MemoryDevice :=
  { h with
    settings := h.settings.verifying false
    device := { h.device with queue := h.device.queue.filter fun b => ¬ BadHeader b }
    frame := buffer }

end Host

/-- **Verification only filters**: with applications that go by their requests, a host that verifies
received checksums makes the same of its queue as one that does not verify them and has been spared
the frames with bad headers. It takes those frames, and that is all. -/
theorem poll_verified (h : Host MemoryDevice) (buffer : Frame) (hscript : h.device.script = [])
    (hne : ∀ b ∈ h.device.queue, b ≠ []) (hr : h.handlers.Stateless) :
    h.verifying.poll.1 =
        (h.trusting buffer).poll.1 + h.device.queue.countP (fun b => BadHeader b) ∧
      h.verifying.poll.2.deliveries = (h.trusting buffer).poll.2.deliveries ∧
        h.verifying.poll.2.device.sent = (h.trusting buffer).poll.2.device.sent := by
  have hs : Host.Alongside h.settings h.verifying (h.trusting buffer) :=
    ⟨rfl, rfl, rfl, rfl, hscript, hscript, rfl, rfl⟩
  exact hs.poll hne hr

/-- The same datagram with its header checksum filled in. -/
def checkedDatagram : Bytes := overwrite oddDatagram 24 [0x54, 0x98]

/-- Of the two, the one with a checksum is echoed and the other is dropped. -/
theorem poll_verified_oddDatagram : ∃ reply,
    (Host.echoing [oddDatagram, checkedDatagram]).verifying.poll.1 = 2 ∧
      (Host.echoing [oddDatagram, checkedDatagram]).verifying.poll.2.device.sent = [reply] := by
  obtain ⟨hcount, -, hsent⟩ := poll_verified (Host.echoing [oddDatagram, checkedDatagram]) .blank
    rfl (by decide) stateless_echoing
  have hqueue : ((Host.echoing [oddDatagram, checkedDatagram]).trusting .blank).device.queue =
      [checkedDatagram] := by
    decide +kernel
  have hout : ((((Host.echoing [oddDatagram, checkedDatagram]).trusting .blank).reaction
      (checkedDatagram.take frameSize)).outgoing?).isSome := by
    decide +kernel
  obtain ⟨log, hpoll⟩ := Host.poll_single _ (by decide) hqueue rfl
  obtain ⟨reply, hreply⟩ := Option.isSome_iff_exists.1 hout
  have hbad : [oddDatagram, checkedDatagram].countP (fun b => BadHeader b) = 1 := by decide +kernel
  refine ⟨reply, ?_, ?_⟩
  · rw [hcount, hpoll]
    exact congrArg (1 + ·) hbad
  · rw [hsent, hpoll, hreply]
    rfl

end PacketHost
