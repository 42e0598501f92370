import Mathlib.Data.List.Forall2
import PacketHost.Proofs.Oblivious
import PacketHost.Proofs.Polling

/-!
What stands in a frame behind its packet.

Short frames are padded on their way, so a packet says itself where it ends (`Delimited`). A host
goes by what the packet says: to whatever stands behind it there is no reaction
(`Frame.react_of_le`), and no answer is found or missed for it (`Padding.answersAlike`). For the
questions of a host this puts two devices in step that give the same frames but for the padding.
-/

namespace PacketHost

open Bytes Received Device

/-! ### Frames that say where they end -/

namespace Bytes

variable {b b' : Bytes}

lemma byteAt_of_isPrefix (h : b <+: b') {i : Nat} (hi : i < b.length) :
    byteAt b' i = byteAt b i := by
  obtain ⟨s, rfl⟩ := h
  rw [byteAt_append, if_pos hi]

lemma decode_of_isPrefix {α : Type} [Wire α] [LawfulWire α] (h : b <+: b') {off : Nat}
    (hoff : off + Wire.width α ≤ b.length) : (Wire.decode b' off : α) = Wire.decode b off :=
  Wire.decode_congr fun i _ => byteAt_of_isPrefix h (by omega)

lemma slice_of_isPrefix (h : b <+: b') {start stop : Nat} (hstop : stop ≤ b.length) :
    slice b' start stop = slice b start stop := by
  have hle := h.length_le
  refine ext_byteAt ?_ fun i _ => ?_
  · rw [length_slice, length_slice]
    omega
  · rw [byteAt_slice, byteAt_slice]
    split
    · exact byteAt_of_isPrefix h (by omega)
    · rfl

end Bytes

namespace Received

/-- The packet in the frame ends in it by its own account. -/
inductive Delimited (b : Bytes) : Prop
  | ipv4 (etherType : (ethernet b).etherType = EtherType.ipv4) (length_le : 34 ≤ b.length)
      (total_le : (ip b).totalLength.toNat ≤ b.length - ipOffset)
  | arp (etherType : (ethernet b).etherType = EtherType.arp) (length_le : 42 ≤ b.length)

/-- The same frame, or one with something behind its packet that a host has room for. -/
def Padding (b b' : Bytes) : Prop := b' = b ∨ Delimited b ∧ b <+: b' ∧ b'.length ≤ frameSize

variable {b b' : Bytes}

lemma Delimited.length_le (h : Delimited b) : 34 ≤ b.length := by
  cases h <;> omega

/-! ### Answers -/

lemma ipv4Packet?_of_isPrefix (h : Delimited b) (hb : b <+: b') :
    ipv4Packet? b = ipv4Packet? b' := by
  have hle := hb.length_le
  have heth : ethernet b' = ethernet b :=
    decode_of_isPrefix hb (Nat.le_trans (by decide) h.length_le)
  apply Option.ext
  rintro ⟨header, payload⟩
  rw [ipv4Packet?_eq_some, ipv4Packet?_eq_some, plain_iff, plain_iff, heth]
  cases h with
  | arp htype _ => simp [htype, EtherType.arp, EtherType.ipv4]
  | ipv4 htype hlen htotal =>
    have hip : ip b' = ip b := decode_of_isPrefix hb hlen
    have hpacket : packetLength b' = packetLength b := by
      rw [packetLength, packetLength, hip]
      omega
    have hmessage : message b' = message b := by
      rw [message, message, hpacket]
      refine slice_of_isPrefix hb ?_
      show 14 + min _ (b.length - 14) ≤ b.length
      omega
    have hlen' : 34 ≤ b'.length := Nat.le_trans hlen hle
    simp [hip, hpacket, hmessage, hlen, hlen']

lemma arpAnswer?_of_isPrefix (h : Delimited b) (hb : b <+: b') (target : Ipv4Addr) :
    arpAnswer? target b = arpAnswer? target b' := by
  have hle := hb.length_le
  have heth : ethernet b' = ethernet b :=
    decode_of_isPrefix hb (Nat.le_trans (by decide) h.length_le)
  ext hw
  rw [arpAnswer?_eq_some, arpAnswer?_eq_some, tellsHardware_iff, tellsHardware_iff, heth]
  cases h with
  | ipv4 htype _ _ => simp [htype, EtherType.arp, EtherType.ipv4]
  | arp htype hlen =>
    have harp : arp b' = arp b := decode_of_isPrefix hb hlen
    have hlen' : 42 ≤ b'.length := Nat.le_trans hlen hle
    simp [harp, hlen, hlen']

lemma Padding.answersAlike (h : Padding b b') : AnswersAlike b b' := by
  rcases h with rfl | ⟨hb, hpre, -⟩
  · exact .refl b'
  have hpacket := ipv4Packet?_of_isPrefix hb hpre
  have hlen := hb.length_le
  have hlen' := hpre.length_le
  exact {
    isPrefix := hpre
    nil_iff := by
      rw [← List.length_eq_zero_iff, ← List.length_eq_zero_iff]
      omega
    arp := arpAnswer?_of_isPrefix hb hpre
    echo self ip identifier sequence := by rw [echoAnswer?, echoAnswer?, hpacket]
    dns server port id := by rw [dnsAnswer?, dnsAnswer?, hpacket] }

end Received

/-! ### Reactions -/

namespace Frame

variable {s : Settings} {r : Registry} {turn n : Nat} {b : Bytes} {f : Frame}

lemma readArp_of_le (s : Settings) (f : Frame) (hn : 42 ≤ n) : f.readArp s n = f.readArp s 42 := by
  rw [readArp, readArp, get?_of_le f hn, get?_of_le f (Nat.le_refl 42)]

/-- The packet ends where it says, if the frame goes that far. -/
lemma readIpv4_of_le (s : Settings) (r : Registry) (turn : Nat) (f : Frame) {m : Nat} (hm : 34 ≤ m)
    (htotal : (f.get Ipv4Header ipOffset).totalLength.toNat ≤ m - ipOffset) (hn : m ≤ n) :
    f.readIpv4 s r turn n = f.readIpv4 s r turn m := by
  have hmin : min (f.get Ipv4Header ipOffset).totalLength.toNat (n - ipOffset) =
      min (f.get Ipv4Header ipOffset).totalLength.toNat (m - ipOffset) := by
    omega
  rw [readIpv4, readIpv4, get?_of_le f (Nat.le_trans hm hn), get?_of_le f hm]
  dsimp only
  rw [hmin]

/-- However much stands behind the packet, it is reacted to alike. -/
lemma react_of_le (hf : f.Holds b) (h : Delimited b) (hn : b.length ≤ n) :
    f.react s r turn n = f.react s r turn b.length := by
  have hlen := h.length_le
  have heth : f.get EthernetHeader 0 = ethernet b := hf.get_ethernet (by omega)
  rw [react, react, if_neg (show ¬ n ≤ 14 by omega), if_neg (show ¬ b.length ≤ 14 by omega), heth]
  cases h with
  | ipv4 htype hle htotal =>
    rw [← hf.get_ipv4 hle] at htotal
    rw [readIpv4_of_le s r turn f hle htotal hn, htype]
    rfl
  | arp htype hle =>
    rw [readArp_of_le s f hle, readArp_of_le s f (Nat.le_trans hle hn), htype]
    rfl

end Frame

/-! ### Devices that pad -/

namespace MemoryDevice

/-- The same is to come of both, but for the padding. -/
structure PaddedAhead (d e : MemoryDevice) : Prop where
  queue : List.Forall₂ Padding d.queue e.queue
  script : List.Forall₂ (fun rule rule' => ∀ b, List.Forall₂ Padding (rule b) (rule' b)) d.script
    e.script

lemma padding_take {b b' : Bytes} (h : Padding b b') :
    Padding (b.take frameSize) (b'.take frameSize) := by
  rcases h with rfl | ⟨hb, hpre, hlen⟩
  · exact .inl rfl
  · rw [List.take_of_length_le (Nat.le_trans hpre.length_le hlen), List.take_of_length_le hlen]
    exact .inr ⟨hb, hpre, hlen⟩

lemma lockstep_paddedAhead : LockstepUpto Padding PaddedAhead where
  alike := Padding.answersAlike
  receive := by
    rintro ⟨queue, sent, script, calls⟩ ⟨queue', sent', script', calls'⟩ ⟨hqueue, hscript⟩
    cases hqueue with
    | nil => exact ⟨.ok (.inl rfl), .nil, hscript⟩
    | cons hfirst hrest => exact ⟨.ok (padding_take hfirst), hrest, hscript⟩
  send := by
    rintro ⟨queue, sent, script, calls⟩ ⟨queue', sent', script', calls'⟩ b ⟨hqueue, hscript⟩
    refine ⟨rfl, ?_, ?_⟩
    · cases hscript with
      | nil => exact List.rel_append hqueue .nil
      | cons hrule _ => exact List.rel_append hqueue (hrule b)
    · cases hscript with
      | nil => exact .nil
      | cons _ hrules => exact hrules

end MemoryDevice

namespace Device

/-- The same frame sent with the same outcome, or related frames received. -/
inductive Event.Upto (S : Bytes → Bytes → Prop) : Event → Event → Prop
  | receive {r r' : Except String Bytes} (h : Given S r r') : Upto S (.receive r) (.receive r')
  | send (b : Bytes) (outcome : Except String Unit) : Upto S (.send b outcome) (.send b outcome)

variable {δ : Type} [Device δ] {R : δ → δ → Prop} {S : Bytes → Bytes → Prop}

/-- The devices are related, and calls have brought them here that are the same but for what was
received. -/
def TogetherUpto (S : Bytes → Bytes → Prop) (R : δ → δ → Prop) (d₀ e₀ d e : δ) : Prop :=
  R d e ∧ ∃ events events', Trace d₀ events d ∧ Trace e₀ events' e ∧
    List.Forall₂ (Event.Upto S) events events'

lemma LockstepUpto.together (hR : LockstepUpto S R) (d₀ e₀ : δ) :
    LockstepUpto S (TogetherUpto S R d₀ e₀) where
  alike := hR.alike
  receive := by
    rintro d e ⟨hde, events, events', hd, he, hevents⟩
    obtain ⟨hgiven, hnext⟩ := hR.receive hde
    exact ⟨hgiven, hnext, _, _, hd.append (.receive (.nil _)), he.append (.receive (.nil _)),
      List.rel_append hevents (.cons (.receive hgiven) .nil)⟩
  send := by
    rintro d e b ⟨hde, events, events', hd, he, hevents⟩
    obtain ⟨hsame, hnext⟩ := hR.send b hde
    have htrace := he.append (.send b (.nil _))
    rw [← hsame] at htrace
    exact ⟨hsame, hnext, _, _, hd.append (.send b (.nil _)), htrace,
      List.rel_append hevents (.cons (.send b _) .nil)⟩

variable {events events' : List Event}

lemma sent_of_upto (h : List.Forall₂ (Event.Upto S) events events') :
    events.filterMap Event.sent? = events'.filterMap Event.sent? := by
  induction h with
  | nil => rfl
  | cons hevent _ ih => cases hevent <;> simp [List.filterMap_cons, Event.sent?, ih]

lemma receives_of_upto (h : List.Forall₂ (Event.Upto S) events events') :
    events.countP Event.isReceive = events'.countP Event.isReceive := by
  induction h with
  | nil => rfl
  | cons hevent _ ih => cases hevent <;> simp [List.countP_cons, Event.isReceive, ih]

end Device

namespace Host

/-- Hosts with the same settings and counters, on devices that have the same ahead of them but for
the padding. -/
abbrev InStepButPadding :
    Host (FaultyDevice MemoryDevice) → Host (FaultyDevice MemoryDevice) → Prop :=
  Twins (FaultyDevice.SameAhead MemoryDevice.PaddedAhead)

/-- Two runs, from `h` and from `g`, that have come to the same result after as many polls. They
have sent the same, and have left the same frames pending but for the padding. -/
structure SameButPadding {α : Type} (h g : Host (FaultyDevice MemoryDevice))
    (x y : Except NetError α × Host (FaultyDevice MemoryDevice)) : Prop where
  result_eq : x.1 = y.1
  sent : ∃ sent, x.2.device.inner.sent = h.device.inner.sent ++ sent ∧
    y.2.device.inner.sent = g.device.inner.sent ++ sent
  polls : ∃ n, x.2.device.receivePlan.calls = h.device.receivePlan.calls + n ∧
    y.2.device.receivePlan.calls = g.device.receivePlan.calls + n
  pending : List.Forall₂ Padding x.2.device.inner.queue y.2.device.inner.queue
  inStep : InStepButPadding x.2 y.2

/-- A frame and what it is with something behind its packet make the host hand the same to its
device, and let the same turns be taken. -/
structure ReactsAlike {δ : Type} [Device δ] (h : Host δ) (b b' : Bytes) : Prop where
  device : ∃ out, ((h.holding b).dispatch b.length).device = Device.handed h.device out ∧
    ((h.holding b').dispatch b'.length).device = Device.handed h.device out
  deliveries_eq :
    ((h.holding b).dispatch b.length).deliveries = ((h.holding b').dispatch b'.length).deliveries

lemma reactsAlike_append {δ : Type} [Device δ] (h : Host δ) {b s : Bytes}
    (hr : h.handlers.Stateless) (hb : Delimited b) (hlen : b.length + s.length ≤ frameSize) :
    h.ReactsAlike b (b ++ s) := by
  have hpadded : (b ++ s).length ≤ frameSize := by rwa [List.length_append]
  have hshort : b.length ≤ frameSize := by omega
  have hholds := Frame.holds_write h.frame hshort
  have hholds' := (Frame.holds_write h.frame hpadded).of_isPrefix (List.prefix_append b s)
  -- to the padding there is no reaction, and so the frames are told apart by the buffer only
  have hpadding : h.reaction (b ++ s) =
      (h.frame.write 0 (b ++ s)).react h.settings h.handlers h.deliveries.length b.length :=
    Frame.react_of_le hholds' hb (List.prefix_append b s).length_le
  have hout : (h.reaction b).outgoing? = (h.reaction (b ++ s)).outgoing? := by
    rw [hpadding]
    exact Frame.outgoing?_congr hholds hholds' hr
  have hdelivery : (h.reaction b).delivery = (h.reaction (b ++ s)).delivery := by
    rw [hpadding]
    exact Frame.delivery_congr hholds hholds' hr
  obtain ⟨log, hdispatch⟩ := h.dispatch_eq b
  obtain ⟨log', hdispatch'⟩ := h.dispatch_eq (b ++ s)
  refine ⟨⟨(h.reaction b).outgoing?, by rw [hdispatch], by rw [hdispatch', hout]⟩, ?_⟩
  rw [hdispatch, hdispatch', hdelivery]

variable {α : Type} {h g : Host (FaultyDevice MemoryDevice)}

lemma sameButPadding_of_alike {t : Task (FaultyDevice MemoryDevice) α} (ht : InStepButPadding h g)
    (hrun : ∀ {R : FaultyDevice MemoryDevice → FaultyDevice MemoryDevice → Prop},
      LockstepUpto Padding R → Twins R h g → Alike R Unlike (t h) (t g)) :
    SameButPadding h g (t h) (t g) := by
  have hlockstep := FaultyDevice.lockstepUpto_sameAhead MemoryDevice.lockstep_paddedAhead
  have hstart : Twins (TogetherUpto Padding (FaultyDevice.SameAhead MemoryDevice.PaddedAhead)
      h.device g.device) h g :=
    ⟨⟨ht.device, [], [], .nil _, .nil _, .nil⟩, ht.settings_eq, ht.pingSequence_eq,
      ht.dnsTransaction_eq⟩
  obtain ⟨hresult, ⟨⟨hahead, events, events', htrace, htrace', hevents⟩, hsettings, hping, hdns⟩,
    -⟩ := hrun (hlockstep.together h.device g.device) hstart
  have hrecorded := recorded_of_trace htrace
  have hrecorded' := recorded_of_trace htrace'
  exact
    { result_eq := hresult
      sent := ⟨_, hrecorded.sent_eq, sent_of_upto hevents ▸ hrecorded'.sent_eq⟩
      polls := ⟨_, hrecorded.receives_eq, receives_of_upto hevents ▸ hrecorded'.receives_eq⟩
      pending := hahead.inner.queue
      inStep := ⟨hahead, hsettings, hping, hdns⟩ }

end Host

/-- **Padding does not matter**: what stands in a received frame behind its packet makes no
difference to what is sent in answer, to the turns that applications take, to what a host asks and
to what it is told, nor to how long it waits for it. -/
theorem padding_immaterial :
    (∀ {δ : Type} [Device δ] (h : Host δ) {b s : Bytes}, h.handlers.Stateless → Delimited b →
      b.length + s.length ≤ frameSize → h.ReactsAlike b (b ++ s)) ∧
    ∀ {h g : Host (FaultyDevice MemoryDevice)}, Host.InStepButPadding h g →
      (∀ ip budget, Host.SameButPadding h g (Host.resolve ip budget h) (Host.resolve ip budget g)) ∧
      (∀ ip budget, Host.SameButPadding h g (Host.ping ip budget h) (Host.ping ip budget g)) ∧
      ∀ server name budget, Host.SameButPadding h g (Host.resolveName server name budget h)
        (Host.resolveName server name budget g) := by
  refine ⟨fun h _ _ hr hb hlen => h.reactsAlike_append hr hb hlen, fun ht =>
    ⟨fun ip budget => ?_, fun ip budget => ?_, fun server name budget => ?_⟩⟩
  · exact Host.sameButPadding_of_alike ht fun hR ht => ht.resolve hR ip budget
  · exact Host.sameButPadding_of_alike ht fun hR ht => ht.ping hR ip budget
  · exact Host.sameButPadding_of_alike ht fun hR ht => ht.resolveName hR server name budget

/-- The fresh host on a device that pads what it is told to sixty bytes and more. -/
def Host.freshPadded : Host (FaultyDevice MemoryDevice) :=
  Host.new { inner := { script := [fun _ => [toldByServer ++ List.replicate 18 0],
    fun _ => [answerOfServer ++ [0xff, 0xff]]] } } {}

lemma inStepButPadding_padded : Host.InStepButPadding Host.fresh Host.freshPadded := by
  have htold : Padding toldByServer (toldByServer ++ List.replicate 18 0) :=
    .inr ⟨.arp (by decide) (by decide), List.prefix_append _ _, by decide⟩
  have hanswer : Padding answerOfServer (answerOfServer ++ [0xff, 0xff]) :=
    .inr ⟨.ipv4 (by decide) (by decide) (by decide), List.prefix_append _ _, by decide⟩
  have hscript : MemoryDevice.PaddedAhead Host.fresh.device.inner Host.freshPadded.device.inner :=
    ⟨.nil, .cons (fun _ => .cons htold .nil) (.cons (fun _ => .cons hanswer .nil) .nil)⟩
  exact ⟨⟨hscript, rfl, rfl⟩, rfl, rfl, rfl⟩

/-- An echoed datagram, and a name that is looked up, with padding and without. -/
theorem padding_immaterial_padded :
    Delimited oddDatagram ∧
      (Host.echoing []).ReactsAlike oddDatagram (oddDatagram ++ List.replicate 15 0xff) ∧
      (Host.resolveName ⟨10, 0, 0, 2⟩ "a.b" 1 Host.freshPadded).1 =
        .ok ⟨75, ⟨93, 184, 216, 34⟩⟩ := by
  have hdelimited : Delimited oddDatagram := .ipv4 (by decide) (by decide) (by decide)
  obtain ⟨hreacts, hasks⟩ := padding_immaterial
  refine ⟨hdelimited, hreacts (Host.echoing []) stateless_echoing hdelimited (by decide), ?_⟩
  obtain ⟨-, -, hresolveName⟩ := hasks inStepButPadding_padded
  obtain ⟨h', hfresh⟩ := resolveName_fresh
  rw [← (hresolveName ⟨10, 0, 0, 2⟩ "a.b" 1).result_eq, hfresh]

end PacketHost
