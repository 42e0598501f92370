import PacketHost.Proofs.Matching
import PacketHost.Proofs.Requests
import PacketHost.Proofs.Waiting

/-!
A question, its answer, and what the host makes of it.

If the device sends what is asked and gives an answer in time, whatever comes before that, the host
has its result. Between the two nothing of the host changes but its device, its buffer and its log,
apart from the counters that identify its requests.
-/

namespace PacketHost

open Received

namespace Host

variable {δ : Type}

/-- Nothing of the host has changed but its buffer and its log, and it has this device now. -/
def Moved (h h' : Host δ) (d : δ) : Prop :=
  h' = { h with device := d, frame := h'.frame, log := h'.log }

variable [Device δ] {h : Host δ} {budget : Nat}

lemma transmit_eq {len : Nat} {b : Bytes} (hb : h.frame.slice 0 len = b) :
    transmit len h = ((Device.send b h.device).1.mapError .device,
      { h with device := (Device.send b h.device).2 }) := by
  rw [transmit, Frame.take_bytes, hb]

/-- What goes out of an answer is handed to the device, and the answer is in the buffer. -/
lemma finish_of_outgoing {p : Prepared} {b : Bytes} (hb : p.outgoing? = some b) :
    finish p h = ((Device.send b h.device).1.mapError .device,
      { h with frame := p.frame, device := (Device.send b h.device).2 }) := by
  obtain ⟨frame, reason | len⟩ := p
  · cases hb
  · cases hb
    exact transmit_eq (h := { h with frame := frame }) (frame.take_bytes len).symm

lemma transmit_of_send {d : δ} {len : Nat} {b : Bytes} (hb : h.frame.slice 0 len = b)
    (hsend : Device.send b h.device = (.ok (), d)) :
    transmit len h = (.ok (), { h with device := d }) := by
  rw [transmit_eq hb, hsend]
  rfl

lemma finish_of_send {d : δ} {p : Prepared} {b : Bytes} (hb : p.outgoing? = some b)
    (hsend : Device.send b h.device = (.ok (), d)) :
    finish p h = (.ok (), { h with frame := p.frame, device := d }) := by
  rw [finish_of_outgoing hb, hsend]
  rfl

/-! ### Hardware addresses -/

/-- The host asks for `ip`, and in time receives a frame that tells the hardware address. -/
inductive Learns (h : Host δ) (ip : Ipv4Addr) (budget : Nat) : MacAddr → δ → Prop
  | intro {d d' : δ} {n : Nat} {told : Bytes}
      (hask : Device.send (arpRequest h.settings ip) h.device = (.ok (), d))
      (hgives : Device.Gives (fun x => ¬ TellsHardware ip x) n d told d')
      (htold : TellsHardware ip told) (hn : n < budget) : Learns h ip budget (arp told).senderHw d'

/-- What it is told is the result. -/
lemma Learns.resolve {ip : Ipv4Addr} {hw : MacAddr} {d : δ} (hl : Learns h ip budget hw d) :
    ∃ h', Moved h h' d ∧ resolve ip budget h = (.ok hw, h') := by
  obtain @⟨d₁, d, n, told, hask, hgives, htold, hn⟩ := hl
  have hsent := transmit_of_send (h := { h with frame := h.frame.stageArpRequest h.settings ip })
    (h.frame.slice_stageArpRequest h.settings ip) hask
  obtain ⟨h', hawaited, hwait⟩ := waitFor_of_gives
    (h := { h with frame := h.frame.stageArpRequest h.settings ip, device := d₁ })
    (hgives.mono fun x hx => arpAnswer?_eq_none.2 hx)
    (arpAnswer?_eq_some.2 ⟨htold, rfl⟩) htold.ne_nil hn
  refine ⟨h'.note (.resolved ip (arp told).senderHw (n + 1)), ?_, ?_⟩
  · unfold Moved
    rw [hawaited.eq]
    rfl
  · unfold Host.resolve
    simp only [Task.bind_apply, Task.modify_apply]
    rw [hsent]
    dsimp only
    rw [hwait]
    rfl

/-! ### Echoes -/

/-- A ping takes as many polls as its reply. -/
lemma ping_of_gives {ip : Ipv4Addr} {hw : MacAddr} {d₁ d₂ d₃ : δ} {n : Nat} {reply : Bytes}
    (hl : Learns h ip budget hw d₁)
    (hecho : Device.send (echoRequest h.settings hw ip (h.pingSequence + 1)) d₁ = (.ok (), d₂))
    (hgives : Device.Gives (fun x => ¬ RepliesToEcho h.settings.ip ip h.settings.pingIdentifier
      (h.pingSequence + 1) x) n d₂ reply d₃)
    (hreply : RepliesToEcho h.settings.ip ip h.settings.pingIdentifier (h.pingSequence + 1) reply)
    (hn : n < budget) : ∃ h', Moved { h with pingSequence := h.pingSequence + 1 } h' d₃ ∧
      ping ip budget h = (.ok (n + 1), h') := by
  obtain ⟨h₁, hmoved, hresolve⟩ := hl.resolve
  generalize hsequence : h.pingSequence + 1 = sequence at *
  -- the request is staged in what the first question has left in the buffer
  have hstaged := Frame.outgoing?_stageEchoRequest h.settings h₁.frame hw ip sequence
  generalize hp : ((h₁.frame.stagePacket h.settings hw IpProtocol.icmp ip sequence).stageEchoRequest
    h.settings.pingIdentifier sequence).answerIpv4 h.settings IpProtocol.icmp
      (8 + pingPayload.length) = p at hstaged
  have hsent := finish_of_send (h := { h with
    device := d₁, frame := h₁.frame, log := h₁.log, pingSequence := sequence }) hstaged hecho
  obtain ⟨h', hawaited, hwait⟩ := waitFor_of_gives
    (h := { h with device := d₂, frame := p.frame, log := h₁.log, pingSequence := sequence })
    (hgives.mono fun x hx => echoAnswer?_eq_none.2 hx)
    (echoAnswer?_eq_some.2 hreply) hreply.ne_nil hn
  refine ⟨h'.note (.echoed ip (n + 1)), ?_, ?_⟩
  · unfold Moved
    rw [hawaited.eq]
    rfl
  · unfold Moved at hmoved
    unfold ping
    simp only [Task.bind_apply, Task.modify_apply, Task.get_apply]
    rw [hresolve, hmoved]
    dsimp only
    rw [hsequence, hp, hsent]
    dsimp only
    rw [hwait]
    rfl

/-! ### Names -/

/-- The first frame that answers a query is searched for an address, which is read where it stands.
-/
lemma resolveName_of_gives {server : Ipv4Addr} {name : String} {hw : MacAddr} {d₁ d₂ d₃ : δ}
    {n off : Nat} {response : Bytes} (hl : Learns h server budget hw d₁)
    (hlabels : ∀ l ∈ Dns.nameLabels name, Dns.isLabel l = true)
    (hlen : (Dns.nameBytes name).length + 18 ≤ 1471)
    (hquery : Device.send (nameQuery h.settings hw server h.dnsTransaction name) d₁ = (.ok (), d₂))
    (hgives : Device.Gives
      (fun x => ¬ AnswersQuery server h.settings.dnsSourcePort h.dnsTransaction x) n d₂ response d₃)
    (hresponse : AnswersQuery server h.settings.dnsSourcePort h.dnsTransaction response)
    (hn : n < budget) (hoff : Dns.answerOffset (datagramData response) = .ok off)
    (hfit : udpDataOffset + off + 4 ≤ response.length) : ∃ h',
      Moved { h with dnsTransaction := h.dnsTransaction + 1 } h' d₃ ∧ h'.frame.Holds response ∧
        resolveName server name budget h =
          (.ok ⟨udpDataOffset + off, Wire.decode response (udpDataOffset + off)⟩, h') := by
  obtain ⟨h₁, hmoved, hresolve⟩ := hl.resolve
  generalize hid : h.dnsTransaction = id at *
  have hstaged := Frame.stageQuery_of_labels h.settings
    (h₁.frame.stagePacket h.settings hw IpProtocol.udp server id) id hlabels hlen
  have hout := Frame.outgoing?_stageQuery h.settings h₁.frame hw server id hlen
  generalize ((h₁.frame.stagePacket h.settings hw IpProtocol.udp server id).put transportOffset
    (UdpHeader.mk dnsPort h.settings.dnsSourcePort 0 0)).write udpDataOffset
      (Dns.queryMessage id name) = staged at hstaged hout
  have hsent := finish_of_send (h := { h with
    device := d₁, frame := staged, log := h₁.log, dnsTransaction := id + 1 }) hout hquery
  generalize (staged.answerUdp h.settings (Dns.queryMessage id name).length).frame = sent at hsent
  obtain ⟨h', hawaited, hwait⟩ := waitFor_of_gives
    (h := { h with device := d₂, frame := sent, log := h₁.log ++ [.queried id name server],
                   dnsTransaction := id + 1 })
    (hgives.mono fun x hx => dnsAnswer?_eq_none.2 hx)
    (dnsAnswer?_eq_some.2 ⟨hresponse, rfl⟩) hresponse.ne_nil hn
  have haddress : h'.frame.get Ipv4Addr (udpDataOffset + off) =
      Wire.decode response (udpDataOffset + off) :=
    hawaited.holds.get_eq hfit
  refine ⟨h'.note (.nameAnswered name (n + 1)), ?_, hawaited.holds, ?_⟩
  · unfold Moved
    rw [hawaited.eq]
    rfl
  · unfold Moved at hmoved
    unfold resolveName
    simp only [Task.bind_apply, Task.modify_apply, Task.get_apply, Task.lift_apply]
    rw [hresolve, hmoved]
    dsimp only
    rw [hid, hstaged]
    dsimp only
    rw [hsent]
    dsimp only [note]
    rw [hwait]
    dsimp only
    rw [hoff]
    dsimp only
    rw [← haddress]
    rfl

end Host

end PacketHost
