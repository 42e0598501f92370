import Mathlib.Data.List.Nodup
import PacketHost.Proofs.Acknowledging
import PacketHost.Proofs.Guarded.Operations

/-!
Who answers on a port: the application that was registered for it last.

Nothing but a registration changes what is registered (`Host.handlers_run`), and for each thing that
can be looked up a registration either settles it or leaves it as it was. So a lookup finds what the
last registration that settles it has made of it (`Registry.lookup_registerAll`), whatever is looked
up.

A segment takes two lookups. Its destination port is looked up for the application that answers, and
the source port of the answer, the same number by then, for the route that decides about the
acknowledgment. Both find the one registration.
-/

namespace PacketHost

open Bytes Received

/-- An application, and what it is registered for. -/
structure Registration where
  handler : Handler
  binding : Binding

namespace Registration

def tcpFor? (port : UInt16) (x : Registration) : Option TcpEntry :=
  match x.binding with
  | .tcp p route => if port = p then some ⟨route, x.handler⟩ else none
  | _ => none

def tcpDefault? (x : Registration) : Option Handler :=
  match x.binding with
  | .defaultTcp => some x.handler
  | _ => none

def udpFor? (port : UInt16) (x : Registration) : Option Handler :=
  match x.binding with
  | .udp p => if port = p then some x.handler else none
  | _ => none

def udpDefault? (x : Registration) : Option Handler :=
  match x.binding with
  | .defaultUdp => some x.handler
  | _ => none

def isTcp (x : Registration) : Bool :=
  match x.binding with
  | .tcp _ _ => true
  | .defaultTcp => true
  | .udp _ => false
  | .defaultUdp => false

def isUdp (x : Registration) : Bool := !x.isTcp

/-- What the last registration that settles something has made of it. -/
def lastOf {α : Type} (settled : Registration → Option α) (xs : List Registration) : Option α :=
  xs.reverse.findSome? settled

/-- The kind under which a TCP port was registered last. The default has no kind. -/
def lastRoute (xs : List Registration) (port : UInt16) : Option TcpRoute :=
  (lastOf (tcpFor? port) xs).map (·.route)

/-- The application registered last for a TCP port, of whatever kind, or else the last default. -/
def tcpAnswerer (xs : List Registration) (port : UInt16) : Option Handler :=
  ((lastOf (tcpFor? port) xs).map (·.handler)).or (lastOf tcpDefault? xs)

def udpAnswerer (xs : List Registration) (port : UInt16) : Option Handler :=
  (lastOf (udpFor? port) xs).or (lastOf udpDefault? xs)

/-- Registrations that settle nothing might as well not have been made. -/
lemma lastOf_filter {α : Type} {settled : Registration → Option α} {keep : Registration → Bool}
    (h : ∀ x, keep x = false → settled x = none) (xs : List Registration) :
    lastOf settled (xs.filter keep) = lastOf settled xs := by
  rw [lastOf, lastOf, ← List.filter_reverse]
  induction xs.reverse with
  | nil => rfl
  | cons x xs ih =>
    rw [List.filter_cons, List.findSome?_cons]
    by_cases hx : keep x = true
    · rw [if_pos hx, List.findSome?_cons, ih]
    · rw [if_neg hx, h x (eq_false_of_ne_true hx), ih]

lemma settlesTcp_of_not_isTcp {x : Registration} (h : x.isTcp = false) (port : UInt16) :
    x.tcpFor? port = none ∧ x.tcpDefault? = none := by
  obtain ⟨handler, _ | _ | _ | _⟩ := x
  · cases h
  · cases h
  · exact ⟨rfl, rfl⟩
  · exact ⟨rfl, rfl⟩

lemma settlesUdp_of_not_isUdp {x : Registration} (h : x.isUdp = false) (port : UInt16) :
    x.udpFor? port = none ∧ x.udpDefault? = none := by
  obtain ⟨handler, _ | _ | _ | _⟩ := x
  · exact ⟨rfl, rfl⟩
  · exact ⟨rfl, rfl⟩
  · cases h
  · cases h

section Filter

variable (xs : List Registration) (port : UInt16)

lemma lastRoute_filter : lastRoute (xs.filter isTcp) port = lastRoute xs port := by
  rw [lastRoute, lastRoute, lastOf_filter fun x h => (settlesTcp_of_not_isTcp h port).1]

lemma tcpAnswerer_filter : tcpAnswerer (xs.filter isTcp) port = tcpAnswerer xs port := by
  rw [tcpAnswerer, tcpAnswerer, lastOf_filter fun x h => (settlesTcp_of_not_isTcp h port).1,
    lastOf_filter fun x h => (settlesTcp_of_not_isTcp h port).2]

lemma udpAnswerer_filter : udpAnswerer (xs.filter isUdp) port = udpAnswerer xs port := by
  rw [udpAnswerer, udpAnswerer, lastOf_filter fun x h => (settlesUdp_of_not_isUdp h port).1,
    lastOf_filter fun x h => (settlesUdp_of_not_isUdp h port).2]

end Filter

end Registration

open Registration

/-! ### Registrations one after the other -/

namespace Registry

def registerAll (r : Registry) (xs : List Registration) : Registry :=
  xs.foldl (fun r x => r.register x.handler x.binding) r

/-- What these registrations make of an empty registry. -/
def ofRegistrations (xs : List Registration) : Registry := ({} : Registry).registerAll xs

/-- A lookup that each registration either settles or leaves alone finds what was settled last. -/
lemma lookup_registerAll {α : Type} (look : Registry → Option α)
    {settled : Registration → Option α}
    (hstep : ∀ r x, look (r.register x.handler x.binding) = (settled x).or (look r)) (r : Registry)
    (xs : List Registration) : look (r.registerAll xs) = (lastOf settled xs).or (look r) := by
  induction xs generalizing r with
  | nil => rfl
  | cons x xs ih =>
    rw [lastOf, List.reverse_cons, List.findSome?_append, Option.or_assoc, List.findSome?_singleton,
      ← hstep]
    exact ih _

section Step

variable (r : Registry) (x : Registration) (port : UInt16)

lemma get?_tcp_register :
    (r.register x.handler x.binding).tcp.get? port = (x.tcpFor? port).or (r.tcp.get? port) := by
  obtain ⟨handler, ⟨p, route⟩ | _ | _ | _⟩ := x
  · simp only [register, PortMap.get?_insert, tcpFor?]
    split <;> rfl
  · rfl
  · rfl
  · rfl

lemma defaultTcp_register :
    (r.register x.handler x.binding).defaultTcp = x.tcpDefault?.or r.defaultTcp := by
  obtain ⟨handler, _ | _ | _ | _⟩ := x <;> rfl

lemma get?_udp_register :
    (r.register x.handler x.binding).udp.get? port = (x.udpFor? port).or (r.udp.get? port) := by
  obtain ⟨handler, _ | _ | p | _⟩ := x
  · rfl
  · rfl
  · simp only [register, PortMap.get?_insert, udpFor?]
    split <;> rfl
  · rfl

lemma defaultUdp_register :
    (r.register x.handler x.binding).defaultUdp = x.udpDefault?.or r.defaultUdp := by
  obtain ⟨handler, _ | _ | _ | _⟩ := x <;> rfl

end Step

/-- Only the line kind is framed. -/
lemma isFramed_iff {r : Registry} {port : UInt16} :
    r.isFramed port = true ↔ r.tcpRoute? port = some .line := by
  rw [isFramed]
  rcases r.tcpRoute? port with - | - | - | - <;> simp [TcpRoute.isFramed]

section Lookups

variable (xs : List Registration) (port : UInt16)

lemma get?_tcp_ofRegistrations :
    (ofRegistrations xs).tcp.get? port = lastOf (tcpFor? port) xs :=
  (lookup_registerAll (·.tcp.get? port) (fun r x => r.get?_tcp_register x port) {} xs).trans
    Option.or_none

lemma defaultTcp_ofRegistrations : (ofRegistrations xs).defaultTcp = lastOf tcpDefault? xs :=
  (lookup_registerAll (·.defaultTcp) defaultTcp_register {} xs).trans Option.or_none

lemma get?_udp_ofRegistrations :
    (ofRegistrations xs).udp.get? port = lastOf (udpFor? port) xs :=
  (lookup_registerAll (·.udp.get? port) (fun r x => r.get?_udp_register x port) {} xs).trans
    Option.or_none

lemma defaultUdp_ofRegistrations : (ofRegistrations xs).defaultUdp = lastOf udpDefault? xs :=
  (lookup_registerAll (·.defaultUdp) defaultUdp_register {} xs).trans Option.or_none

lemma tcpHandler?_ofRegistrations :
    (ofRegistrations xs).tcpHandler? port = tcpAnswerer xs port := by
  rw [tcpHandler?, get?_tcp_ofRegistrations, defaultTcp_ofRegistrations, tcpAnswerer]

lemma tcpRoute?_ofRegistrations : (ofRegistrations xs).tcpRoute? port = lastRoute xs port := by
  rw [tcpRoute?, get?_tcp_ofRegistrations, lastRoute]

lemma udpHandler?_ofRegistrations :
    (ofRegistrations xs).udpHandler? port = udpAnswerer xs port := by
  rw [udpHandler?, get?_udp_ofRegistrations, defaultUdp_ofRegistrations, udpAnswerer]

end Lookups

end Registry

/-! ### The listing -/

section Ascending

variable {α : Type} (key : α → UInt16) {l l' : List α}

lemma nodup_map_of_ascending (h : l.Pairwise fun x y => key x < key y) : (l.map key).Nodup :=
  (List.pairwise_map.2 h).imp UInt16.ne_of_lt

/-- Strictly ascending lists with the same members are the same list. -/
lemma eq_of_ascending (h : l.Pairwise fun x y => key x < key y)
    (h' : l'.Pairwise fun x y => key x < key y) (hmem : ∀ x, x ∈ l ↔ x ∈ l') : l = l' := by
  have hnodup := (nodup_map_of_ascending key h).of_map key
  have hnodup' := (nodup_map_of_ascending key h').of_map key
  have hperm : l.Perm l' := (List.perm_ext_iff_of_nodup hnodup hnodup').2 hmem
  exact hperm.eq_of_pairwise (fun x y _ _ hxy hyx => absurd hyx (UInt16.lt_asymm hxy)) h h'

/-- A strictly ascending list is what sorting makes of its members, in whatever order they are. -/
lemma mergeSort_eq_of_ascending {found : List α} (h : l.Pairwise fun x y => key x < key y)
    (hfound : found.Perm l) : found.mergeSort (fun x y => decide (key x ≤ key y)) = l := by
  have hperm : (found.mergeSort fun x y => decide (key x ≤ key y)).Perm l :=
    (List.mergeSort_perm found _).trans hfound
  have hsorted : (found.mergeSort fun x y => decide (key x ≤ key y)).Pairwise
      fun x y => decide (key x ≤ key y) = true := by
    refine List.pairwise_mergeSort (fun x y z hxy hyz => ?_) (fun x y => ?_) found
    · exact decide_eq_true (UInt16.le_trans (of_decide_eq_true hxy) (of_decide_eq_true hyz))
    · simpa using UInt16.le_total (key x) (key y)
  refine hperm.eq_of_pairwise ?_ hsorted (h.imp fun hlt => decide_eq_true (UInt16.le_of_lt hlt))
  intro x y hx hy hxy hyx
  exact List.inj_on_of_nodup_map (nodup_map_of_ascending key h) (hperm.mem_iff.1 hx) hy
    (UInt16.le_antisymm (of_decide_eq_true hxy) (of_decide_eq_true hyx))

end Ascending

namespace PortMap

variable {α : Type}

lemma mem_iff_lookup {es : List (UInt16 × α)} (h : es.Pairwise fun x y => x.1 < y.1)
    {port : UInt16} {a : α} : (port, a) ∈ es ↔ es.lookup port = some a := by
  induction es with
  | nil => simp
  | cons e es ih =>
    obtain ⟨hfirst, hrest⟩ := List.pairwise_cons.1 h
    rw [lookup_cons_eq, List.mem_cons]
    by_cases hport : port = e.1
    · have hout : (port, a) ∉ es := fun hmem => UInt16.ne_of_lt (hfirst _ hmem) hport.symm
      rw [if_pos hport, Option.some_inj, or_iff_left hout, Prod.ext_iff]
      exact ⟨fun h => h.2.symm, fun h => ⟨hport, h.symm⟩⟩
    · have hne : (port, a) ≠ e := fun heq => hport (congrArg Prod.fst heq)
      rw [if_neg hport, or_iff_right hne, ih hrest]

lemma mem_entries (m : PortMap α) {port : UInt16} {a : α} :
    (port, a) ∈ m.entries ↔ m.get? port = some a :=
  mem_iff_lookup m.ascending

lemma mem_ports (m : PortMap α) {port : UInt16} : port ∈ m.ports ↔ (m.get? port).isSome := by
  rw [ports, List.mem_map, Option.isSome_iff_exists]
  constructor
  · rintro ⟨⟨p, a⟩, hmem, rfl⟩
    exact ⟨a, m.mem_entries.1 hmem⟩
  · rintro ⟨a, ha⟩
    exact ⟨(port, a), m.mem_entries.2 ha, rfl⟩

end PortMap

/-- The line that shows these TCP ports with their kinds and these UDP ports, and whether there are
defaults. -/
def listingText (tcp : List (UInt16 × TcpRoute)) (defaultTcp : Bool) (udp : List UInt16)
    (defaultUdp : Bool) : String :=
  let list (items : List String) := "[" ++ ", ".intercalate items ++ "]"
  let tcpText := list (tcp.map fun e => s!"({e.1}, {e.2.name})")
  let udpText := list (udp.map toString)
  let fields := s!"tcp: {tcpText}, default_tcp: {defaultTcp}, " ++
    s!"udp: {udpText}, default_udp: {defaultUdp}"
  "HandlerRegistry \x7b " ++ fields ++ " \x7d"

/-- Each port that has been registered is in these lists once, in ascending order and with its last
kind. Sorting gets them from the ports in any order. -/
structure Lists (xs : List Registration) (tcp : List (UInt16 × TcpRoute)) (udp : List UInt16) :
    Prop where
  tcp_ascending : tcp.Pairwise fun x y => x.1 < y.1
  mem_tcp : ∀ port route, (port, route) ∈ tcp ↔ lastRoute xs port = some route
  tcp_sorted : ∀ found : List (UInt16 × TcpRoute), found.Perm tcp →
    found.mergeSort (fun x y => decide (x.1 ≤ y.1)) = tcp
  udp_ascending : udp.Pairwise fun x y => x < y
  mem_udp : ∀ port, port ∈ udp ↔ (lastOf (udpFor? port) xs).isSome
  udp_sorted : ∀ found : List UInt16, found.Perm udp →
    found.mergeSort (fun x y => decide (x ≤ y)) = udp

/-- Two sequences of registrations leave the same ports with the same kinds, and defaults for the
same protocols. -/
structure SameKinds (xs ys : List Registration) : Prop where
  tcp : ∀ port, lastRoute xs port = lastRoute ys port
  defaultTcp : (lastOf tcpDefault? xs).isSome = (lastOf tcpDefault? ys).isSome
  udp : ∀ port, (lastOf (udpFor? port) xs).isSome = (lastOf (udpFor? port) ys).isSome
  defaultUdp : (lastOf udpDefault? xs).isSome = (lastOf udpDefault? ys).isSome

namespace Registry

def tcpKinds (r : Registry) : List (UInt16 × TcpRoute) :=
  r.tcp.entries.map fun e => (e.1, e.2.route)

lemma listing_eq (r : Registry) :
    r.listing = listingText r.tcpKinds r.defaultTcp.isSome r.udp.ports r.defaultUdp.isSome := by
  unfold listing listingText tcpKinds
  dsimp only
  rw [List.map_map, Function.comp_def]

lemma mem_tcpKinds (r : Registry) {port : UInt16} {route : TcpRoute} :
    (port, route) ∈ r.tcpKinds ↔ r.tcpRoute? port = some route := by
  rw [tcpKinds, List.mem_map, tcpRoute?, Option.map_eq_some_iff]
  constructor
  · rintro ⟨⟨p, e⟩, hmem, heq⟩
    cases heq
    exact ⟨e, r.tcp.mem_entries.1 hmem, rfl⟩
  · rintro ⟨e, he, rfl⟩
    exact ⟨(port, e), r.tcp.mem_entries.2 he, rfl⟩

lemma lists_ofRegistrations (xs : List Registration) :
    Lists xs (ofRegistrations xs).tcpKinds (ofRegistrations xs).udp.ports := by
  have htcp : (ofRegistrations xs).tcpKinds.Pairwise fun x y => x.1 < y.1 :=
    List.pairwise_map.2 (ofRegistrations xs).tcp.ascending
  have hudp : (ofRegistrations xs).udp.ports.Pairwise fun x y => x < y :=
    List.pairwise_map.2 (ofRegistrations xs).udp.ascending
  exact {
    tcp_ascending := htcp
    mem_tcp port route := by rw [mem_tcpKinds, tcpRoute?_ofRegistrations]
    tcp_sorted _ := mergeSort_eq_of_ascending Prod.fst htcp
    udp_ascending := hudp
    mem_udp port := by rw [PortMap.mem_ports, get?_udp_ofRegistrations]
    udp_sorted _ := mergeSort_eq_of_ascending id hudp }

/-- The listing tells the last kinds, and nothing else of the registrations. -/
lemma listing_congr {xs ys : List Registration} (h : SameKinds xs ys) :
    (ofRegistrations xs).listing = (ofRegistrations ys).listing := by
  have hxs := lists_ofRegistrations xs
  have hys := lists_ofRegistrations ys
  have htcp : (ofRegistrations xs).tcpKinds = (ofRegistrations ys).tcpKinds :=
    eq_of_ascending Prod.fst hxs.tcp_ascending hys.tcp_ascending fun ⟨port, route⟩ => by
      rw [hxs.mem_tcp, hys.mem_tcp, h.tcp]
  have hudp : (ofRegistrations xs).udp.ports = (ofRegistrations ys).udp.ports :=
    eq_of_ascending id hxs.udp_ascending hys.udp_ascending fun port => by
      rw [hxs.mem_udp, hys.mem_udp, h.udp]
  rw [listing_eq, listing_eq, htcp, hudp, defaultTcp_ofRegistrations, defaultTcp_ofRegistrations,
    defaultUdp_ofRegistrations, defaultUdp_ofRegistrations, h.defaultTcp, h.defaultUdp]

end Registry

/-! ### What operations register -/

def Operation.registration? {δ : Type} : Operation δ → Option Registration
  | .register handler binding => some ⟨handler, binding⟩
  | _ => none

/-- The registrations among some operations, in their order. -/
def registrations {δ : Type} (ops : List (Operation δ)) : List Registration :=
  ops.filterMap Operation.registration?

namespace Host

variable {δ : Type}

section Unchanged

variable [FiniteDevice δ]

/-- Of all operations only a registration changes what is registered. -/
lemma handlers_operate (h : Host δ) (op : Operation δ) :
    (h.operate op).2.handlers = h.handlers.registerAll op.registration?.toList := by
  cases op with
  | device change => rfl
  | register handler binding => rfl
  | poll => exact h.service_poll.1
  | udpSend data => exact (Guarded.runs_udpSend h data).handlers
  | tcpSend data => exact (Guarded.runs_tcpSend h data).handlers
  | resolve ip budget => exact (Guarded.runs_resolve h ip budget).handlers
  | ping ip budget => exact (Guarded.runs_ping h ip budget).handlers
  | resolveName server name budget => exact (Guarded.runs_resolveName h server name budget).handlers

lemma handlers_run (h : Host δ) (ops : List (Operation δ)) :
    (h.run ops).2.handlers = h.handlers.registerAll (registrations ops) := by
  induction ops generalizing h with
  | nil => rfl
  | cons op ops ih =>
    rw [run, ih, handlers_operate, registrations, registrations, List.filterMap_cons]
    cases op.registration? <;> rfl

lemma handlers_run_new (device : δ) (settings : Settings) (ops : List (Operation δ)) :
    ((Host.new device settings).run ops).2.handlers = .ofRegistrations (registrations ops) :=
  handlers_run _ ops

end Unchanged

end Host

/-! ### Frames for an application -/

namespace Received

variable {s : Settings} {r : Registry} {b : Bytes} {c : Call}

lemma CarriesSegment.calls_iff (h : CarriesSegment s b) (hpsh : (tcp b).has TcpFlag.psh = true) :
    Calls s r b c ↔ ∃ g, r.tcpHandler? (tcp b).dstPort = some g ∧ segmentCall b g = c := by
  constructor
  · intro hc
    cases hc with
    | segment _ _ hh => exact ⟨_, hh, rfl⟩
    | datagram h' _ => exact absurd h h'.not_carriesSegment
  · rintro ⟨g, hg, rfl⟩
    exact .segment h hpsh hg

lemma CarriesDatagram.calls_iff (h : CarriesDatagram s b) :
    Calls s r b c ↔ ∃ g, r.udpHandler? (udp b).dstPort = some g ∧ datagramCall b g = c := by
  constructor
  · intro hc
    cases hc with
    | segment h' _ _ => exact absurd h' h.not_carriesSegment
    | datagram _ hh => exact ⟨_, hh, rfl⟩
  · rintro ⟨g, hg, rfl⟩
    exact .datagram h hg

end Received

namespace Host

variable {δ : Type} [Device δ]

/-- Whoever answers, the turns there have been are these. -/
def turns (h : Host δ) (b : Bytes) (call : Handler → Call) (answerer : Option Handler) :
    List Delivery :=
  h.deliveries ++
    (answerer.map fun g => (h.offered b (call g)).delivery h.deliveries.length g).toList

/-- The answer of an application to a segment, if there is an application and it answers. -/
def answerOf (h : Host δ) (b : Bytes) (answerer : Option Handler) : Option Bytes :=
  answerer.bind fun g => ((h.offered b (segmentCall b g)).after h.deliveries.length g).answer?

/-- What comes of a segment with data when this application answers on this route: its turn is the
only one, and its answer is all that is sent. On a line route the answer does not advance the
acknowledgment number, on any other and on none it advances it by its own length. -/
structure AnswersOn (h after : Host δ) (b : Bytes) (answerer : Option Handler)
    (route? : Option TcpRoute) : Prop where
  turn : after.deliveries = h.turns b (segmentCall b) answerer
  silent : h.answerOf b answerer = none → after.device = h.device
  answer : ∀ data, h.answerOf b answerer = some data → ∃ reply : Bytes,
    after.device = (Device.send reply h.device).2 ∧
      reply.drop (transportOffset + (tcp b).dataOffset) = padded data ∧
      (tcp reply).srcPort = (tcp b).dstPort ∧
      (tcp reply).ack.toNat =
        if route? = some .line then (tcp b).seq.toNat
        else ((tcp b).seq.toNat + data.length) % UInt32.size

/-- The one call that a frame is, or none. -/
lemma deliveries_dispatch (h : Host δ) {b : Bytes} (hb : b.length ≤ frameSize)
    {call : Handler → Call} {answerer : Option Handler} (hself : ∀ g, (call g).handler = g)
    (hcalls : ∀ c, Calls h.settings h.handlers b c ↔ ∃ g, answerer = some g ∧ call g = c) :
    ((h.holding b).dispatch b.length).deliveries = h.turns b call answerer := by
  have hf : (h.frame.write 0 b).Holds b := Frame.holds_write h.frame hb
  obtain ⟨log, hdispatch⟩ := h.dispatch_eq b
  rw [hdispatch, turns]
  cases answerer with
  | none =>
    have hnone : ∀ c, ¬ Calls h.settings h.handlers b c := fun c hc => by
      obtain ⟨g, hg, -⟩ := (hcalls c).1 hc
      cases hg
    rw [reaction, Frame.delivery_of_not_calls hf hnone]
    rfl
  | some g =>
    rw [reaction, Frame.delivery_of_calls hf ((hcalls _).2 ⟨g, rfl, rfl⟩), hself]
    rfl

/-- The lookups of the handler and of the route are of the same port. -/
lemma answersOn (h : Host δ) {b : Bytes} (hb : b.length ≤ frameSize)
    (hsegment : CarriesSegment h.settings b) (hpsh : (tcp b).has TcpFlag.psh = true) :
    h.AnswersOn ((h.holding b).dispatch b.length) b (h.handlers.tcpHandler? (tcp b).dstPort)
      (h.handlers.tcpRoute? (tcp b).dstPort) := by
  have hf : (h.frame.write 0 b).Holds b := Frame.holds_write h.frame hb
  have hdevice : ((h.holding b).dispatch b.length).device =
      Device.handed h.device (h.reaction b).outgoing? := by
    obtain ⟨log, hdispatch⟩ := h.dispatch_eq b
    rw [hdispatch]
  refine ⟨h.deliveries_dispatch hb (fun _ => rfl) fun c => hsegment.calls_iff hpsh, ?_, ?_⟩
  · intro hnone
    rw [hdevice, reaction, (Frame.react_of_replied_none hf hsegment hpsh hnone).2]
    rfl
  · intro data hsome
    obtain ⟨-, reply, hout, hcarries⟩ := Frame.react_of_replied_some hf hsegment hpsh hsome
    refine ⟨reply, by rw [hdevice, reaction, hout]; rfl, hcarries.payload, hcarries.srcPort, ?_⟩
    rw [hcarries.ack]
    simp only [Registry.isFramed_iff]

end Host

/-- **The last registration answers.** Whatever else is done with a host before and in between: the
lookups of a port find what was registered for it last under the protocol, or else the last default.
Data in a segment and a datagram go to that application and to no other, and the kind of the one
registration decides whether the answer to a segment advances the acknowledgment number. What is
registered for one protocol makes no difference to the other. The listing has each port once, in
ascending order with its last kind, and two hosts with the same last kinds and defaults for the same
protocols have the same listing. -/
theorem routing_follows_last {δ : Type} [FiniteDevice δ] (device : δ) (settings : Settings)
    (ops : List (Operation δ)) :
    let h := ((Host.new device settings).run ops).2
    let xs := registrations ops
    (∀ port, h.handlers.tcpHandler? port = tcpAnswerer xs port ∧
      h.handlers.tcpRoute? port = lastRoute xs port ∧
      h.handlers.udpHandler? port = udpAnswerer xs port) ∧
    (∀ b : Bytes, b.length ≤ frameSize → CarriesSegment h.settings b →
      (tcp b).has TcpFlag.psh = true →
        h.AnswersOn ((h.holding b).dispatch b.length) b (tcpAnswerer xs (tcp b).dstPort)
          (lastRoute xs (tcp b).dstPort)) ∧
    (∀ b : Bytes, b.length ≤ frameSize → CarriesDatagram h.settings b →
      ((h.holding b).dispatch b.length).deliveries =
        h.turns b (datagramCall b) (udpAnswerer xs (udp b).dstPort)) ∧
    (∃ tcp udp, Lists xs tcp udp ∧
      h.handlers.listing =
        listingText tcp (lastOf tcpDefault? xs).isSome udp (lastOf udpDefault? xs).isSome) ∧
    ∀ (device' : δ) (settings' : Settings) (ops' : List (Operation δ)),
      let h' := ((Host.new device' settings').run ops').2
      let ys := registrations ops'
      (xs.filter isTcp = ys.filter isTcp → ∀ port,
        h.handlers.tcpHandler? port = h'.handlers.tcpHandler? port ∧
          h.handlers.tcpRoute? port = h'.handlers.tcpRoute? port) ∧
      (xs.filter isUdp = ys.filter isUdp → ∀ port,
        h.handlers.udpHandler? port = h'.handlers.udpHandler? port) ∧
      (SameKinds xs ys → h.handlers.listing = h'.handlers.listing) := by
  dsimp only
  have hrun := Host.handlers_run_new device settings ops
  generalize ((Host.new device settings).run ops).2 = h at hrun ⊢
  generalize registrations ops = xs at hrun ⊢
  have htcp (port : UInt16) : h.handlers.tcpHandler? port = tcpAnswerer xs port := by
    rw [hrun, Registry.tcpHandler?_ofRegistrations]
  have hroute (port : UInt16) : h.handlers.tcpRoute? port = lastRoute xs port := by
    rw [hrun, Registry.tcpRoute?_ofRegistrations]
  have hudp (port : UInt16) : h.handlers.udpHandler? port = udpAnswerer xs port := by
    rw [hrun, Registry.udpHandler?_ofRegistrations]
  refine ⟨fun port => ⟨htcp port, hroute port, hudp port⟩, ?segment, ?datagram, ?listing, ?other⟩
  case segment =>
    intro b hb hsegment hpsh
    rw [← htcp, ← hroute]
    exact h.answersOn hb hsegment hpsh
  case datagram =>
    intro b hb hdatagram
    rw [← hudp]
    exact h.deliveries_dispatch hb (fun _ => rfl) fun c => hdatagram.calls_iff
  case listing =>
    refine ⟨_, _, Registry.lists_ofRegistrations xs, ?_⟩
    rw [hrun, Registry.listing_eq, Registry.defaultTcp_ofRegistrations,
      Registry.defaultUdp_ofRegistrations]
  case other =>
    intro device' settings' ops'
    rw [hrun, Host.handlers_run_new]
    generalize registrations ops' = ys
    refine ⟨fun hsame port => ?_, fun hsame port => ?_, Registry.listing_congr⟩
    · rw [Registry.tcpHandler?_ofRegistrations, Registry.tcpHandler?_ofRegistrations,
        Registry.tcpRoute?_ofRegistrations, Registry.tcpRoute?_ofRegistrations,
        ← tcpAnswerer_filter xs, ← lastRoute_filter xs, hsame, tcpAnswerer_filter, lastRoute_filter]
      exact ⟨rfl, rfl⟩
    · rw [Registry.udpHandler?_ofRegistrations, Registry.udpHandler?_ofRegistrations,
        ← udpAnswerer_filter xs, hsame, udpAnswerer_filter]

/-- Port 7 is registered as a stream and then as a line, with a datagram port of the same number and
a default in between. -/
def Operation.reroutings : List (Operation MemoryDevice) :=
  [.register (.replying "even" [1, 2]) (.tcp 7 .stream), .register .echo (.udp 7),
    .register .echo .defaultTcp, .register (.replying "odd" [0x6f, 0x64, 0x64]) (.tcp 7 .line)]

/-- The line answers, and the acknowledgment number is not advanced. -/
theorem routing_follows_last_reroutings :
    let h := ((Host.new {} {}).run Operation.reroutings).2
    dataSegment.length ≤ frameSize ∧ CarriesSegment h.settings dataSegment ∧
      (tcp dataSegment).has TcpFlag.psh = true ∧ ∃ reply : Bytes,
        ((h.holding dataSegment).dispatch dataSegment.length).device =
            (Device.send reply h.device).2 ∧
          (tcp reply).ack = (tcp dataSegment).seq := by
  dsimp only
  have hlength : dataSegment.length ≤ frameSize := by decide
  have hsegment : CarriesSegment ((Host.new {} {}).run Operation.reroutings).2.settings
      dataSegment := by
    decide
  have hpsh : (tcp dataSegment).has TcpFlag.psh = true := by decide
  obtain ⟨-, hroutes, -⟩ := routing_follows_last {} {} Operation.reroutings
  obtain ⟨reply, hdevice, -, -, hack⟩ :=
    (hroutes dataSegment hlength hsegment hpsh).answer [0x6f, 0x64, 0x64] (by decide +kernel)
  exact ⟨hlength, hsegment, hpsh, reply, hdevice, UInt32.toNat.inj hack⟩

end PacketHost
