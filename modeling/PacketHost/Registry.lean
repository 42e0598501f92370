import PacketHost.Exchange
import PacketHost.PortMap

/-!
Which application answers on which port.

TCP and UDP have a map each, and a handler each for the ports that are not in it. A TCP port also
has a route, which decides whether an answer advances the acknowledgment number.
-/

namespace PacketHost

/-- An application. How it answers may depend on the exchange and on how many exchanges the host has
had before, so it need not answer alike twice. -/
structure Handler where
  name : String
  respond : Nat → Exchange → List Action

inductive TcpRoute
  | line
  | http
  | stream
  deriving DecidableEq

/-- Answers on a framed route do not advance the acknowledgment number. -/
def TcpRoute.isFramed (r : TcpRoute) : Bool := r == .line

def TcpRoute.name : TcpRoute → String
  | .line => "Line"
  | .http => "Http"
  | .stream => "Stream"

structure TcpEntry where
  route : TcpRoute
  handler : Handler

structure Registry where
  tcp : PortMap TcpEntry := .empty
  defaultTcp : Option Handler := none
  udp : PortMap Handler := .empty
  defaultUdp : Option Handler := none

/-- What a handler can be registered for. -/
inductive Binding
  | tcp (port : UInt16) (route : TcpRoute)
  | defaultTcp
  | udp (port : UInt16)
  | defaultUdp
  deriving DecidableEq

namespace Registry

/-- A later registration replaces an earlier one. -/
def register (r : Registry) (handler : Handler) : Binding → Registry
  | .tcp port route => { r with tcp := r.tcp.insert port ⟨route, handler⟩ }
  | .defaultTcp => { r with defaultTcp := some handler }
  | .udp port => { r with udp := r.udp.insert port handler }
  | .defaultUdp => { r with defaultUdp := some handler }

/-- The default handler has no route. -/
def tcpRoute? (r : Registry) (port : UInt16) : Option TcpRoute := (r.tcp.get? port).map (·.route)

def isFramed (r : Registry) (port : UInt16) : Bool := (r.tcpRoute? port).any (·.isFramed)

def tcpHandler? (r : Registry) (port : UInt16) : Option Handler :=
  ((r.tcp.get? port).map (·.handler)).or r.defaultTcp

def udpHandler? (r : Registry) (port : UInt16) : Option Handler :=
  (r.udp.get? port).or r.defaultUdp

/-- The registry on one line, its ports in ascending order. -/
def listing (r : Registry) : String :=
  let list (items : List String) := "[" ++ ", ".intercalate items ++ "]"
  let tcp := list (r.tcp.entries.map fun e => s!"({e.1}, {e.2.route.name})")
  let udp := list (r.udp.ports.map toString)
  let fields := s!"tcp: {tcp}, default_tcp: {r.defaultTcp.isSome}, " ++
    s!"udp: {udp}, default_udp: {r.defaultUdp.isSome}"
  "HandlerRegistry \x7b " ++ fields ++ " \x7d"

end Registry

end PacketHost
