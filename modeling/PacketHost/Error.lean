/-!
What can go wrong, and how it is said.
-/

namespace PacketHost

inductive Transport
  | udp
  | tcp
  deriving DecidableEq

def Transport.name : Transport → String
  | .udp => "UDP"
  | .tcp => "TCP"

inductive NetError
  /-- Nothing at all arrived while waiting. -/
  | noReply (budget : Nat)
  /-- Frames arrived while waiting, but not the one waited for. -/
  | timeout (budget : Nat)
  /-- The frame to be answered is not of the expected kind. -/
  | protocolMismatch (expected : Transport)
  | sizeMismatch (length limit : Nat)
  | payloadTooLarge (length capacity : Nat)
  | invalidName
  /-- The device failed, for the reason it gave. -/
  | device (reason : String)
  deriving DecidableEq

def NetError.message : NetError → String
  | .noReply budget => s!"No frame received within {budget} polls"
  | .timeout budget => s!"No matching reply within {budget} polls"
  | .protocolMismatch expected => s!"Frame buffer does not hold a {expected.name} record"
  | .sizeMismatch length limit => s!"Record of {length} bytes exceeds its bound of {limit}"
  | .payloadTooLarge length capacity =>
    s!"Payload of {length} bytes does not fit the {capacity} bytes available"
  | .invalidName => "Invalid DNS name"
  | .device reason => s!"Device error: {reason}"

end PacketHost
