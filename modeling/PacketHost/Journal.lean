import PacketHost.Address.Text
import PacketHost.Error

/-!
What a host writes to its log.
-/

namespace PacketHost

open Digits

inductive Level
  | trace
  | debug
  | warn
  deriving DecidableEq

def Level.name : Level → String
  | .trace => "TRACE"
  | .debug => "DEBUG"
  | .warn => "WARN"

/-- What a host answers a received frame with. -/
inductive ReplyKind
  | arp
  | echo
  | udp
  | tcpControl
  | tcpData
  deriving DecidableEq

def ReplyKind.name : ReplyKind → String
  | .arp => "ARP reply"
  | .echo => "ICMP echo reply"
  | .udp => "UDP reply"
  | .tcpControl => "TCP control reply"
  | .tcpData => "TCP reply"

inductive Note
  | receiveFailed (reason : String)
  | runt (length : Nat)
  | otherEtherType (etherType : UInt16)
  | otherArp
  | otherDestination (dst : Ipv4Addr)
  | badHeaderChecksum
  | otherProtocol (protocol : UInt8)
  | otherIcmp (type : UInt8)
  | badDataOffset (offset : Nat)
  | noUdpHandler (port : UInt16)
  | noTcpHandler (port : UInt16)
  | answeringArp (hw : MacAddr) (ip : Ipv4Addr)
  | answeringEcho (length : Nat)
  | answeringControl (port flags : UInt16)
  | replyFailed (kind : ReplyKind) (error : NetError)
  | unmatched
  | resolved (ip : Ipv4Addr) (hw : MacAddr) (polls : Nat)
  | echoed (ip : Ipv4Addr) (polls : Nat)
  | queried (id : UInt16) (name : String) (server : Ipv4Addr)
  | nameAnswered (name : String) (polls : Nat)
  deriving DecidableEq

namespace Note

def level : Note → Level
  | receiveFailed _ => .warn
  | replyFailed .arp _ => .warn
  | replyFailed _ _ => .debug
  | answeringArp .. | answeringEcho .. | answeringControl .. => .debug
  | resolved .. | echoed .. | queried .. | nameAnswered .. => .debug
  | _ => .trace

def message : Note → String
  | receiveFailed reason => s!"receive failed: {reason}"
  | runt length => s!"dropping runt frame of {length} bytes"
  | otherEtherType t => s!"ignoring ethertype 0x{hexText 4 t.toNat}"
  | otherArp => "ignoring ARP frame not asking for us"
  | otherDestination dst => s!"ignoring IPv4 packet for {dst.listText}"
  | badHeaderChecksum => "dropping IPv4 packet with bad header checksum"
  | otherProtocol p => s!"unsupported protocol: {p}"
  | otherIcmp t => s!"ignoring ICMP type {t}"
  | badDataOffset offset => s!"dropping TCP segment with data offset {offset}"
  | noUdpHandler port => s!"no UDP handler for port {port}"
  | noTcpHandler port => s!"no TCP handler for port {port}"
  | answeringArp hw ip => s!"answering ARP request from {hw.text} ({ip.listText})"
  | answeringEcho length => s!"answering ICMP echo request ({length} bytes)"
  | answeringControl port flags =>
    s!"answering TCP control segment on port {port} with flags 0x{hexText 3 flags.toNat}"
  | replyFailed kind error => s!"{kind.name} failed: {error.message}"
  | unmatched => "dropping unmatched frame while waiting"
  | resolved ip hw polls => s!"resolved {ip.listText} to {hw.text} after {polls} polls"
  | echoed ip polls => s!"echo reply from {ip.listText} after {polls} polls"
  | queried id name server =>
    s!"sent DNS query 0x{hexText 4 id.toNat} for {name} to {server.listText}"
  | nameAnswered name polls => s!"DNS answer for {name} after {polls} polls"

def text (n : Note) : String := n.level.name ++ " " ++ n.message

end Note

end PacketHost
