import PacketHost.Address
import PacketHost.Error

/-!
A payload that has arrived, and the room to answer it.

The request stands at the start of a region of the frame buffer. An answer is written over it, or
made out of it where it stands. One byte at the end of the region is kept free, so that an answer of
odd length can be padded; no action can write to it.
-/

namespace PacketHost

open Bytes

structure Exchange where
  region : Bytes
  /-- Length of the request. -/
  length : Nat
  /-- Length of the answer, once there is one. -/
  reply : Option Nat := none
  remoteIp : Ipv4Addr
  remotePort : UInt16
  localPort : UInt16
  length_le : length ≤ region.length

/-- What an application can do with an exchange. -/
inductive Action
  /-- Answer with these bytes. -/
  | reply (data : Bytes)
  /-- Answer with so many bytes of what stands in the region. -/
  | replyInPlace (length : Nat)
  /-- Put bytes into the region, from a position on. -/
  | write (off : Nat) (data : Bytes)
  /-- Change the bytes where the request stands, keeping their number. -/
  | edit (change : Bytes → Bytes)

namespace Exchange

/-- An exchange over a region; a request cannot be longer than that. -/
def start (region : Bytes) (length : Nat) (remoteIp : Ipv4Addr) (remotePort localPort : UInt16) :
    Exchange :=
  { region, length := min length region.length, remoteIp, remotePort, localPort,
    length_le := Nat.min_le_right .. }

def request (x : Exchange) : Bytes := x.region.take x.length

def capacity (x : Exchange) : Nat := x.region.length - 1

/-- Bytes past the capacity are lost. -/
def write (x : Exchange) (off : Nat) (data : Bytes) : Exchange :=
  { x with
    region := overwrite (x.region.take x.capacity) off data ++ x.region.drop x.capacity
    length_le := by
      have := x.length_le
      simp only [List.length_append, length_overwrite, List.length_take, List.length_drop]
      omega }

/-- Makes the first so many bytes of `written` the answer, unless they do not fit. -/
def setReply (x : Exchange) (length : Nat) (written : Exchange) :
    Except NetError Unit × Exchange :=
  if x.capacity < length then (.error (.payloadTooLarge length x.capacity), x)
  else (.ok (), { written with reply := some length })

/-- An action that fails changes nothing, so an earlier answer stays in force. -/
def perform (x : Exchange) : Action → Except NetError Unit × Exchange
  | .reply data => x.setReply data.length (x.write 0 data)
  | .replyInPlace length => x.setReply length x
  | .write off data => (.ok (), x.write off data)
  | .edit change =>
    let part := x.region.take (min x.length x.capacity)
    (.ok (), x.write 0 ((change part).take part.length))

def performAll (x : Exchange) : List Action → List (Except NetError Unit) × Exchange
  | [] => ([], x)
  | a :: as =>
    let first := x.perform a
    let rest := first.2.performAll as
    (first.1 :: rest.1, rest.2)

@[simp] theorem length_region_write (x : Exchange) (off : Nat) (data : Bytes) :
    (x.write off data).region.length = x.region.length := by
  simp only [write, List.length_append, length_overwrite, List.length_take, List.length_drop]
  omega

@[simp] theorem capacity_write (x : Exchange) (off : Nat) (data : Bytes) :
    (x.write off data).capacity = x.capacity := by
  simp [capacity]

end Exchange

end PacketHost
