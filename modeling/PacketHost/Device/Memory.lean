import PacketHost.Device

/-!
A device in memory, with a peer that follows a script.

What is pushed is received in order. Every frame sent is recorded, and the next rule of the script,
if one is left, says what the peer answers to it; the answers join the queue.
-/

namespace PacketHost

structure MemoryDevice where
  queue : List Bytes := []
  sent : List Bytes := []
  script : List (Bytes → List Bytes) := []
  receiveCalls : Nat := 0

namespace MemoryDevice

def push (d : MemoryDevice) (frames : List Bytes) : MemoryDevice :=
  { d with queue := d.queue ++ frames }

def pending (d : MemoryDevice) : Nat := d.queue.length

/-- Adds to the script rules that answer alike whatever was sent. -/
def expect (d : MemoryDevice) (answers : List (List Bytes)) : MemoryDevice :=
  { d with script := d.script ++ answers.map fun frames _ => frames }

def takeSent (d : MemoryDevice) : List Bytes × MemoryDevice := (d.sent, { d with sent := [] })

/-- Nothing is received where nothing is pending. -/
def receive (limit : Nat) (d : MemoryDevice) : Bytes × MemoryDevice :=
  ((d.queue.headD []).take limit,
    { d with queue := d.queue.tail, receiveCalls := d.receiveCalls + 1 })

def send (b : Bytes) (d : MemoryDevice) : MemoryDevice :=
  { d with
    queue := d.queue ++ (d.script.head?.map (· b)).getD []
    sent := d.sent ++ [b]
    script := d.script.tail }

instance : Device MemoryDevice where
  receive limit d := (.ok (d.receive limit).1, (d.receive limit).2)
  send b d := (.ok (), d.send b)
  length_le_of_receive h := by
    cases h
    exact List.length_take_le ..

instance : FiniteDevice MemoryDevice where
  rank d := (d.script.length, d.queue.length)
  rank_receive {limit d x b} h := by
    refine Prod.Lex.right _ ?_
    cases hq : d.queue with
    | nil => simp [Device.receive, receive, hq] at h
    | cons f fs => simp [Device.receive, receive, hq]
  rank_send b d := by
    cases hs : d.script with
    | nil => exact .inl (by simp [Device.send, send, hs])
    | cons rule rules => exact .inr (.left _ _ (by simp [Device.send, send, hs]))

end MemoryDevice

end PacketHost
