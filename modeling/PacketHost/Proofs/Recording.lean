import PacketHost.Proofs.Calls

/-!
A device that keeps a record.

Every call is passed on to the device inside, and its outcome is given back as it is and written
down. So whatever has passed between a host and such a device can be read off the device: the calls
that lead from one state of it to another are those that it has noted in between
(`calls_of_trace`).
-/

namespace PacketHost

open Device

/-- The frame that the device is handed in a call, whether or not it accepts it. -/
def Device.Event.handed? : Event → Option Bytes
  | .receive _ => none
  | .send b _ => some b

/-- A device, and the calls that it has had, oldest first. -/
structure RecordingDevice (δ : Type) where
  inner : δ
  calls : List Event := []

namespace RecordingDevice

variable {δ : Type}

instance [Device δ] : Device (RecordingDevice δ) where
  receive limit d :=
    let r := Device.receive limit d.inner
    (r.1, { inner := r.2, calls := d.calls ++ [.receive r.1] })
  send b d :=
    let r := Device.send b d.inner
    (r.1, { inner := r.2, calls := d.calls ++ [.send b r.1] })
  length_le_of_receive h := Device.length_le_of_receive h

instance [FiniteDevice δ] : FiniteDevice (RecordingDevice δ) where
  rank d := FiniteDevice.rank d.inner
  rank_receive h := FiniteDevice.rank_receive h
  rank_send b d := FiniteDevice.rank_send b d.inner

lemma calls_of_trace [Device δ] {d d' : RecordingDevice δ} {events : List Event}
    (h : Trace d events d') : d'.calls = d.calls ++ events := by
  induction h with
  | nil d => exact (List.append_nil _).symm
  | receive _ ih => rw [ih]; exact List.append_assoc _ [_] _
  | send b _ ih => rw [ih]; exact List.append_assoc _ [_] _

end RecordingDevice

end PacketHost
