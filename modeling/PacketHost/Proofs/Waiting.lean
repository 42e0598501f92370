import Mathlib.Tactic.Lemma
import PacketHost.Proofs.Dispatch
import PacketHost.Wait

/-!
Waiting for a frame, as a run of receive calls.

`Device.Gives skip n d b d'` says what a device does while it is waited on: `n` calls that give
nothing or a frame to be skipped, and then one that gives `b`. A wait with more polls to go than
that ends with `b`, whatever has been in the buffer and whether or not anything else has arrived.
-/

namespace PacketHost

namespace Device

variable {δ : Type} [Device δ]

inductive Gives (skip : Bytes → Prop) : Nat → δ → Bytes → δ → Prop
  | here {d d' : δ} {b : Bytes} (hr : Device.receive frameSize d = (.ok b, d')) :
      Gives skip 0 d b d'
  | later {n : Nat} {d d₁ d' : δ} {x b : Bytes} (hr : Device.receive frameSize d = (.ok x, d₁))
      (hx : x = [] ∨ skip x) (h : Gives skip n d₁ b d') : Gives skip (n + 1) d b d'

namespace Gives

variable {skip : Bytes → Prop} {n : Nat} {d d' : δ} {b : Bytes}

lemma mono {skip' : Bytes → Prop} (h : Gives skip n d b d') (hskip : ∀ x, skip x → skip' x) :
    Gives skip' n d b d' := by
  induction h with
  | here hr => exact .here hr
  | later hr hx _ ih => exact .later hr (hx.imp_right (hskip _)) ih

end Gives

end Device

namespace Host

variable {δ : Type} [Device δ] {α : Type}

/-- What a host that has waited for `b` looks like: the buffer holds it. -/
structure Awaited (h h' : Host δ) (b : Bytes) (d : δ) : Prop where
  holds : h'.frame.Holds b
  eq : h' = { h with device := d, frame := h'.frame, log := h'.log }

variable {accept? : Bytes → Option α} {n budget left : Nat} {b : Bytes} {d' : δ} {a : α}

lemma waitLoop_of_gives (h : Host δ) (seen : Bool)
    (hg : Device.Gives (fun x => accept? x = none) n h.device b d') (ha : accept? b = some a)
    (hb : b ≠ []) (hn : n < left) (hleft : left ≤ budget) : ∃ h',
    Awaited h h' b d' ∧
      waitLoop accept? budget left seen h = (.ok (a, budget - left + (n + 1)), h') := by
  generalize hd : h.device = d at hg
  -- one call after the other; each uses up one poll
  induction hg generalizing h left seen with
  | @here d d' b hr =>
    subst hd
    have hlen : b.length ≤ frameSize := Device.length_le_of_receive (by rw [hr])
    have hcall := h.receive_of_ok b (by rw [hr])
    rw [hr] at hcall
    obtain ⟨polls, rfl⟩ : ∃ polls, left = polls + 1 := ⟨left - 1, by omega⟩
    obtain ⟨x, rest, rfl⟩ := List.exists_cons_of_ne_nil hb
    refine ⟨{ h with device := d' }.holding (x :: rest), ⟨Frame.holds_write _ hlen, rfl⟩, ?_⟩
    have hcount : budget - polls = budget - (polls + 1) + (0 + 1) := by omega
    rw [waitLoop, hcall]
    dsimp only
    rw [ha, hcount]
  | @later n d d₁ d' x b hr hx _ ih =>
    subst hd
    have hcall := h.receive_of_ok x (by rw [hr])
    rw [hr] at hcall
    obtain ⟨polls, rfl⟩ : ∃ polls, left = polls + 1 := ⟨left - 1, by omega⟩
    have hcount : budget - polls + (n + 1) = budget - (polls + 1) + (n + 1 + 1) := by omega
    rcases x with - | ⟨y, rest⟩
    · obtain ⟨h', hawaited, hloop⟩ := ih ({ h with device := d₁ }.holding []) seen ha hb
        (by omega : n < polls) (by omega) rfl
      refine ⟨h', ⟨hawaited.holds, hawaited.eq⟩, ?_⟩
      rw [waitLoop, hcall]
      dsimp only
      rw [hloop, hcount]
    · have hskip : accept? (y :: rest) = none := hx.resolve_left (List.cons_ne_nil y rest)
      obtain ⟨h', hawaited, hloop⟩ := ih
        (({ h with device := d₁ }.holding (y :: rest)).note .unmatched) true ha hb
        (by omega : n < polls) (by omega) rfl
      refine ⟨h', ⟨hawaited.holds, hawaited.eq⟩, ?_⟩
      rw [waitLoop, hcall]
      dsimp only
      rw [hskip]
      dsimp only
      rw [hloop, hcount]

/-- The frame is accepted on the poll that it arrives on. -/
lemma waitFor_of_gives {h : Host δ}
    (hg : Device.Gives (fun x => accept? x = none) n h.device b d') (ha : accept? b = some a)
    (hb : b ≠ []) (hn : n < budget) : ∃ h',
    Awaited h h' b d' ∧ waitFor budget accept? h = (.ok (a, n + 1), h') := by
  obtain ⟨h', hawaited, hloop⟩ :=
    waitLoop_of_gives h false hg ha hb hn (Nat.le_refl budget)
  rw [Nat.sub_self, Nat.zero_add] at hloop
  exact ⟨h', hawaited, hloop⟩

end Host

end PacketHost
