/-!
Lists cut at a separator, and put together again.

Cutting always gives at least one field, and the two functions undo each other
(`joined_fields`, `fields_joined`). Address texts are cut at a character, domain names at a byte.
-/

namespace PacketHost

namespace Separated

variable {α : Type}

def fields [DecidableEq α] (sep : α) : List α → List (List α)
  | [] => [[]]
  | x :: xs =>
    if x = sep then [] :: fields sep xs
    else
      match fields sep xs with
      | [] => [[x]]
      | f :: fs => (x :: f) :: fs

def joined (sep : α) : List (List α) → List α
  | [] => []
  | [f] => f
  | f :: g :: fs => f ++ sep :: joined sep (g :: fs)

theorem joined_cons {sep : α} {f : List α} {fs : List (List α)} (h : fs ≠ []) :
    joined sep (f :: fs) = f ++ sep :: joined sep fs := by
  cases fs with
  | nil => exact absurd rfl h
  | cons g fs => rfl

theorem joined_cons_cons (sep x : α) (f : List α) (fs : List (List α)) :
    joined sep ((x :: f) :: fs) = x :: joined sep (f :: fs) := by
  cases fs <;> rfl

variable [DecidableEq α]

theorem fields_ne_nil (sep : α) (xs : List α) : fields sep xs ≠ [] := by
  cases xs with
  | nil => simp [fields]
  | cons x xs =>
    unfold fields
    split
    · simp
    · split <;> simp

theorem joined_fields (sep : α) (xs : List α) : joined sep (fields sep xs) = xs := by
  induction xs with
  | nil => rfl
  | cons x xs ih =>
    unfold fields
    split
    next h => rw [joined_cons (fields_ne_nil sep xs), ih, h, List.nil_append]
    · split
      next h => exact absurd h (fields_ne_nil sep xs)
      next f fs h => rw [joined_cons_cons, ← h, ih]

theorem not_mem_of_mem_fields {sep : α} {xs f : List α} (h : f ∈ fields sep xs) : sep ∉ f := by
  induction xs generalizing f with
  | nil => simp_all [fields]
  | cons x xs ih =>
    unfold fields at h
    split at h
    · rcases List.mem_cons.1 h with rfl | h
      · simp
      · exact ih h
    next hx =>
      split at h
      next hnil => exact absurd hnil (fields_ne_nil sep xs)
      next g gs hg =>
        rcases List.mem_cons.1 h with rfl | h
        · have := ih (f := g) (by simp [hg])
          simp [this, Ne.symm hx]
        · exact ih (by simp [hg, h])

theorem fields_append {sep : α} {f : List α} (hf : sep ∉ f) (xs : List α) :
    fields sep (f ++ sep :: xs) = f :: fields sep xs := by
  induction f with
  | nil => simp [fields]
  | cons x f ih =>
    simp only [List.mem_cons, not_or] at hf
    rw [List.cons_append, fields, if_neg (Ne.symm hf.1), ih hf.2]

theorem fields_of_not_mem {sep : α} {f : List α} (hf : sep ∉ f) : fields sep f = [f] := by
  induction f with
  | nil => rfl
  | cons x f ih =>
    simp only [List.mem_cons, not_or] at hf
    rw [fields, if_neg (Ne.symm hf.1), ih hf.2]

theorem fields_joined {sep : α} {fs : List (List α)} (hne : fs ≠ []) (h : ∀ f ∈ fs, sep ∉ f) :
    fields sep (joined sep fs) = fs := by
  induction fs with
  | nil => exact absurd rfl hne
  | cons f fs ih =>
    have hf := h f (by simp)
    cases fs with
    | nil => exact fields_of_not_mem hf
    | cons g gs =>
      rw [joined_cons (by simp), fields_append hf, ih (by simp) fun x hx => h x (by simp [hx])]

end Separated

end PacketHost
