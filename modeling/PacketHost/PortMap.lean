/-!
Finite maps from port numbers, kept in ascending order of the ports.

The order is part of the type. So a map has one listing only, and `get?_insert` says all there is to
say about what is in it.
-/

namespace PacketHost

structure PortMap (α : Type) where
  entries : List (UInt16 × α)
  ascending : entries.Pairwise fun x y => x.1 < y.1

namespace PortMap

variable {α : Type}

def empty : PortMap α := ⟨[], .nil⟩

def insertEntry (port : UInt16) (a : α) : List (UInt16 × α) → List (UInt16 × α)
  | [] => [(port, a)]
  | e :: es =>
    if port < e.1 then (port, a) :: e :: es
    else if port = e.1 then (port, a) :: es
    else e :: insertEntry port a es

theorem mem_insertEntry {port : UInt16} {a : α} {es : List (UInt16 × α)} {x : UInt16 × α}
    (h : x ∈ insertEntry port a es) : x = (port, a) ∨ x ∈ es := by
  induction es with
  | nil => simpa [insertEntry] using h
  | cons e es ih =>
    unfold insertEntry at h
    split at h
    · simpa using h
    · split at h
      · rcases List.mem_cons.1 h with h | h
        · exact .inl h
        · exact .inr (by simp [h])
      · rcases List.mem_cons.1 h with h | h
        · exact .inr (by simp [h])
        · rcases ih h with h | h
          · exact .inl h
          · exact .inr (by simp [h])

theorem ascending_insertEntry (port : UInt16) (a : α) {es : List (UInt16 × α)}
    (h : es.Pairwise fun x y => x.1 < y.1) :
    (insertEntry port a es).Pairwise fun x y => x.1 < y.1 := by
  induction es with
  | nil => simp [insertEntry]
  | cons e es ih =>
    obtain ⟨he, hes⟩ := List.pairwise_cons.1 h
    unfold insertEntry
    split
    next hlt =>
      refine List.pairwise_cons.2 ⟨fun x hx => ?_, h⟩
      rcases List.mem_cons.1 hx with rfl | hx
      · exact hlt
      · exact UInt16.lt_trans hlt (he x hx)
    next hnlt =>
      split
      next heq => exact List.pairwise_cons.2 ⟨fun x hx => heq ▸ he x hx, hes⟩
      next hne =>
        refine List.pairwise_cons.2 ⟨fun x hx => ?_, ih hes⟩
        rcases mem_insertEntry hx with rfl | hx
        · exact UInt16.lt_of_le_of_ne (UInt16.not_lt.1 hnlt) (Ne.symm hne)
        · exact he x hx

/-- Replaces what the port had before. -/
def insert (m : PortMap α) (port : UInt16) (a : α) : PortMap α :=
  ⟨insertEntry port a m.entries, ascending_insertEntry port a m.ascending⟩

def get? (m : PortMap α) (port : UInt16) : Option α := m.entries.lookup port

def ports (m : PortMap α) : List UInt16 := m.entries.map (·.1)

theorem lookup_cons_eq (q : UInt16) (e : UInt16 × α) (es : List (UInt16 × α)) :
    (e :: es).lookup q = if q = e.1 then some e.2 else es.lookup q := by
  obtain ⟨p, a⟩ := e
  rw [List.lookup_cons]
  by_cases h : q = p
  · simp [h]
  · simp [h, beq_eq_false_iff_ne.2 h]

@[simp] theorem get?_empty (port : UInt16) : (empty : PortMap α).get? port = none := rfl

theorem get?_insert (m : PortMap α) (port : UInt16) (a : α) (q : UInt16) :
    (m.insert port a).get? q = if q = port then some a else m.get? q := by
  obtain ⟨es, hes⟩ := m
  simp only [insert, get?]
  clear hes
  induction es with
  | nil => rw [insertEntry, lookup_cons_eq]
  | cons e es ih =>
    unfold insertEntry
    split
    · rw [lookup_cons_eq]
    · split
      next heq =>
        rw [lookup_cons_eq, lookup_cons_eq, ← heq]
        split <;> rfl
      next hne =>
        rw [lookup_cons_eq, lookup_cons_eq, ih]
        by_cases h : q = port
        · rw [if_neg (h ▸ hne), if_pos h, if_pos h]
        · rw [if_neg h, if_neg h]

end PortMap

end PacketHost
