/-
  ConnPool.Proofs.Arena.Entries

  What `insert`, `remove` and `modify` do to the entries of an arena.

  Each of them writes one slot, so it replaces the entry of that slot and
  keeps the others where they are.  Up to order, `insert` adds an entry,
  `remove` takes one out and `modify` exchanges one; these permutations are
  what every count over the values of an arena rests on.
-/

import ConnPool.Arena

namespace ConnPool
namespace Arena

variable {α : Type}

/-! ## One slot -/

/-- The entry of the slot at place `i`, if it holds a value. -/
def slotEntry (i : Nat) (slot : Slot α) : Option (ConnId × α) :=
  slot.value.map fun value => (⟨UInt32.ofNat i, slot.generation⟩, value)

/-- The entries of a row of slots, the first of them at place `start`. -/
def rowEntries (start : Nat) (slots : List (Slot α)) : List (ConnId × α) :=
  (slots.zipIdx start).filterMap fun (slot, i) => slotEntry i slot

theorem entries_eq_rowEntries (a : Arena α) : a.entries = rowEntries 0 a.slots := rfl

theorem rowEntries_append (start : Nat) (xs ys : List (Slot α)) :
    rowEntries start (xs ++ ys) = rowEntries start xs ++ rowEntries (start + xs.length) ys := by
  simp only [rowEntries, List.zipIdx_append, List.filterMap_append]

theorem rowEntries_cons (start : Nat) (slot : Slot α) (slots : List (Slot α)) :
    rowEntries start (slot :: slots) =
      (slotEntry start slot).toList ++ rowEntries (start + 1) slots := by
  simp only [rowEntries, List.zipIdx_cons, List.filterMap_cons]
  cases slotEntry start slot <;> rfl

/-- Writing slot `i` changes what stands between the entries of the slots
    before it and the entries of the slots behind it. -/
theorem rowEntries_set {slots : List (Slot α)} {i : Nat} (h : i < slots.length) :
    ∃ front back, ∀ slot, rowEntries 0 (slots.set i slot) =
      front ++ (slotEntry i slot).toList ++ back := by
  refine ⟨rowEntries 0 (slots.take i), rowEntries (i + 1) (slots.drop (i + 1)), fun slot => ?_⟩
  have hlen : (slots.take i).length = i := by
    rw [List.length_take]
    omega
  -- neither the front nor the back depends on the slot that is written
  rw [List.set_eq_take_append_cons_drop, if_pos h, rowEntries_append, rowEntries_cons, hlen,
    Nat.zero_add, List.append_assoc]

/-- The row as it is, seen as written at slot `i` with what is there. -/
theorem rowEntries_of_slot {slots : List (Slot α)} {i : Nat} {old : Slot α}
    (h : slots[i]? = some old) :
    ∃ front back, rowEntries 0 slots = front ++ (slotEntry i old).toList ++ back ∧
      ∀ slot, rowEntries 0 (slots.set i slot) = front ++ (slotEntry i slot).toList ++ back := by
  obtain ⟨hlt, hget⟩ := List.getElem?_eq_some_iff.1 h
  obtain ⟨front, back, hset⟩ := rowEntries_set hlt
  refine ⟨front, back, ?_, hset⟩
  -- the old slot, written again
  have hself := hset old
  rwa [← hget, List.set_getElem_self, hget] at hself

/-- The entry of a slot that holds a value, under the id of that slot. -/
theorem slotEntry_of_id (id : ConnId) (value : α) :
    slotEntry id.index.toNat ⟨id.generation, some value⟩ = some (id, value) := by
  simp only [slotEntry, Option.map_some, UInt32.ofNat_toNat]

/-! ## Entries up to order -/

/-- The slots of an arena after a change of the slot of an id that resolves. -/
theorem entries_of_get?_eq_some {a : Arena α} {id : ConnId} {value : α}
    (h : a.get? id = some value) :
    ∃ front back, a.entries = front ++ [(id, value)] ++ back ∧
      ∀ slot, rowEntries 0 (a.slots.set id.index.toNat slot) =
        front ++ (slotEntry id.index.toNat slot).toList ++ back := by
  obtain ⟨front, back, hself, hset⟩ := rowEntries_of_slot (getElem?_of_get?_eq_some h)
  refine ⟨front, back, ?_, hset⟩
  rw [entries_eq_rowEntries, hself, slotEntry_of_id]
  rfl

/-- `modify` exchanges one entry in place. -/
theorem entries_modify {a : Arena α} {id : ConnId} {value : α} (h : a.get? id = some value)
    (f : α → α) :
    ∃ front back, a.entries = front ++ [(id, value)] ++ back ∧
      (a.modify id f).entries = front ++ [(id, f value)] ++ back := by
  obtain ⟨front, back, hself, hset⟩ := entries_of_get?_eq_some h
  refine ⟨front, back, hself, ?_⟩
  have hslots : (a.modify id f).slots =
      a.slots.set id.index.toNat ⟨id.generation, some (f value)⟩ := by
    simp only [modify, h]
  rw [entries_eq_rowEntries, hslots, hset, slotEntry_of_id]
  rfl

/-- `remove` takes one entry out and keeps the order of the others. -/
theorem entries_remove {a : Arena α} {id : ConnId} {value : α} (h : a.get? id = some value) :
    ∃ front back, a.entries = front ++ [(id, value)] ++ back ∧
      (a.remove id).2.entries = front ++ back := by
  obtain ⟨front, back, hself, hset⟩ := entries_of_get?_eq_some h
  refine ⟨front, back, hself, ?_⟩
  have hslots : (a.remove id).2.slots = a.slots.set id.index.toNat ⟨id.generation + 1, none⟩ := by
    simp only [remove, h]
  rw [entries_eq_rowEntries, hslots, hset]
  simp only [slotEntry, Option.map_none, Option.toList_none, List.append_nil]

/-- `remove` takes exactly the entry of its id. -/
theorem entries_remove_perm {a : Arena α} {id : ConnId} {value : α}
    (h : a.get? id = some value) :
    a.entries.Perm ((id, value) :: (a.remove id).2.entries) := by
  obtain ⟨front, back, hself, hrest⟩ := entries_remove h
  rw [hself, hrest, List.append_assoc]
  exact List.perm_middle

/-- Up to order, `modify` replaces one entry. -/
theorem entries_modify_perm {a : Arena α} {id : ConnId} {value : α} (h : a.get? id = some value)
    (f : α → α) :
    (a.modify id f).entries.Perm ((id, f value) :: (a.remove id).2.entries) := by
  obtain ⟨front, back, hself, hset⟩ := entries_of_get?_eq_some h
  have hslots : (a.modify id f).slots =
      a.slots.set id.index.toNat ⟨id.generation, some (f value)⟩ := by
    simp only [modify, h]
  have hslots' : (a.remove id).2.slots = a.slots.set id.index.toNat ⟨id.generation + 1, none⟩ := by
    simp only [remove, h]
  -- the same front and back for both rows
  rw [entries_eq_rowEntries, entries_eq_rowEntries, hslots, hslots', hset, hset, slotEntry_of_id]
  simp only [slotEntry, Option.map_none, Option.toList_none, Option.toList_some, List.append_nil,
    List.append_assoc]
  exact List.perm_middle

end Arena
end ConnPool
