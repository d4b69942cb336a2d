/-
  ConnPool.Arena

  A store of values addressed by generational ids.

  The arena is a row of slots that never shrinks.  A slot holds at most one
  value and counts, in its generation, how often a value has been removed from
  it; a vacated slot goes on top of a stack and is the first to be used again.
  `get?` answers only to the id whose generation is the slot's present one.

  `get?` is the view: `get?_modify` and `get?_remove` say what these do to it.
  `entries` lists it: the values in slot order, each under its id.
-/

import ConnPool.Conn.Id

namespace ConnPool

/-- One place of an arena. -/
structure Slot (α : Type) where
  generation : UInt32
  value : Option α

/-- Values under generational ids.  `vacant` is a stack of vacated slots, and
    `size` counts the values held. -/
structure Arena (α : Type) where
  slots : List (Slot α) := []
  vacant : List UInt32 := []
  size : Nat := 0

namespace Arena

variable {α : Type}

/-- The arena without slots. -/
def empty : Arena α := {}

/-- The value under `id`, if the id is not stale. -/
def get? (a : Arena α) (id : ConnId) : Option α :=
  match a.slots[id.index.toNat]? with
  | some slot => if slot.generation = id.generation then slot.value else none
  | none => none

/-- Whether `id` resolves. -/
def contains (a : Arena α) (id : ConnId) : Bool :=
  (a.get? id).isSome

/-- Puts `value` into the slot vacated last, or into a new slot if none is
    vacant, and answers the id under which it is found. -/
def insert (a : Arena α) (value : α) : ConnId × Arena α :=
  match a.vacant with
  | index :: vacant =>
    let generation := (a.slots[index.toNat]?.map Slot.generation).getD 0
    (⟨index, generation⟩,
      { slots := a.slots.set index.toNat ⟨generation, some value⟩
        vacant := vacant
        size := a.size + 1 })
  | [] =>
    (⟨UInt32.ofNat a.slots.length, 0⟩,
      { a with slots := a.slots ++ [⟨0, some value⟩], size := a.size + 1 })

/-- Takes the value under `id` out, if the id resolves.  The slot's generation
    advances, so the id is stale from here on. -/
def remove (a : Arena α) (id : ConnId) : Option α × Arena α :=
  match a.get? id with
  | some value =>
    (some value,
      { slots := a.slots.set id.index.toNat ⟨id.generation + 1, none⟩
        vacant := id.index :: a.vacant
        size := a.size - 1 })
  | none => (none, a)

/-- Changes the value under `id` in place; a stale id changes nothing. -/
def modify (a : Arena α) (id : ConnId) (f : α → α) : Arena α :=
  match a.get? id with
  | some value =>
    { a with slots := a.slots.set id.index.toNat ⟨id.generation, some (f value)⟩ }
  | none => a

/-- The values held, each under its id, in slot order. -/
def entries (a : Arena α) : List (ConnId × α) :=
  a.slots.zipIdx.filterMap fun (slot, i) =>
    slot.value.map fun value => (⟨UInt32.ofNat i, slot.generation⟩, value)

/-- The ids that resolve, in slot order. -/
def ids (a : Arena α) : List ConnId :=
  a.entries.map Prod.fst

/-! ## Small laws -/

@[simp] theorem get?_empty (id : ConnId) : (empty : Arena α).get? id = none := by
  simp [get?, empty]

/-- A stale id removes nothing. -/
theorem remove_of_get?_eq_none {a : Arena α} {id : ConnId} (h : a.get? id = none) :
    a.remove id = (none, a) := by
  simp [remove, h]

/-- Removing answers what the id stood for. -/
@[simp] theorem fst_remove (a : Arena α) (id : ConnId) : (a.remove id).1 = a.get? id := by
  unfold remove
  split <;> simp_all

/-- A stale id modifies nothing. -/
theorem modify_of_get?_eq_none {a : Arena α} {id : ConnId} {f : α → α} (h : a.get? id = none) :
    a.modify id f = a := by
  simp [modify, h]

/-! ## What an arena holds afterwards -/

/-- Ids with the same slot differ in their generations only. -/
theorem eq_of_index_of_generation {a b : ConnId} (hi : a.index.toNat = b.index.toNat)
    (hg : a.generation = b.generation) : a = b := by
  obtain ⟨i, g⟩ := a
  obtain ⟨j, h⟩ := b
  simp only [ConnId.mk.injEq]
  exact ⟨UInt32.toNat_inj.1 hi, hg⟩

/-- The slot of an id that resolves. -/
theorem getElem?_of_get?_eq_some {a : Arena α} {id : ConnId} {value : α}
    (h : a.get? id = some value) :
    a.slots[id.index.toNat]? = some ⟨id.generation, some value⟩ := by
  unfold get? at h
  split at h
  · rename_i slot hslot
    split at h
    · rename_i hgen
      obtain ⟨g, v⟩ := slot
      simp_all
    · contradiction
  · contradiction

/-- What an id stands for, by its slot. -/
theorem get?_of_slot {a : Arena α} {id : ConnId} {slot : Slot α}
    (h : a.slots[id.index.toNat]? = some slot) :
    a.get? id = if slot.generation = id.generation then slot.value else none := by
  simp [get?, h]

/-- Putting a new slot in the place of the one of an id that resolves changes
    what ids of that slot stand for, and nothing else. -/
theorem get?_set_slot {a b : Arena α} {id : ConnId} {value : α} {slot : Slot α}
    (h : a.get? id = some value) (hb : b.slots = a.slots.set id.index.toNat slot)
    (other : ConnId) :
    b.get? other =
      if other.index = id.index then
        if slot.generation = other.generation then slot.value else none
      else a.get? other := by
  have hlt : id.index.toNat < a.slots.length :=
    (List.getElem?_eq_some_iff.1 (getElem?_of_get?_eq_some h)).1
  split
  · rename_i hi
    apply get?_of_slot
    rw [hb, hi, List.getElem?_set_self hlt]
  · rename_i hi
    have hne : id.index.toNat ≠ other.index.toNat := fun he => hi (UInt32.toNat_inj.1 he).symm
    simp only [get?, hb, List.getElem?_set_ne hne]

/-- An id of the same slot as one that resolves, but not the same id, does not
    resolve. -/
theorem get?_eq_none_of_index_eq {a : Arena α} {id other : ConnId} {value : α}
    (h : a.get? id = some value) (hi : other.index = id.index) (hne : other ≠ id) :
    a.get? other = none := by
  have hslot := getElem?_of_get?_eq_some h
  rw [← hi] at hslot
  rw [get?_of_slot hslot, if_neg]
  exact fun hg => hne (eq_of_index_of_generation (congrArg UInt32.toNat hi) hg.symm)

/-- `modify` changes the value under its id and no other. -/
theorem get?_modify (a : Arena α) (id other : ConnId) (f : α → α) :
    (a.modify id f).get? other = if other = id then (a.get? id).map f else a.get? other := by
  cases h : a.get? id with
  | none =>
    rw [modify_of_get?_eq_none h]
    by_cases he : other = id <;> simp [he, h]
  | some value =>
    have hslots : (a.modify id f).slots =
        a.slots.set id.index.toNat ⟨id.generation, some (f value)⟩ := by
      simp only [modify, h]
    have hset := get?_set_slot h hslots other
    rw [hset]
    by_cases he : other = id
    · simp [he]
    · by_cases hi : other.index = id.index
      · have hg : id.generation ≠ other.generation := fun hg =>
          he (eq_of_index_of_generation (congrArg UInt32.toNat hi) hg.symm)
        simp [he, hi, hg, get?_eq_none_of_index_eq h hi he]
      · simp [he, hi]

/-- `remove` makes its id stale and leaves all others alone. -/
theorem get?_remove (a : Arena α) (id other : ConnId) :
    (a.remove id).2.get? other = if other = id then none else a.get? other := by
  cases h : a.get? id with
  | none =>
    rw [remove_of_get?_eq_none h]
    by_cases he : other = id <;> simp [he, h]
  | some value =>
    have hslots : (a.remove id).2.slots =
        a.slots.set id.index.toNat ⟨id.generation + 1, none⟩ := by
      simp only [remove, h]
    have hset := get?_set_slot h hslots other
    rw [hset]
    by_cases he : other = id
    · simp [he]
    · by_cases hi : other.index = id.index
      · simp [he, hi, get?_eq_none_of_index_eq h hi he]
      · simp [he, hi]

end Arena

end ConnPool
