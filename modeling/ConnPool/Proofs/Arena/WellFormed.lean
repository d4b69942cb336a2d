/-
  ConnPool.Proofs.Arena.WellFormed

  An arena keeps the same facts four times over: in the slots, in their
  generations, in the stack of vacant slots and in the size.  `WellFormed`
  says how these agree; every operation keeps it.

  Ids have 32 bits for a slot, so an arena is only `Addressable` up to 2 ^ 32
  slots.  Within that bound `insert` answers an id that meant nothing before,
  and the entries list each id that resolves once.
-/

import Mathlib.Algebra.GroupWithZero.Nat
import ConnPool.Proofs.Arena.Entries

namespace ConnPool
namespace Arena

variable {α : Type}

/-- The stack of vacant slots lists exactly these, each once, and the size
    counts the values held. -/
structure WellFormed (a : Arena α) : Prop where
  nodup_vacant : a.vacant.Nodup
  mem_vacant : ∀ index : UInt32,
    index ∈ a.vacant ↔ ∃ generation, a.slots[index.toNat]? = some ⟨generation, none⟩
  size_eq : a.size = a.entries.length

/-- Every slot has an index of its own. -/
def Addressable (a : Arena α) : Prop :=
  a.slots.length ≤ 2 ^ 32

theorem WellFormed.empty : (empty : Arena α).WellFormed where
  nodup_vacant := List.nodup_nil
  mem_vacant index := by simp [Arena.empty]
  size_eq := rfl

/-! ## Putting a value in -/

/-- What `insert` does when a slot is vacant. -/
theorem insert_of_vacant {a : Arena α} (hw : a.WellFormed) {index : UInt32} {rest : List UInt32}
    (hv : a.vacant = index :: rest) :
    ∃ generation, a.slots[index.toNat]? = some ⟨generation, none⟩ ∧ ∀ value,
      a.insert value = (⟨index, generation⟩,
        { slots := a.slots.set index.toNat ⟨generation, some value⟩
          vacant := rest
          size := a.size + 1 }) := by
  obtain ⟨generation, hslot⟩ := (hw.mem_vacant index).1 (hv ▸ List.mem_cons_self)
  refine ⟨generation, hslot, fun value => ?_⟩
  simp only [insert, hv, hslot, Option.map_some, Option.getD_some]

/-- What `insert` does when no slot is vacant. -/
theorem insert_of_full {a : Arena α} (hv : a.vacant = []) (value : α) :
    a.insert value = (⟨UInt32.ofNat a.slots.length, 0⟩,
      { a with slots := a.slots ++ [⟨0, some value⟩], size := a.size + 1 }) := by
  simp only [insert, hv]

/-- `insert` adds exactly the entry of the new value. -/
theorem entries_insert_perm {a : Arena α} (hw : a.WellFormed) (value : α) :
    (a.insert value).2.entries.Perm (((a.insert value).1, value) :: a.entries) := by
  cases hv : a.vacant with
  | nil =>
      rw [insert_of_full hv]
      simp only [entries_eq_rowEntries, rowEntries_append, rowEntries_cons, Nat.zero_add]
      exact List.perm_append_comm
  | cons index rest =>
      -- the row is the same before and behind the slot that is filled
      obtain ⟨generation, hslot, hins⟩ := insert_of_vacant hw hv
      obtain ⟨front, back, hself, hset⟩ := rowEntries_of_slot hslot
      have hentry := slotEntry_of_id ⟨index, generation⟩ value
      rw [hins, entries_eq_rowEntries, entries_eq_rowEntries, hself, hset, hentry]
      simp only [slotEntry, Option.map_none, Option.toList_none, Option.toList_some,
        List.append_nil, List.append_assoc]
      exact List.perm_middle

theorem WellFormed.insert {a : Arena α} (hw : a.WellFormed) (value : α) :
    (a.insert value).2.WellFormed := by
  have hsize : (a.insert value).2.size = (a.insert value).2.entries.length := by
    rw [(entries_insert_perm hw value).length_eq, List.length_cons, ← hw.size_eq]
    simp only [Arena.insert]
    split <;> rfl
  cases hv : a.vacant with
  | nil =>
      rw [insert_of_full hv] at hsize ⊢
      refine ⟨hv ▸ List.nodup_nil, fun index => ?_, hsize⟩
      -- the stack stays empty, and the new slot holds a value
      have hold := hw.mem_vacant index
      simp only [hv, List.not_mem_nil, false_iff, not_exists] at hold ⊢
      intro generation hslot
      rw [List.getElem?_append] at hslot
      split at hslot
      · exact hold generation hslot
      · simp only [List.getElem?_singleton] at hslot
        split at hslot
        · simp only [Option.some.injEq, Slot.mk.injEq, reduceCtorEq, and_false] at hslot
        · exact absurd hslot (by simp)
  | cons head rest =>
      obtain ⟨generation, hslot, hins⟩ := insert_of_vacant hw hv
      rw [hins] at hsize ⊢
      have hnodup := hw.nodup_vacant
      rw [hv, List.nodup_cons] at hnodup
      have hlt := (List.getElem?_eq_some_iff.1 hslot).1
      -- the slot at the top of the stack is filled, and no other one changes
      refine ⟨hnodup.2, fun index => ?_, hsize⟩
      have hold := hw.mem_vacant index
      rw [hv, List.mem_cons] at hold
      by_cases hi : index = head
      · subst hi
        simp only [hnodup.1, false_iff, not_exists, List.getElem?_set_self hlt]
        intro g hg
        simp only [Option.some.injEq, Slot.mk.injEq, reduceCtorEq, and_false] at hg
      · have hne : head.toNat ≠ index.toNat := fun he => hi (UInt32.toNat_inj.1 he).symm
        rw [List.getElem?_set_ne hne, ← hold]
        simp only [hi, false_or]

/-- A new slot that leaves the arena addressable has an index of its own. -/
theorem toNat_ofNat_length {a : Arena α} {slot : Slot α}
    (ha : (a.slots ++ [slot]).length ≤ 2 ^ 32) :
    (UInt32.ofNat a.slots.length).toNat = a.slots.length := by
  rw [List.length_append, List.length_singleton] at ha
  exact UInt32.toNat_ofNat_of_lt' ha

/-- In an addressable arena the id that `insert` answers is stale. -/
theorem get?_fst_insert {a : Arena α} (hw : a.WellFormed) {value : α}
    (ha : (a.insert value).2.Addressable) : a.get? (a.insert value).1 = none := by
  cases hv : a.vacant with
  | nil =>
      rw [insert_of_full hv] at ha ⊢
      simp only [get?, toNat_ofNat_length ha, List.getElem?_eq_none (Nat.le_refl _)]
  | cons index rest =>
      obtain ⟨generation, hslot, hins⟩ := insert_of_vacant hw hv
      rw [hins, get?_of_slot hslot, if_pos rfl]

/-- A new slot at the end of the row answers to its first id and to no other. -/
theorem get?_push {a b : Arena α} {value : α} (hb : b.slots = a.slots ++ [⟨0, some value⟩])
    (ha : b.Addressable) (other : ConnId) :
    b.get? other =
      if other = ⟨UInt32.ofNat a.slots.length, 0⟩ then some value else a.get? other := by
  rw [Addressable, hb] at ha
  have hnat := toNat_ofNat_length ha
  by_cases hlt : other.index.toNat < a.slots.length
  · -- an old slot
    have hne : other ≠ ⟨UInt32.ofNat a.slots.length, 0⟩ := by
      rintro rfl
      exact absurd hnat (Nat.ne_of_lt hlt)
    rw [if_neg hne]
    simp only [get?, hb, List.getElem?_append_left hlt]
  · have hold : a.get? other = none := by
      simp only [get?, List.getElem?_eq_none (Nat.not_lt.1 hlt)]
    rw [hold]
    by_cases hi : other.index.toNat = a.slots.length
    · -- the new slot, of generation 0
      have hslot : b.slots[other.index.toNat]? = some ⟨0, some value⟩ := by
        rw [hb, hi, List.getElem?_concat_length]
      rw [get?_of_slot hslot]
      by_cases hg : 0 = other.generation
      · rw [if_pos hg, if_pos (eq_of_index_of_generation (hi.trans hnat.symm) hg.symm)]
      · have hne : other ≠ ⟨UInt32.ofNat a.slots.length, 0⟩ := by
          rintro rfl
          exact hg rfl
        rw [if_neg hg, if_neg hne]
    · -- beyond the row
      have hne : other ≠ ⟨UInt32.ofNat a.slots.length, 0⟩ := fun he => hi (he ▸ hnat)
      have hlen : b.slots.length ≤ other.index.toNat := by
        rw [hb, List.length_append, List.length_singleton]
        omega
      rw [if_neg hne]
      simp only [get?, List.getElem?_eq_none hlen]

/-- A vacant slot that is filled answers to its present id and to no other. -/
theorem get?_fill {a b : Arena α} {value : α} {index : UInt32} {generation : UInt32}
    (hslot : a.slots[index.toNat]? = some ⟨generation, none⟩)
    (hb : b.slots = a.slots.set index.toNat ⟨generation, some value⟩) (other : ConnId) :
    b.get? other = if other = ⟨index, generation⟩ then some value else a.get? other := by
  have hlt := (List.getElem?_eq_some_iff.1 hslot).1
  by_cases hi : other.index = index
  · have hi' : other.index.toNat = index.toNat := congrArg UInt32.toNat hi
    have hold : a.slots[other.index.toNat]? = some ⟨generation, none⟩ := hi' ▸ hslot
    have hnew : b.slots[other.index.toNat]? = some ⟨generation, some value⟩ := by
      rw [hb, hi', List.getElem?_set_self hlt]
    rw [get?_of_slot hnew, get?_of_slot hold]
    by_cases hg : generation = other.generation
    · rw [if_pos hg, if_pos (eq_of_index_of_generation hi' hg.symm)]
    · have hne : other ≠ ⟨index, generation⟩ := by
        rintro rfl
        exact hg rfl
      rw [if_neg hg, if_neg hne, if_neg hg]
  · have hni : index.toNat ≠ other.index.toNat := fun he => hi (UInt32.toNat_inj.1 he).symm
    have hne : other ≠ ⟨index, generation⟩ := by
      rintro rfl
      exact hi rfl
    rw [if_neg hne]
    simp only [get?, hb, List.getElem?_set_ne hni]

/-- `insert` puts the value under its id and changes nothing else. -/
theorem get?_insert {a : Arena α} (hw : a.WellFormed) {value : α}
    (ha : (a.insert value).2.Addressable) (other : ConnId) :
    (a.insert value).2.get? other =
      if other = (a.insert value).1 then some value else a.get? other := by
  cases hv : a.vacant with
  | nil =>
      rw [insert_of_full hv] at ha ⊢
      exact get?_push rfl ha other
  | cons index rest =>
      obtain ⟨generation, hslot, hins⟩ := insert_of_vacant hw hv
      rw [hins]
      exact get?_fill hslot rfl other

/-! ## Taking a value out, changing one -/

/-- What `remove` does to the arena of an id that resolves. -/
theorem snd_remove {a : Arena α} {id : ConnId} {value : α} (h : a.get? id = some value) :
    (a.remove id).2 =
      { slots := a.slots.set id.index.toNat ⟨id.generation + 1, none⟩
        vacant := id.index :: a.vacant
        size := a.size - 1 } := by
  simp only [remove, h]

/-- What `modify` does to the arena of an id that resolves. -/
theorem modify_of_get? {a : Arena α} {id : ConnId} {value : α} (h : a.get? id = some value)
    (f : α → α) :
    a.modify id f =
      { a with slots := a.slots.set id.index.toNat ⟨id.generation, some (f value)⟩ } := by
  simp only [modify, h]

/-- Which slots are vacant after the slot of an id that resolves is written. -/
theorem vacant_set {a : Arena α} {id : ConnId} {value : α} (hw : a.WellFormed)
    (h : a.get? id = some value) (slot : Slot α) (index : UInt32) :
    (∃ generation, (a.slots.set id.index.toNat slot)[index.toNat]? = some ⟨generation, none⟩) ↔
      (index = id.index ∧ slot.value = none) ∨ (index ≠ id.index ∧ index ∈ a.vacant) := by
  have hlt := (List.getElem?_eq_some_iff.1 (getElem?_of_get?_eq_some h)).1
  by_cases hi : index = id.index
  · subst hi
    obtain ⟨generation, held⟩ := slot
    simp [List.getElem?_set_self hlt]
  · have hne : id.index.toNat ≠ index.toNat := fun he => hi (UInt32.toNat_inj.1 he).symm
    simp only [List.getElem?_set_ne hne, hi, false_and, false_or, ne_eq, not_false_eq_true,
      true_and, hw.mem_vacant]

/-- The slot of an id that resolves is not vacant. -/
theorem index_not_mem_vacant {a : Arena α} {id : ConnId} {value : α} (hw : a.WellFormed)
    (h : a.get? id = some value) : id.index ∉ a.vacant := by
  rw [hw.mem_vacant, getElem?_of_get?_eq_some h]
  rintro ⟨generation, hslot⟩
  simp only [Option.some.injEq, Slot.mk.injEq, reduceCtorEq, and_false] at hslot

theorem WellFormed.remove {a : Arena α} (hw : a.WellFormed) (id : ConnId) :
    (a.remove id).2.WellFormed := by
  cases h : a.get? id with
  | none => rwa [remove_of_get?_eq_none h]
  | some value =>
      have hperm := (entries_remove_perm h).length_eq
      have hsize : (a.remove id).2.size = (a.remove id).2.entries.length := by
        rw [List.length_cons, ← hw.size_eq] at hperm
        rw [snd_remove h] at hperm ⊢
        simp only at hperm ⊢
        omega
      have hnot := index_not_mem_vacant hw h
      rw [snd_remove h] at hsize ⊢
      refine ⟨List.nodup_cons.2 ⟨hnot, hw.nodup_vacant⟩, fun index => ?_, hsize⟩
      rw [vacant_set hw h, List.mem_cons]
      by_cases hi : index = id.index <;> simp [hi]

theorem WellFormed.modify {a : Arena α} (hw : a.WellFormed) (id : ConnId) (f : α → α) :
    (a.modify id f).WellFormed := by
  cases h : a.get? id with
  | none => rwa [modify_of_get?_eq_none h]
  | some value =>
      obtain ⟨front, back, hself, hset⟩ := entries_modify h f
      have hsize : (a.modify id f).size = (a.modify id f).entries.length := by
        have hold := hw.size_eq
        rw [hself] at hold
        rw [hset, modify_of_get? h]
        simpa using hold
      have hnot := index_not_mem_vacant hw h
      rw [modify_of_get? h] at hsize ⊢
      refine ⟨hw.nodup_vacant, fun index => ?_, hsize⟩
      rw [vacant_set hw h]
      by_cases hi : index = id.index
      · simp [hi, hnot]
      · simp [hi]

/-! ## Changes in a row -/

/-- Two changes of one value are one change. -/
theorem modify_modify (a : Arena α) (id : ConnId) (f g : α → α) :
    (a.modify id f).modify id g = a.modify id fun value => g (f value) := by
  cases h : a.get? id with
  | none => rw [modify_of_get?_eq_none h, modify_of_get?_eq_none h, modify_of_get?_eq_none h]
  | some value =>
      have h' : (a.modify id f).get? id = some (f value) := by
        rw [get?_modify, if_pos rfl, h]
        rfl
      rw [modify_of_get? h', modify_of_get? h, modify_of_get? h]
      simp only [List.set_set]

/-- Only what a change does to the value of its id matters. -/
theorem modify_congr {a : Arena α} {id : ConnId} {f g : α → α}
    (h : ∀ value, a.get? id = some value → f value = g value) : a.modify id f = a.modify id g := by
  cases hget : a.get? id with
  | none => rw [modify_of_get?_eq_none hget, modify_of_get?_eq_none hget]
  | some value => rw [modify_of_get? hget, modify_of_get? hget, h value hget]

/-- A value that is taken out need not be changed before. -/
theorem remove_modify (a : Arena α) (id : ConnId) (f : α → α) :
    ((a.modify id f).remove id).2 = (a.remove id).2 := by
  cases h : a.get? id with
  | none => rw [modify_of_get?_eq_none h]
  | some value =>
      have h' : (a.modify id f).get? id = some (f value) := by
        rw [get?_modify, if_pos rfl, h]
        rfl
      rw [snd_remove h', snd_remove h, modify_of_get? h]
      simp only [List.set_set]

/-- A value that is changed right after it was put in could have been put in
    changed. -/
theorem modify_insert {a : Arena α} (hw : a.WellFormed) {value : α}
    (ha : (a.insert value).2.Addressable) (f : α → α) :
    (a.insert value).2.modify (a.insert value).1 f = (a.insert (f value)).2 := by
  have hget : (a.insert value).2.get? (a.insert value).1 = some value := by
    rw [get?_insert hw ha, if_pos rfl]
  rw [modify_of_get? hget]
  cases hv : a.vacant with
  | nil =>
      rw [insert_of_full hv] at ha
      rw [insert_of_full hv, insert_of_full hv]
      simp only [toNat_ofNat_length ha, List.set_append_right _ _ (Nat.le_refl _), Nat.sub_self,
        List.set_cons_zero]
  | cons index rest =>
      obtain ⟨generation, hslot, hins⟩ := insert_of_vacant hw hv
      rw [hins, hins]
      simp only [List.set_set]

/-- The id that `insert` answers does not depend on the value. -/
theorem fst_insert (a : Arena α) (value value' : α) : (a.insert value).1 = (a.insert value').1 := by
  simp only [insert]
  split <;> rfl

/-! ## The number of slots -/

@[simp] theorem length_slots_modify (a : Arena α) (id : ConnId) (f : α → α) :
    (a.modify id f).slots.length = a.slots.length := by
  simp only [modify]
  split <;> simp only [List.length_set]

@[simp] theorem length_slots_remove (a : Arena α) (id : ConnId) :
    (a.remove id).2.slots.length = a.slots.length := by
  simp only [remove]
  split <;> simp only [List.length_set]

theorem length_slots_le_insert (a : Arena α) (value : α) :
    a.slots.length ≤ (a.insert value).2.slots.length := by
  simp only [insert]
  split <;> simp

/-- How many slots there are after a value is put in does not depend on the
    value. -/
theorem length_slots_insert_congr (a : Arena α) (value value' : α) :
    (a.insert value).2.slots.length = (a.insert value').2.slots.length := by
  simp only [insert]
  split <;> simp

/-- Whether the arena can still be addressed does not depend on the value. -/
theorem Addressable.insert_congr {a : Arena α} {value value' : α}
    (ha : (a.insert value).2.Addressable) : (a.insert value').2.Addressable := by
  rw [Addressable, length_slots_insert_congr a value' value]
  exact ha

/-! ## Listing the values -/

/-- An addressable arena lists under each id what the id stands for. -/
theorem mem_entries {a : Arena α} (ha : a.Addressable) {id : ConnId} {value : α} :
    (id, value) ∈ a.entries ↔ a.get? id = some value := by
  rw [entries_eq_rowEntries, rowEntries, List.mem_filterMap]
  constructor
  · rintro ⟨⟨slot, i⟩, hmem, hentry⟩
    have hslot : a.slots[i]? = some slot := List.mem_zipIdx_iff_getElem?.1 hmem
    have hi : i < a.slots.length := (List.getElem?_eq_some_iff.1 hslot).1
    obtain ⟨held, hheld, heq⟩ := Option.map_eq_some_iff.1 hentry
    obtain ⟨rfl, rfl⟩ := Prod.mk.inj heq
    have hnat : (UInt32.ofNat i).toNat = i := UInt32.toNat_ofNat_of_lt' (Nat.lt_of_lt_of_le hi ha)
    rw [get?_of_slot (by rw [hnat, hslot]), if_pos rfl, hheld]
  · intro h
    have hslot := getElem?_of_get?_eq_some h
    exact ⟨(_, id.index.toNat), List.mem_zipIdx_iff_getElem?.2 hslot, slotEntry_of_id id value⟩

/-- The ids listed are those that resolve. -/
theorem mem_ids {a : Arena α} (ha : a.Addressable) {id : ConnId} :
    id ∈ a.ids ↔ (a.get? id).isSome := by
  rw [ids, List.mem_map, Option.isSome_iff_exists]
  constructor
  · rintro ⟨⟨other, value⟩, hmem, rfl⟩
    exact ⟨value, (mem_entries ha).1 hmem⟩
  · rintro ⟨value, h⟩
    exact ⟨(id, value), (mem_entries ha).2 h, rfl⟩

/-- The ids listed go up in slot order. -/
theorem pairwise_ids {a : Arena α} (ha : a.Addressable) :
    a.ids.Pairwise (fun x y => x.index.toNat < y.index.toNat) := by
  rw [ids, List.pairwise_map, entries_eq_rowEntries, rowEntries, List.pairwise_filterMap]
  have hrange : (a.slots.zipIdx 0).Pairwise (fun x y => x.2 < y.2) := by
    rw [← List.pairwise_map (f := Prod.snd), List.zipIdx_map_snd]
    exact List.pairwise_lt_range'
  refine hrange.imp_of_mem fun {x y} hx hy hlt e he e' he' => ?_
  obtain ⟨_, -, rfl⟩ := Option.map_eq_some_iff.1 he
  obtain ⟨_, -, rfl⟩ := Option.map_eq_some_iff.1 he'
  have bound : ∀ z ∈ a.slots.zipIdx 0, (UInt32.ofNat z.2).toNat = z.2 := fun z hz =>
    UInt32.toNat_ofNat_of_lt' (Nat.lt_of_lt_of_le
      (List.getElem?_eq_some_iff.1 (List.mem_zipIdx_iff_getElem?.1 hz)).1 ha)
  rw [bound x hx, bound y hy]
  exact hlt

theorem nodup_ids {a : Arena α} (ha : a.Addressable) : a.ids.Nodup :=
  (pairwise_ids ha).imp fun {_ _} hlt he => absurd (he ▸ hlt) (Nat.lt_irrefl _)

/-- Where nothing new resolves, the ids that still do are listed in the order
    that they had. -/
theorem ids_eq_filter {a b : Arena α} (ha : a.Addressable) (hb : b.Addressable)
    (h : ∀ id, (b.get? id).isSome → (a.get? id).isSome) :
    b.ids = a.ids.filter fun id => (b.get? id).isSome := by
  have hperm : b.ids.Perm (a.ids.filter fun id => (b.get? id).isSome) := by
    refine (List.perm_ext_iff_of_nodup (nodup_ids hb) ((nodup_ids ha).filter _)).2 fun id => ?_
    rw [mem_ids hb, List.mem_filter, mem_ids ha]
    exact ⟨fun hlive => ⟨h id hlive, hlive⟩, And.right⟩
  -- both lists go up in slot order
  refine hperm.eq_of_pairwise ?_ (pairwise_ids hb) ((pairwise_ids ha).filter _)
  intro x y _ _ hxy hyx
  exact absurd hxy (Nat.lt_asymm hyx)

/-- The size is the number of ids that resolve. -/
theorem WellFormed.size_eq_length_ids {a : Arena α} (hw : a.WellFormed) :
    a.size = a.ids.length := by
  rw [hw.size_eq, ids, List.length_map]

end Arena
end ConnPool
