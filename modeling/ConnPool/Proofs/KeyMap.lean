/-
  ConnPool.Proofs.KeyMap

  The entries of a map against its look-ups, and what `insert` and `modify` do
  to the entries; and `map`, which changes all values and commutes with both.
  The entries determine the map in whatever order they are given
  (`eq_of_entries_perm`).
-/

import ConnPool.KeyMap

namespace ConnPool
namespace KeyMap

variable {α : Type}

/-- The entries are the keys with their values. -/
theorem mem_entries {m : KeyMap α} {key : String} {value : α} :
    (key, value) ∈ m.entries ↔ m.get? key = some value := by
  obtain ⟨entries, hsorted⟩ := m
  simp only [get?]
  induction entries with
  | nil => simp
  | cons head rest ih =>
      obtain ⟨k, v⟩ := head
      obtain ⟨hhead, hrest⟩ := List.pairwise_cons.1 hsorted
      rw [List.mem_cons, ih hrest, List.lookup_cons]
      by_cases hk : key = k
      · subst hk
        -- the keys behind the head are larger, so none of them is `key`
        have hnone : rest.lookup key ≠ some value := fun h =>
          String.lt_irrefl _ (hhead (key, value) ((ih hrest).2 h))
        simp [hnone, eq_comm]
      · simp [hk, beq_false_of_ne hk]

/-- Only what a change does to the value of its key matters. -/
theorem modify_congr {m : KeyMap α} {key : String} {f g : α → α}
    (h : ∀ value, m.get? key = some value → f value = g value) :
    m.modify key f = m.modify key g := by
  obtain ⟨entries, hsorted⟩ := m
  simp only [modify, mk.injEq]
  refine List.map_congr_left fun entry hmem => ?_
  obtain ⟨k, v⟩ := entry
  by_cases hk : k = key
  · subst hk
    have hv := h v (mem_entries.1 hmem)
    simp [hv]
  · simp [hk]

/-- A change that leaves the value of its key as it is changes nothing. -/
theorem modify_eq_self {m : KeyMap α} {key : String} {f : α → α}
    (h : ∀ value, m.get? key = some value → f value = value) : m.modify key f = m := by
  rw [modify_congr (g := id) h]
  simp [modify]

/-- Two changes under one key are one change. -/
theorem modify_modify (m : KeyMap α) (key : String) (f g : α → α) :
    (m.modify key f).modify key g = m.modify key fun value => g (f value) := by
  obtain ⟨entries, hsorted⟩ := m
  simp only [modify, mk.injEq, List.map_map]
  refine List.map_congr_left fun entry _ => ?_
  obtain ⟨k, v⟩ := entry
  by_cases hk : k = key <;> simp [hk]

/-! ## The entries as a listing -/

/-- An entry put under a free key is one more entry. -/
theorem put_perm {key : String} {entries : List (String × α)} (h : entries.lookup key = none)
    (value : α) : (put key value entries).Perm ((key, value) :: entries) := by
  induction entries with
  | nil => exact .refl _
  | cons head rest ih =>
      obtain ⟨k, v⟩ := head
      simp only [put]
      split
      · exact .refl _
      · rename_i hkey
        split
        · rename_i hk
          have hrest : rest.lookup key = none := by
            rwa [List.lookup_cons, beq_false_of_ne (by rintro rfl; exact hkey hk)] at h
          exact ((ih hrest).cons _).trans (.swap _ _ _)
        · rename_i hk
          obtain rfl := eq_of_not_lt hkey hk
          simp at h

/-- An insertion under a free key adds one entry. -/
theorem entries_insert_perm {m : KeyMap α} {key : String} (h : m.get? key = none) (value : α) :
    (m.insert key value).entries.Perm ((key, value) :: m.entries) :=
  put_perm h value

/-- Maps of the same entries are the same. -/
theorem eq_of_entries_perm {m m' : KeyMap α} (h : m.entries.Perm m'.entries) : m = m' := by
  have hentries : m.entries = m'.entries :=
    h.eq_of_pairwise (fun _ _ _ _ hab hba => absurd (String.lt_trans hab hba) (String.lt_irrefl _))
      m.sorted m'.sorted
  cases m
  cases m'
  cases hentries
  rfl

/-- Maps with the same values under their keys are the same. -/
theorem eq_of_get?_iff {m m' : KeyMap α}
    (h : ∀ key value, m.get? key = some value ↔ m'.get? key = some value) : m = m' := by
  have hnodup : ∀ m : KeyMap α, m.entries.Nodup := by
    intro m
    refine m.sorted.imp fun {entry other} hlt heq => ?_
    rw [heq] at hlt
    exact String.lt_irrefl _ hlt
  refine eq_of_entries_perm ((List.perm_ext_iff_of_nodup (hnodup m) (hnodup m')).2 ?_)
  rintro ⟨key, value⟩
  rw [mem_entries, mem_entries]
  exact h key value

/-- The keys and the values stand in the same order. -/
theorem zip_keys_values (m : KeyMap α) : m.keys.zip m.values = m.entries := by
  rw [keys, values]
  simpa using List.zip_unzip m.entries

theorem length_keys_eq_length_values (m : KeyMap α) : m.keys.length = m.values.length := by
  rw [keys, values, List.length_map, List.length_map]

/-! ## Changing all values -/

variable {β : Type}

/-- The map with `f` applied to each value. -/
def map (f : α → β) (m : KeyMap α) : KeyMap β where
  entries := m.entries.map fun (key, value) => (key, f value)
  sorted := List.pairwise_map.2 (m.sorted.imp fun h => h)

variable (f : α → β) (m : KeyMap α) (key : String)

@[simp] theorem get?_map : (m.map f).get? key = (m.get? key).map f := by
  obtain ⟨entries, hsorted⟩ := m
  simp only [get?, map]
  clear hsorted
  induction entries with
  | nil => rfl
  | cons head rest ih =>
      obtain ⟨k, v⟩ := head
      rw [List.map_cons, List.lookup_cons, List.lookup_cons]
      cases key == k with
      | true => rfl
      | false => exact ih

/-- Maps that `f` makes the same have values under the same keys. -/
theorem get?_of_map_eq {f : α → β} {m m' : KeyMap α} (h : m.map f = m'.map f) (key : String) :
    (m.get? key = none ∧ m'.get? key = none) ∨
      ∃ value value', m.get? key = some value ∧ m'.get? key = some value' ∧ f value = f value' := by
  have hget : (m.get? key).map f = (m'.get? key).map f := by
    rw [← get?_map, h, get?_map]
  cases hvalue : m.get? key with
  | none =>
      rw [hvalue] at hget
      exact .inl ⟨rfl, Option.map_eq_none_iff.1 hget.symm⟩
  | some value =>
      rw [hvalue] at hget
      obtain ⟨value', hvalue', heq⟩ := Option.map_eq_some_iff.1 hget.symm
      exact .inr ⟨value, value', rfl, hvalue', heq.symm⟩

theorem put_map (value : α) (entries : List (String × α)) :
    (put key value entries).map (fun (k, v) => (k, f v)) =
      put key (f value) (entries.map fun (k, v) => (k, f v)) := by
  induction entries with
  | nil => rfl
  | cons head rest ih =>
      obtain ⟨k, v⟩ := head
      simp only [put, List.map_cons]
      split
      · rfl
      · split
        · rw [List.map_cons, ih]
        · rfl

theorem map_insert (value : α) : (m.insert key value).map f = (m.map f).insert key (f value) := by
  simp only [map, insert, mk.injEq]
  exact put_map f key value m.entries

/-- Changing a value before or after is the same, if the changes correspond. -/
theorem map_modify {change : α → α} {change' : β → β}
    (h : ∀ value, f (change value) = change' (f value)) :
    (m.modify key change).map f = (m.map f).modify key change' := by
  simp only [map, modify, mk.injEq, List.map_map]
  refine List.map_congr_left fun entry _ => ?_
  obtain ⟨k, v⟩ := entry
  by_cases hk : k = key <;> simp [hk, h]

end KeyMap
end ConnPool
