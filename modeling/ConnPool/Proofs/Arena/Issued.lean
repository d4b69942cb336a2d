/-
  ConnPool.Proofs.Arena.Issued

  Ids are not given out twice.

  An id has been `Issued` if its slot holds a value of the id's generation, or
  has gone past that generation.  `insert` answers an id that was not issued
  before, and issued ids stay issued as long as no generation wraps around,
  which takes `2 ^ 32` removals from one slot.
-/

import ConnPool.Proofs.Arena.WellFormed

namespace ConnPool

variable {α : Type}

/-- Whether a slot holds, or has held, a value of a generation. -/
def Slot.HasServed (slot : Slot α) (generation : UInt32) : Prop :=
  generation.toNat < slot.generation.toNat ∨
    (generation = slot.generation ∧ slot.value.isSome)

namespace Arena

variable {a : Arena α} {id other : ConnId} {value : α}

/-- Whether an id stands, or has stood, for a value. -/
def Issued (a : Arena α) (id : ConnId) : Prop :=
  ∃ slot, a.slots[id.index.toNat]? = some slot ∧ slot.HasServed id.generation

/-- No slot has been vacated more than `n` times. -/
def AtMostRemoved (a : Arena α) (n : Nat) : Prop :=
  ∀ slot ∈ a.slots, slot.generation.toNat ≤ n

theorem issued_of_get? (h : a.get? id = some value) : a.Issued id :=
  ⟨_, getElem?_of_get?_eq_some h, .inr ⟨rfl, rfl⟩⟩

/-- The id that `insert` answers is new. -/
theorem not_issued_fst_insert (hw : a.WellFormed) (ha : (a.insert value).2.Addressable) :
    ¬a.Issued (a.insert value).1 := by
  rintro ⟨slot, hslot, hserved⟩
  cases hv : a.vacant with
  | nil =>
      -- a new slot has never been there
      rw [insert_of_full hv] at ha hslot
      rw [toNat_ofNat_length ha, List.getElem?_eq_none (Nat.le_refl _)] at hslot
      cases hslot
  | cons index rest =>
      -- a vacant slot stands at a generation that it has not served yet
      obtain ⟨generation, hvacant, hinsert⟩ := insert_of_vacant hw hv
      rw [hinsert] at hslot hserved
      obtain rfl := Option.some.inj (hvacant.symm.trans hslot)
      rcases hserved with hlt | ⟨-, hsome⟩
      · exact Nat.lt_irrefl _ hlt
      · cases hsome

/-- A slot that is written over by one that has served as much. -/
theorem Issued.of_set {b : Arena α} {index : Nat} {old new : Slot α} (h : a.Issued other)
    (hold : a.slots[index]? = some old) (hb : b.slots = a.slots.set index new)
    (hserved : ∀ generation, old.HasServed generation → new.HasServed generation) :
    b.Issued other := by
  obtain ⟨slot, hslot, hother⟩ := h
  have hlt := (List.getElem?_eq_some_iff.1 hold).1
  by_cases hi : index = other.index.toNat
  · subst hi
    obtain rfl := Option.some.inj (hold.symm.trans hslot)
    refine ⟨new, ?_, hserved _ hother⟩
    rw [hb, List.getElem?_set_self hlt]
  · refine ⟨slot, ?_, hother⟩
    rw [hb, List.getElem?_set_ne hi]
    exact hslot

theorem Issued.insert (h : a.Issued other) (hw : a.WellFormed) (value : α) :
    (a.insert value).2.Issued other := by
  cases hv : a.vacant with
  | nil =>
      -- the row only grows
      obtain ⟨slot, hslot, hserved⟩ := h
      refine ⟨slot, ?_, hserved⟩
      rw [insert_of_full hv]
      exact List.getElem?_append_left (List.getElem?_eq_some_iff.1 hslot).1 ▸ hslot
  | cons index rest =>
      obtain ⟨generation, hvacant, hinsert⟩ := insert_of_vacant hw hv
      rw [hinsert]
      exact h.of_set hvacant rfl fun g hserved => hserved.imp id fun hg => ⟨hg.1, rfl⟩

theorem Issued.modify (h : a.Issued other) (id : ConnId) (f : α → α) :
    (a.modify id f).Issued other := by
  cases hget : a.get? id with
  | none => rwa [modify_of_get?_eq_none hget]
  | some value =>
      rw [modify_of_get? hget]
      exact h.of_set (getElem?_of_get?_eq_some hget) rfl fun _ hserved => hserved

/-- Vacating a slot whose generation does not wrap around keeps what it has
    served. -/
theorem Issued.remove {n : Nat} (h : a.Issued other) (hn : a.AtMostRemoved n) (hlt : n + 1 < 2 ^ 32)
    (id : ConnId) : (a.remove id).2.Issued other := by
  cases hget : a.get? id with
  | none => rwa [remove_of_get?_eq_none hget]
  | some value =>
      have hslot := getElem?_of_get?_eq_some hget
      have hle : id.generation.toNat ≤ n := hn _ (List.mem_of_getElem? hslot)
      -- the next generation is above all that the slot has served
      have hnext : (id.generation + 1).toNat = id.generation.toNat + 1 := by
        rw [UInt32.toNat_add]
        exact Nat.mod_eq_of_lt (by show id.generation.toNat + 1 < 2 ^ 32; omega)
      rw [snd_remove hget]
      refine h.of_set hslot rfl fun generation hserved => .inl ?_
      rcases hserved with hless | ⟨rfl, -⟩
      · simp only at hless ⊢
        omega
      · simp only at hnext ⊢
        omega

/-! ## Counting removals -/

theorem AtMostRemoved.empty : (Arena.empty : Arena α).AtMostRemoved 0 :=
  List.forall_mem_nil _

theorem AtMostRemoved.mono {m n : Nat} (h : a.AtMostRemoved m) (hle : m ≤ n) :
    a.AtMostRemoved n := fun slot hmem => Nat.le_trans (h slot hmem) hle

theorem AtMostRemoved.insert {n : Nat} (h : a.AtMostRemoved n) (hw : a.WellFormed) (value : α) :
    (a.insert value).2.AtMostRemoved n := by
  intro slot hmem
  cases hv : a.vacant with
  | nil =>
      rw [insert_of_full hv] at hmem
      rcases List.mem_append.1 hmem with hmem | hmem
      · exact h slot hmem
      · obtain rfl := List.mem_singleton.1 hmem
        exact Nat.zero_le n
  | cons index rest =>
      obtain ⟨generation, hvacant, hinsert⟩ := insert_of_vacant hw hv
      rw [hinsert] at hmem
      rcases List.mem_or_eq_of_mem_set hmem with hmem | rfl
      · exact h slot hmem
      · have hle := h _ (List.mem_of_getElem? hvacant)
        exact hle

theorem AtMostRemoved.modify {n : Nat} (h : a.AtMostRemoved n) (id : ConnId) (f : α → α) :
    (a.modify id f).AtMostRemoved n := by
  cases hget : a.get? id with
  | none => rwa [modify_of_get?_eq_none hget]
  | some value =>
      intro slot hmem
      rw [modify_of_get? hget] at hmem
      rcases List.mem_or_eq_of_mem_set hmem with hmem | rfl
      · exact h slot hmem
      · have hle := h _ (List.mem_of_getElem? (getElem?_of_get?_eq_some hget))
        exact hle

/-- A removal adds at most one to the generation of a slot. -/
theorem AtMostRemoved.remove {n : Nat} (h : a.AtMostRemoved n) (id : ConnId) :
    (a.remove id).2.AtMostRemoved (n + 1) := by
  cases hget : a.get? id with
  | none =>
      rw [remove_of_get?_eq_none hget]
      exact h.mono (Nat.le_succ n)
  | some value =>
      intro slot hmem
      rw [snd_remove hget] at hmem
      rcases List.mem_or_eq_of_mem_set hmem with hmem | rfl
      · exact Nat.le_succ_of_le (h slot hmem)
      · have hle : id.generation.toNat ≤ n :=
          h _ (List.mem_of_getElem? (getElem?_of_get?_eq_some hget))
        show (id.generation + 1).toNat ≤ n + 1
        rw [UInt32.toNat_add]
        refine Nat.le_trans (Nat.mod_le _ _) ?_
        show id.generation.toNat + 1 ≤ n + 1
        omega

end Arena
end ConnPool
