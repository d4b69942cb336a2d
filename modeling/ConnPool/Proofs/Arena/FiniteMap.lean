/-
  ConnPool.Proofs.Arena.FiniteMap

  An arena is a finite map from ids to values.

  Calls on a new arena are replayed on a map that has neither slots nor
  generations (`run`): it adds a value under the id that the arena answers, and
  deletes what the arena says it took out.  `Tracks` is what every call keeps;
  from it an addressable arena looks up, counts and lists what the map holds, and
  its next call behaves as a call on the map does (`Implements`).
-/

import ConnPool.Proofs.Arena.WellFormed
import Mathlib.Data.Finmap

namespace ConnPool
namespace Arena

variable {α : Type}

/-! ## Calls, and the map that they describe -/

/-- A call that may change what an arena holds. -/
inductive Call (α : Type) where
  | insert (value : α)
  | modify (id : ConnId) (f : α → α)
  | remove (id : ConnId)

/-- Values by the ids under which they are found. -/
abbrev Contents (α : Type) := Finmap fun _ : ConnId => α

/-- The arena after a call. -/
def after (a : Arena α) : Call α → Arena α
  | .insert value => (a.insert value).2
  | .modify id f => a.modify id f
  | .remove id => (a.remove id).2

/-- What is held after a call, by what the arena answers to it. -/
def replay (a : Arena α) (held : Contents α) : Call α → Contents α
  | .insert value => Finmap.insert (a.insert value).1 value held
  | .modify id f =>
    match held.lookup id with
    | some value => held.insert id (f value)
    | none => held
  | .remove id =>
    match (a.remove id).1 with
    | some _ => held.erase id
    | none => held

/-- A new arena after calls, and what it should hold. -/
def run (calls : List (Call α)) : Arena α × Contents α :=
  calls.foldl (fun (a, held) call => (a.after call, a.replay held call)) (empty, ∅)

theorem run_snoc (calls : List (Call α)) (call : Call α) :
    run (calls ++ [call]) =
      ((run calls).1.after call, (run calls).1.replay (run calls).2 call) := by
  rw [run, List.foldl_append]
  rfl

theorem length_slots_le_after (a : Arena α) (call : Call α) :
    a.slots.length ≤ (a.after call).slots.length := by
  cases call with
  | insert value => exact length_slots_le_insert a value
  | modify id f => exact Nat.le_of_eq (length_slots_modify a id f).symm
  | remove id => exact Nat.le_of_eq (length_slots_remove a id).symm

/-! ## What calls keep -/

/-- Whether an arena is in order and looks up what is held. -/
structure Tracks (a : Arena α) (held : Contents α) : Prop where
  wellFormed : a.WellFormed
  get?_eq : ∀ id, a.get? id = held.lookup id

variable {a : Arena α} {held : Contents α}

theorem Tracks.empty : (empty : Arena α).Tracks ∅ :=
  ⟨.empty, fun id => by rw [get?_empty, Finmap.lookup_empty]⟩

theorem Tracks.insert (h : a.Tracks held) {value : α} (ha : (a.insert value).2.Addressable) :
    (a.insert value).2.Tracks (a.replay held (.insert value)) := by
  refine ⟨h.wellFormed.insert value, fun id => ?_⟩
  rw [get?_insert h.wellFormed ha, replay]
  by_cases hid : id = (a.insert value).1
  · rw [if_pos hid, hid, Finmap.lookup_insert]
  · rw [if_neg hid, Finmap.lookup_insert_of_ne held hid, h.get?_eq]

theorem Tracks.modify (h : a.Tracks held) (id : ConnId) (f : α → α) :
    (a.modify id f).Tracks (a.replay held (.modify id f)) := by
  refine ⟨h.wellFormed.modify id f, fun other => ?_⟩
  rw [get?_modify, h.get?_eq, h.get?_eq]
  simp only [replay]
  cases hlookup : held.lookup id with
  | none =>
      -- a stale id, under which nothing is held either
      by_cases hother : other = id
      · rw [if_pos hother, hother, hlookup]
        rfl
      · rw [if_neg hother]
  | some value =>
      by_cases hother : other = id
      · rw [if_pos hother, hother, Finmap.lookup_insert]
        rfl
      · rw [if_neg hother, Finmap.lookup_insert_of_ne held hother]

theorem Tracks.remove (h : a.Tracks held) (id : ConnId) :
    (a.remove id).2.Tracks (a.replay held (.remove id)) := by
  refine ⟨h.wellFormed.remove id, fun other => ?_⟩
  simp only [replay, get?_remove, fst_remove]
  cases hget : a.get? id with
  | none =>
      -- nothing is taken out, and nothing was held under the id
      by_cases hother : other = id
      · rw [if_pos hother, hother, ← h.get?_eq, hget]
      · rw [if_neg hother, h.get?_eq]
  | some value =>
      by_cases hother : other = id
      · rw [if_pos hother, hother, Finmap.lookup_erase]
      · rw [if_neg hother, Finmap.lookup_erase_ne hother, h.get?_eq]

theorem Tracks.after (h : a.Tracks held) {call : Call α} (ha : (a.after call).Addressable) :
    (a.after call).Tracks (a.replay held call) := by
  cases call with
  | insert value => exact h.insert ha
  | modify id f => exact h.modify id f
  | remove id => exact h.remove id

/-- A new arena tracks what is held through any calls. -/
theorem tracks_run (calls : List (Call α)) (ha : (run calls).1.Addressable) :
    (run calls).1.Tracks (run calls).2 := by
  induction calls using List.reverseRecOn with
  | nil => exact .empty
  | append_singleton calls call ih =>
      rw [run_snoc] at ha ⊢
      -- slots are never given up, so the arena was addressable before the call
      exact (ih (Nat.le_trans (length_slots_le_after _ call) ha)).after ha

/-! ## What an arena answers -/

/-- The entries are as many as the slots that hold a value. -/
theorem length_entries (a : Arena α) :
    a.entries.length = a.slots.countP fun slot => slot.value.isSome := by
  rw [entries, List.length_filterMap_eq_countP]
  -- the places beside the slots do not matter
  conv_rhs => rw [← List.zipIdx_map_fst 0 a.slots, List.countP_map]
  refine List.countP_congr fun entry _ => ?_
  simp

/-- The stack lists the vacant slots of an addressable arena by their places. -/
theorem mem_map_vacant (hw : a.WellFormed) (ha : a.Addressable) {place : Nat} :
    place ∈ a.vacant.map UInt32.toNat ↔
      ∃ generation, a.slots[place]? = some ⟨generation, none⟩ := by
  rw [List.mem_map]
  constructor
  · rintro ⟨index, hmem, rfl⟩
    exact (hw.mem_vacant index).1 hmem
  · rintro ⟨generation, hslot⟩
    have hlt := (List.getElem?_eq_some_iff.1 hslot).1
    -- a place of an addressable arena fits in an index
    have hnat : (UInt32.ofNat place).toNat = place :=
      UInt32.toNat_ofNat_of_lt' (Nat.lt_of_lt_of_le hlt ha)
    exact ⟨.ofNat place, (hw.mem_vacant _).2 ⟨generation, by rw [hnat, hslot]⟩, hnat⟩

/-- Whether an arena looks up, counts and lists what is held, and stacks its
    vacant slots. -/
structure Represents (a : Arena α) (held : Contents α) : Prop where
  nodup_vacant : a.vacant.Nodup
  mem_vacant : ∀ place, place ∈ a.vacant.map UInt32.toNat ↔
    ∃ generation, a.slots[place]? = some ⟨generation, none⟩
  size_eq : a.size = a.slots.countP fun slot => slot.value.isSome
  get?_eq : ∀ id, a.get? id = held.lookup id
  contains_iff : ∀ id, a.contains id ↔ id ∈ held
  mem_ids : ∀ id, id ∈ a.ids ↔ id ∈ held
  sorted_ids : a.ids.Pairwise fun id other => id.index < other.index
  mem_entries : ∀ id value, (id, value) ∈ a.entries ↔ held.lookup id = some value
  sorted_entries : a.entries.Pairwise fun entry other => entry.1.index < other.1.index

/-- Whether `insert` finds the slot that it fills, and answers an id that meant
    nothing before. -/
structure Inserts (a : Arena α) (value : α) : Prop where
  in_range : ∀ index ∈ a.vacant.head?, index.toNat < a.slots.length
  stale : a.get? (a.insert value).1 = none

/-- Whether `remove` answers what its id stands for and makes it stale, or else
    changes nothing.  A size that is one less than before has not gone below zero. -/
structure Removes (a : Arena α) (id : ConnId) : Prop where
  answer : ∀ value, (a.remove id).1 = some value ↔ a.get? id = some value
  stale : (a.remove id).2.get? id = none
  size_eq : ∀ value, (a.remove id).1 = some value → (a.remove id).2.size + 1 = a.size
  unchanged : (a.remove id).1 = none → (a.remove id).2 = a

/-- Whether an arena represents what is held, and inserts and removes as it
    should. -/
structure Implements (a : Arena α) (held : Contents α) : Prop where
  represents : a.Represents held
  inserts : ∀ value, (a.insert value).2.Addressable → a.Inserts value
  removes : ∀ id, a.Removes id

theorem Tracks.represents (h : a.Tracks held) (ha : a.Addressable) : a.Represents held := by
  have hsorted : a.ids.Pairwise fun id other => id.index < other.index := pairwise_ids ha
  have hmem : ∀ id, (a.get? id).isSome ↔ id ∈ held := fun id => by
    rw [h.get?_eq, Finmap.lookup_isSome]
  constructor
  case nodup_vacant => exact h.wellFormed.nodup_vacant
  case mem_vacant => exact fun place => mem_map_vacant h.wellFormed ha
  case size_eq => rw [h.wellFormed.size_eq, length_entries]
  case get?_eq => exact h.get?_eq
  case contains_iff => exact hmem
  case mem_ids => exact fun id => (Arena.mem_ids ha).trans (hmem id)
  case sorted_ids => exact hsorted
  case mem_entries => exact fun id value => by rw [Arena.mem_entries ha, h.get?_eq]
  case sorted_entries => exact (List.pairwise_map (f := Prod.fst)).1 hsorted

theorem WellFormed.inserts (hw : a.WellFormed) {value : α}
    (ha : (a.insert value).2.Addressable) : a.Inserts value := by
  refine ⟨fun index hindex => ?_, get?_fst_insert hw ha⟩
  -- what is on the stack is the index of a slot
  obtain ⟨generation, hslot⟩ := (hw.mem_vacant index).1 (List.mem_of_mem_head? hindex)
  exact (List.getElem?_eq_some_iff.1 hslot).1

theorem WellFormed.removes (hw : a.WellFormed) (id : ConnId) : a.Removes id := by
  constructor
  case answer => exact fun value => by rw [fst_remove]
  case stale => rw [get?_remove, if_pos rfl]
  case size_eq =>
    intro value hvalue
    rw [fst_remove] at hvalue
    -- one entry fewer, and the sizes count the entries
    rw [hw.size_eq, (hw.remove id).size_eq, (entries_remove_perm hvalue).length_eq,
      List.length_cons]
  case unchanged =>
    intro hnone
    rw [fst_remove] at hnone
    rw [remove_of_get?_eq_none hnone]

/-! ## Every arena is a finite map -/

/-- A new arena, after any calls that leave it addressable, is the finite map that
    its answers describe. -/
theorem implements_of_calls (calls : List (Call α)) (ha : (run calls).1.Addressable) :
    (run calls).1.Implements (run calls).2 := by
  have htracks := tracks_run calls ha
  constructor
  case represents => exact htracks.represents ha
  case inserts => exact fun value hnext => htracks.wellFormed.inserts hnext
  case removes => exact htracks.wellFormed.removes

/-- A slot is vacated and used again, ids are used after they went stale, and one
    that was never given out is used. -/
def reuseCalls : List (Call Char) :=
  [.insert 'a', .insert 'b', .insert 'c', .remove ⟨1, 0⟩, .remove ⟨1, 0⟩, .remove ⟨7, 3⟩,
    .insert 'd', .modify ⟨1, 0⟩ Char.toUpper, .modify ⟨0, 0⟩ Char.toUpper]

theorem implements_of_reuseCalls :
    (run reuseCalls).1.Addressable ∧ (run reuseCalls).1.Implements (run reuseCalls).2 ∧
      (run reuseCalls).1.entries = [(⟨0, 0⟩, 'A'), (⟨1, 1⟩, 'd'), (⟨2, 0⟩, 'c')] :=
  have ha : (run reuseCalls).1.slots.length ≤ 2 ^ 32 := by decide +kernel
  ⟨ha, implements_of_calls reuseCalls ha, by decide +kernel⟩

end Arena
end ConnPool
