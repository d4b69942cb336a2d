/-
  ConnPool.KeyMap

  Finite maps from text keys.  The entries are kept in increasing order of
  their keys, so a map has one representation, and listing it lists the keys
  in the byte order of their UTF-8 form (which is the order on `String`).
-/

namespace ConnPool

/-- A map from keys to `α`, held as entries in increasing key order. -/
structure KeyMap (α : Type) where
  entries : List (String × α) := []
  sorted : entries.Pairwise (fun a b => a.1 < b.1) := by exact .nil

namespace KeyMap

variable {α : Type}

/-! ## Entries in key order -/

/-- Puts an entry where its key belongs, replacing an entry of the same key. -/
def put (key : String) (value : α) : List (String × α) → List (String × α)
  | [] => [(key, value)]
  | (k, v) :: rest =>
    if key < k then (key, value) :: (k, v) :: rest
    else if k < key then (k, v) :: put key value rest
    else (key, value) :: rest

/-- The keys after `put` are the old ones and the one put. -/
theorem key_of_mem_put {key : String} {value : α} {entries : List (String × α)}
    {entry : String × α} (h : entry ∈ put key value entries) :
    entry = (key, value) ∨ entry ∈ entries := by
  induction entries with
  | nil => exact .inl (by simpa [put] using h)
  | cons head rest ih =>
    obtain ⟨k, v⟩ := head
    simp only [put] at h
    split at h
    · simpa using h
    · split at h
      · rcases List.mem_cons.1 h with h | h
        · exact .inr (h ▸ List.mem_cons_self)
        · exact (ih h).imp id (List.mem_cons_of_mem _)
      · exact (List.mem_cons.1 h).imp id (List.mem_cons_of_mem _)

/-- Keys that are neither below nor above each other are the same. -/
theorem eq_of_not_lt {a b : String} (hab : ¬a < b) (hba : ¬b < a) : a = b :=
  String.le_antisymm (String.not_lt.1 hba) (String.not_lt.1 hab)

/-- `put` keeps the key order. -/
theorem sorted_put {key : String} {value : α} {entries : List (String × α)}
    (h : entries.Pairwise (fun a b => a.1 < b.1)) :
    (put key value entries).Pairwise (fun a b => a.1 < b.1) := by
  induction entries with
  | nil => simp [put]
  | cons head rest ih =>
    obtain ⟨k, v⟩ := head
    obtain ⟨hhead, hrest⟩ := List.pairwise_cons.1 h
    simp only [put]
    split
    · rename_i hlt
      refine List.pairwise_cons.2 ⟨fun e he => ?_, h⟩
      rcases List.mem_cons.1 he with rfl | he
      · exact hlt
      · exact String.lt_trans hlt (hhead e he)
    · split
      · rename_i hgt
        refine List.pairwise_cons.2 ⟨fun e he => ?_, ih hrest⟩
        rcases key_of_mem_put he with rfl | he
        · exact hgt
        · exact hhead e he
      · rename_i h1 h2
        have : key = k := eq_of_not_lt h1 h2
        exact List.pairwise_cons.2 ⟨fun e he => this ▸ hhead e he, hrest⟩

/-! ## Maps -/

/-- The map without entries. -/
def empty : KeyMap α := {}

/-- The value under `key`. -/
def get? (m : KeyMap α) (key : String) : Option α :=
  m.entries.lookup key

/-- Whether `key` has a value. -/
def contains (m : KeyMap α) (key : String) : Bool :=
  (m.get? key).isSome

/-- The map with `value` under `key`. -/
def insert (m : KeyMap α) (key : String) (value : α) : KeyMap α where
  entries := put key value m.entries
  sorted := sorted_put m.sorted

/-- Changes the value under `key`; a key without value changes nothing. -/
def modify (m : KeyMap α) (key : String) (f : α → α) : KeyMap α where
  entries := m.entries.map fun (k, v) => (k, if k = key then f v else v)
  sorted := List.pairwise_map.2 (m.sorted.imp fun h => h)

/-- The keys that have values, in increasing order. -/
def keys (m : KeyMap α) : List String :=
  m.entries.map Prod.fst

/-- The values, in the order of their keys. -/
def values (m : KeyMap α) : List α :=
  m.entries.map Prod.snd

/-- How many keys have values. -/
def size (m : KeyMap α) : Nat :=
  m.entries.length

/-! ## What a map holds afterwards -/

/-- `put` lays its value under its key. -/
theorem lookup_put_self (key : String) (value : α) (entries : List (String × α)) :
    (put key value entries).lookup key = some value := by
  induction entries with
  | nil => simp [put]
  | cons head rest ih =>
    obtain ⟨k, v⟩ := head
    simp only [put]
    split
    · simp
    · split
      · rename_i hgt
        have hne : key ≠ k := by
          rintro rfl
          exact String.lt_irrefl _ hgt
        rw [List.lookup_cons, beq_false_of_ne hne]
        exact ih
      · simp

/-- `put` leaves the values under other keys alone. -/
theorem lookup_put_of_ne {key other : String} (h : other ≠ key) (value : α)
    (entries : List (String × α)) :
    (put key value entries).lookup other = entries.lookup other := by
  induction entries with
  | nil => simp [put, List.lookup_cons, beq_false_of_ne h]
  | cons head rest ih =>
    obtain ⟨k, v⟩ := head
    simp only [put]
    split
    · rw [List.lookup_cons, beq_false_of_ne h]
    · split
      · simp only [List.lookup_cons, ih]
      · rename_i h1 h2
        obtain rfl : key = k := eq_of_not_lt h1 h2
        simp only [List.lookup_cons, beq_false_of_ne h]

/-- Nothing is under any key of the empty map. -/
@[simp] theorem get?_empty (key : String) : (empty : KeyMap α).get? key = none := rfl

/-- What was inserted is found. -/
@[simp] theorem get?_insert_self (m : KeyMap α) (key : String) (value : α) :
    (m.insert key value).get? key = some value :=
  lookup_put_self key value m.entries

/-- Inserting changes nothing under other keys. -/
theorem get?_insert_of_ne (m : KeyMap α) {key other : String} (h : other ≠ key) (value : α) :
    (m.insert key value).get? other = m.get? other :=
  lookup_put_of_ne h value m.entries

/-- `insert` sets the value under its key and no other. -/
theorem get?_insert (m : KeyMap α) (key other : String) (value : α) :
    (m.insert key value).get? other = if other = key then some value else m.get? other := by
  by_cases h : other = key
  · simp [h]
  · simp [h, get?_insert_of_ne m h]

/-- `modify` changes the value under its key and no other. -/
theorem get?_modify (m : KeyMap α) (key other : String) (f : α → α) :
    (m.modify key f).get? other = if other = key then (m.get? other).map f else m.get? other := by
  obtain ⟨entries, _⟩ := m
  simp only [get?, modify]
  induction entries with
  | nil => simp
  | cons head rest ih =>
    obtain ⟨k, v⟩ := head
    have ih := ih (List.pairwise_cons.1 ‹_›).2
    by_cases hk : other = k
    · subst hk
      split <;> simp_all
    · simp only [List.map_cons, List.lookup_cons, beq_false_of_ne hk]
      exact ih

/-- A key is listed just if it has a value. -/
theorem mem_keys_iff {m : KeyMap α} {key : String} : key ∈ m.keys ↔ (m.get? key).isSome := by
  obtain ⟨entries, _⟩ := m
  simp only [keys, get?]
  induction entries with
  | nil => simp
  | cons head rest ih =>
    obtain ⟨k, v⟩ := head
    have ih := ih (List.pairwise_cons.1 ‹_›).2
    by_cases hk : key = k
    · simp [hk]
    · rw [List.lookup_cons, beq_false_of_ne hk, List.map_cons, List.mem_cons]
      exact ⟨fun h => ih.1 (h.resolve_left hk), fun h => .inr (ih.2 h)⟩

/-- A key is listed once, at its place in the order. -/
theorem sorted_keys (m : KeyMap α) : m.keys.Pairwise (· < ·) :=
  List.pairwise_map.2 m.sorted

end KeyMap

end ConnPool
