/-
  ConnPool.Proofs.PoolFile.Entries

  The rules for the entries of a pool file.

  `BuiltAs` says which configuration is built for an entry, `Loadable` which
  lists of entries are accepted, and `Breaks` for what an entry is refused after
  the ones before it.  An entry asks for what is built for it, and nothing else
  (`config_eq_ok_iff`); and a list of entries is loadable, or one of its entries
  is the first to break a rule (`Loadable.append_or_breaks`).
-/

import ConnPool.PoolFile.Entry
import ConnPool.Proofs.KeyMap
import ConnPool.Proofs.Pool.Sizing
import ConnPool.Proofs.Text.ByteOrder
import Mathlib.Data.List.Nodup

namespace ConnPool

open Client (utf8Bytes utf8Bytes_lt_iff)

/-! ## Rules for one entry -/

instance : DecidableEq (KeyMap String) := fun m m' =>
  decidable_of_iff (m.entries = m'.entries)
    ⟨fun h => KeyMap.eq_of_entries_perm (.of_eq h), congrArg KeyMap.entries⟩

deriving instance DecidableEq for PoolEntry

namespace PoolEntry

/-- Whether exactly one of the two kinds of target is given. -/
def HasOneTarget (entry : PoolEntry) : Prop :=
  entry.uri.isSome ≠ entry.params.isSome

/-- The floor that is asked for: zero asks for 1. -/
def floor (entry : PoolEntry) : Nat :=
  if entry.minSize = 0 then 1 else entry.minSize

/-- The ceiling that is asked for: zero asks for 10. -/
def ceiling (entry : PoolEntry) : Nat :=
  if entry.maxSize = 0 then 10 else entry.maxSize

/-- What is built for an entry by hand: its target, given parameters in the byte
    order of their keys, then the sizes, then the batch. -/
inductive BuiltAs (entry : PoolEntry) : PoolConfig → Prop where
  | uri {text : String} {config : PoolConfig} (huri : entry.uri = some text)
      (hparams : entry.params = none)
      (hsizes : PoolConfig.ofSizes entry.key (.uri text) entry.minSize entry.maxSize =
        .ok config) :
      BuiltAs entry (config.withBatch entry.spawnBatch)
  | params {given : KeyMap String} {keys values : List String} {target : Target}
      {config : PoolConfig} (huri : entry.uri = none) (hparams : entry.params = some given)
      (hsorted : keys.Pairwise fun key other => utf8Bytes key < utf8Bytes other)
      (hgiven : ∀ key value, (key, value) ∈ keys.zip values ↔ given.get? key = some value)
      (htarget : Target.ofLists keys values entry.expandDbname = .ok target)
      (hsizes : PoolConfig.ofSizes entry.key target entry.minSize entry.maxSize = .ok config) :
      BuiltAs entry (config.withBatch entry.spawnBatch)

/-- The first rule that an entry breaks after the entries before it, as the error
    that says so. -/
inductive Breaks (before : List PoolEntry) (entry : PoolEntry) : PoolError → Prop where
  | target (htarget : ¬entry.HasOneTarget) :
      Breaks before entry
        (.invalidConfig s!"pool `{entry.key}` must set exactly one of `uri` or `params`")
  | sizes (htarget : entry.HasOneTarget) (hsizes : entry.ceiling < entry.floor) :
      Breaks before entry (.invalidConfig
        s!"pool `{entry.key}`: min_size {entry.floor} exceeds max_size {entry.ceiling}")
  | duplicate (htarget : entry.HasOneTarget) (hsizes : entry.floor ≤ entry.ceiling)
      (hkey : entry.key ∈ before.map PoolEntry.key) :
      Breaks before entry (.duplicatePool entry.key)

variable {entry : PoolEntry}

theorem target_of_hasOneTarget (h : entry.HasOneTarget) :
    (∃ text, entry.uri = some text ∧ entry.params = none ∧ entry.target = .ok (.uri text)) ∨
      ∃ given, entry.uri = none ∧ entry.params = some given ∧
        entry.target = .ok (.params given.entries entry.expandDbname) := by
  unfold HasOneTarget at h
  unfold target
  cases huri : entry.uri with
  | some text =>
      cases hparams : entry.params with
      | some given => simp [huri, hparams] at h
      | none => exact .inl ⟨text, rfl, rfl, rfl⟩
  | none =>
      cases hparams : entry.params with
      | some given => exact .inr ⟨given, rfl, rfl, rfl⟩
      | none => simp [huri, hparams] at h

theorem target_of_not_hasOneTarget (h : ¬entry.HasOneTarget) :
    entry.target = .error
      (.invalidConfig s!"pool `{entry.key}` must set exactly one of `uri` or `params`") := by
  unfold HasOneTarget at h
  unfold target
  cases huri : entry.uri with
  | some text =>
      cases hparams : entry.params with
      | some given => rfl
      | none => simp [huri, hparams] at h
  | none =>
      cases hparams : entry.params with
      | some given => simp [huri, hparams] at h
      | none => rfl

theorem config_of_target {target : Target} (h : entry.target = .ok target) :
    entry.config = (PoolConfig.ofSizes entry.key target entry.minSize entry.maxSize).map
      (·.withBatch entry.spawnBatch) := by
  rw [config, h]
  change (PoolConfig.ofSizes _ _ _ _ >>= fun config => pure (config.withBatch _)) = _
  cases PoolConfig.ofSizes entry.key target entry.minSize entry.maxSize <;> rfl

theorem config_eq_ok_iff_of_target {target : Target} (h : entry.target = .ok target)
    {config : PoolConfig} :
    entry.config = .ok config ↔
      ∃ sized, PoolConfig.ofSizes entry.key target entry.minSize entry.maxSize = .ok sized ∧
        sized.withBatch entry.spawnBatch = config := by
  rw [config_of_target h]
  cases PoolConfig.ofSizes entry.key target entry.minSize entry.maxSize with
  | error e => simp [Except.map]
  | ok sized => simp [Except.map]

/-- Keys in byte order, with their values, list a map just as it lists itself. -/
theorem zip_eq_entries {given : KeyMap String} {keys values : List String}
    (hlength : keys.length = values.length)
    (hsorted : keys.Pairwise fun key other => utf8Bytes key < utf8Bytes other)
    (hgiven : ∀ key value, (key, value) ∈ keys.zip values ↔ given.get? key = some value) :
    keys.zip values = given.entries := by
  have hkeys : ((keys.zip values).map Prod.fst).Pairwise (· < ·) := by
    rw [List.map_fst_zip (Nat.le_of_eq hlength)]
    exact hsorted.imp utf8Bytes_lt_iff.1
  -- the order on texts is that on their bytes, so the two lists make up a map
  let listed : KeyMap String := ⟨keys.zip values, List.pairwise_map.1 hkeys⟩
  have hlisted : listed = given := by
    refine KeyMap.eq_of_get?_iff fun key value => ?_
    rw [← KeyMap.mem_entries]
    exact hgiven key value
  exact congrArg KeyMap.entries hlisted

/-- The entry asks for what is built by hand. -/
theorem config_eq_ok_iff {config : PoolConfig} : entry.config = .ok config ↔ entry.BuiltAs config := by
  constructor
  · intro h
    by_cases htarget : entry.HasOneTarget
    case neg =>
      rw [PoolEntry.config, target_of_not_hasOneTarget htarget] at h
      cases h
    rcases target_of_hasOneTarget htarget with
      ⟨text, huri, hparams, htarget⟩ | ⟨given, huri, hparams, htarget⟩
    all_goals
      obtain ⟨sized, hsizes, rfl⟩ := (config_eq_ok_iff_of_target htarget).1 h
    · exact .uri huri hparams hsizes
    · have hsorted : given.keys.Pairwise fun key other => utf8Bytes key < utf8Bytes other :=
        given.sorted_keys.imp utf8Bytes_lt_iff.2
      have hgiven : ∀ key value,
          (key, value) ∈ given.keys.zip given.values ↔ given.get? key = some value := by
        intro key value
        rw [given.zip_keys_values]
        exact KeyMap.mem_entries
      refine .params huri hparams hsorted hgiven ?_ hsizes
      rw [Target.ofLists, if_pos given.length_keys_eq_length_values, given.zip_keys_values]
  · intro h
    cases h with
    | @uri text _ huri hparams hsizes =>
        have htarget : entry.target = .ok (.uri text) := by rw [target, huri, hparams]
        exact (config_eq_ok_iff_of_target htarget).2 ⟨_, hsizes, rfl⟩
    | @params given _ _ _ _ huri hparams hsorted hgiven hofLists hsizes =>
        -- the target is built at all, so there is a value for each key
        rw [Target.ofLists] at hofLists
        split at hofLists
        case isFalse => cases hofLists
        rename_i hlength
        obtain rfl := Except.ok.inj hofLists
        have htarget : entry.target = .ok (.params given.entries entry.expandDbname) := by
          rw [target, huri, hparams]
        rw [zip_eq_entries hlength hsorted hgiven] at hsizes
        exact (config_eq_ok_iff_of_target htarget).2 ⟨_, hsizes, rfl⟩

theorem exists_target (h : entry.HasOneTarget) : ∃ target, entry.target = .ok target := by
  rcases target_of_hasOneTarget h with ⟨_, _, _, htarget⟩ | ⟨_, _, _, htarget⟩
  · exact ⟨_, htarget⟩
  · exact ⟨_, htarget⟩

theorem config_of_not_hasOneTarget (h : ¬entry.HasOneTarget) :
    entry.config = .error
      (.invalidConfig s!"pool `{entry.key}` must set exactly one of `uri` or `params`") := by
  rw [config, target_of_not_hasOneTarget h]
  rfl

theorem config_of_ceiling_lt (htarget : entry.HasOneTarget) (h : entry.ceiling < entry.floor) :
    entry.config = .error (.invalidConfig
      s!"pool `{entry.key}`: min_size {entry.floor} exceeds max_size {entry.ceiling}") := by
  obtain ⟨target, htarget⟩ := exists_target htarget
  rw [config_of_target htarget, PoolConfig.map_withBatch_ofSizes]
  exact if_pos h

theorem exists_config (htarget : entry.HasOneTarget) (h : entry.floor ≤ entry.ceiling) :
    ∃ config, entry.config = .ok config := by
  obtain ⟨target, htarget⟩ := exists_target htarget
  rw [config_of_target htarget, PoolConfig.map_withBatch_ofSizes]
  exact ⟨_, if_neg (Nat.not_lt.2 h)⟩

theorem key_of_config {config : PoolConfig} (h : entry.config = .ok config) :
    config.key = entry.key := by
  cases config_eq_ok_iff.1 h with
  | uri _ _ hsizes => exact (PoolConfig.key_of_ofSizes hsizes :)
  | params _ _ _ _ _ hsizes => exact (PoolConfig.key_of_ofSizes hsizes :)

end PoolEntry

/-! ## Rules for the entries of a file -/

namespace PoolFile

/-- Whether the entries of a pool file are accepted. -/
structure Loadable (entries : List PoolEntry) : Prop where
  targets : ∀ entry ∈ entries, entry.HasOneTarget
  sizes : ∀ entry ∈ entries, entry.floor ≤ entry.ceiling
  keys : (entries.map PoolEntry.key).Nodup

theorem loadable_nil : Loadable [] :=
  ⟨nofun, nofun, .nil⟩

theorem loadable_snoc_iff {before : List PoolEntry} {entry : PoolEntry} :
    Loadable (before ++ [entry]) ↔
      Loadable before ∧ entry.HasOneTarget ∧ entry.floor ≤ entry.ceiling ∧
        entry.key ∉ before.map PoolEntry.key := by
  constructor
  · rintro ⟨htargets, hsizes, hkeys⟩
    obtain ⟨htargets, htarget⟩ := List.forall_mem_append.1 htargets
    obtain ⟨hsizes, hsize⟩ := List.forall_mem_append.1 hsizes
    rw [List.map_append, List.map_singleton, List.nodup_append_comm,
      List.singleton_append, List.nodup_cons] at hkeys
    exact ⟨⟨htargets, hsizes, hkeys.2⟩, htarget entry List.mem_cons_self,
      hsize entry List.mem_cons_self, hkeys.1⟩
  · rintro ⟨⟨htargets, hsizes, hkeys⟩, htarget, hsize, hkey⟩
    refine ⟨List.forall_mem_append.2 ⟨htargets, List.forall_mem_singleton.2 htarget⟩,
      List.forall_mem_append.2 ⟨hsizes, List.forall_mem_singleton.2 hsize⟩, ?_⟩
    rw [List.map_append, List.map_singleton, List.nodup_append_comm,
      List.singleton_append, List.nodup_cons]
    exact ⟨hkey, hkeys⟩

/-- The order of the entries does not decide whether they are accepted. -/
theorem Loadable.perm {entries entries' : List PoolEntry} (h : Loadable entries)
    (hperm : entries'.Perm entries) : Loadable entries' :=
  ⟨fun entry hmem => h.targets entry (hperm.mem_iff.1 hmem),
    fun entry hmem => h.sizes entry (hperm.mem_iff.1 hmem),
    (hperm.map PoolEntry.key).nodup_iff.2 h.keys⟩

theorem Loadable.of_append {before after : List PoolEntry} (h : Loadable (before ++ after)) :
    Loadable before := by
  refine ⟨(List.forall_mem_append.1 h.targets).1, (List.forall_mem_append.1 h.sizes).1, ?_⟩
  have hkeys := h.keys
  rw [List.map_append] at hkeys
  exact hkeys.of_append_left

/-- One more entry is accepted too, or breaks a rule. -/
theorem Loadable.snoc_or_breaks {before : List PoolEntry} (h : Loadable before)
    (entry : PoolEntry) :
    Loadable (before ++ [entry]) ∨ ∃ cause, entry.Breaks before cause := by
  by_cases htarget : entry.HasOneTarget
  case neg => exact .inr ⟨_, .target htarget⟩
  rcases Nat.lt_or_ge entry.ceiling entry.floor with hsizes | hsizes
  · exact .inr ⟨_, .sizes htarget hsizes⟩
  by_cases hkey : entry.key ∈ before.map PoolEntry.key
  · exact .inr ⟨_, .duplicate htarget hsizes hkey⟩
  · exact .inl (loadable_snoc_iff.2 ⟨h, htarget, hsizes, hkey⟩)

/-- Entries are accepted, or some entry is the first to break a rule. -/
theorem Loadable.append_or_breaks {before : List PoolEntry} (h : Loadable before)
    (after : List PoolEntry) :
    Loadable (before ++ after) ∨
      ∃ seen entry rest cause, before ++ after = seen ++ entry :: rest ∧ Loadable seen ∧
        entry.Breaks seen cause := by
  -- over what is still to come; what was accepted so far grows by one entry
  induction after generalizing before with
  | nil =>
      rw [List.append_nil]
      exact .inl h
  | cons entry rest ih =>
      rcases h.snoc_or_breaks entry with hnext | ⟨cause, hbreaks⟩
      · rw [List.append_cons]
        exact ih hnext
      · exact .inr ⟨before, entry, rest, cause, rfl, h, hbreaks⟩

end PoolFile
end ConnPool
