/-
  ConnPool.Proofs.PoolFile.Loading

  Loading a pool file against registering its pools one by one.

  A file is accepted just if its entries are loadable, and leaves the registry
  that its configurations leave, registered in their order or in any other; else
  it is refused for its first entry that breaks a rule.
-/

import ConnPool.PoolFile.Load
import ConnPool.Proofs.Pool.Registering
import ConnPool.Proofs.PoolFile.Entries
import Mathlib.Data.List.Forall2
import Mathlib.Data.List.Perm.Basic

namespace ConnPool

/-! ## Registering configurations one after another -/

namespace Registry

/-- A configuration under its key. -/
def keyed (config : PoolConfig) : PoolKey × PoolConfig :=
  (config.key, config)

/-- A registration adds its configuration, under a key that was free. -/
theorem entries_perm_of_register {registry after : Registry} {config : PoolConfig}
    (h : registry.register config = .ok after) :
    after.entries.Perm (keyed config :: registry.entries) := by
  rw [register] at h
  split at h
  · cases h
  · rename_i hfree
    obtain rfl := Except.ok.inj h
    exact KeyMap.entries_insert_perm (Option.not_isSome_iff_eq_none.1 hfree) config

/-- Registrations add their configurations. -/
theorem entries_perm_of_foldlM {configs : List PoolConfig} {registry after : Registry}
    (h : configs.foldlM register registry = .ok after) :
    after.entries.Perm (registry.entries ++ configs.map keyed) := by
  induction configs generalizing registry with
  | nil =>
      obtain rfl := Except.ok.inj h
      rw [List.map_nil, List.append_nil]
  | cons config rest ih =>
      rw [List.foldlM_cons] at h
      cases hregister : registry.register config with
      | error e =>
          rw [hregister] at h
          cases h
      | ok next =>
          rw [hregister] at h
          have hnext := (entries_perm_of_register hregister).append_right (rest.map keyed)
          exact (ih h).trans (hnext.trans List.perm_middle.symm)

end Registry

namespace RegistryDraft

theorem addEntries_cons_of_ok {draft next : RegistryDraft} {entry : PoolEntry}
    (h : draft.add entry.config = (.ok (), next)) (rest : List PoolEntry) :
    draft.addEntries (entry :: rest) = next.addEntries rest := by
  rw [addEntries, List.map_cons, addAll, h, addEntries]

theorem addEntries_append_of_ok {draft next : RegistryDraft} {before : List PoolEntry}
    (h : draft.addEntries before = (.ok (), next)) (rest : List PoolEntry) :
    draft.addEntries (before ++ rest) = next.addEntries rest := by
  -- over the entries that are registered, of which none is refused
  induction before generalizing draft with
  | nil =>
      obtain rfl := (Prod.mk.inj h).2
      rfl
  | cons entry before ih =>
      rw [addEntries, List.map_cons, addAll] at h
      cases hadd : draft.add entry.config with
      | mk outcome middle =>
          cases outcome with
          | error e =>
              rw [hadd] at h
              cases (Prod.mk.inj h).1
          | ok done =>
              rw [hadd] at h
              rw [List.cons_append, addEntries_cons_of_ok hadd]
              exact ih h

end RegistryDraft

namespace PoolFile

/-! ## Registering the entries of a file -/

/-- The configurations that entries ask for, and the registry that they leave,
    registered in their order. -/
structure Registers (entries : List PoolEntry) (configs : List PoolConfig)
    (registry : Registry) : Prop where
  asked : entries.map PoolEntry.config = configs.map Except.ok
  registered : configs.foldlM Registry.register .empty = .ok registry

theorem forall₂_builtAs_iff {entries : List PoolEntry} {configs : List PoolConfig} :
    List.Forall₂ PoolEntry.BuiltAs entries configs ↔
      entries.map PoolEntry.config = configs.map Except.ok := by
  rw [← List.forall₂_eq_eq_eq, List.forall₂_map_left_iff, List.forall₂_map_right_iff]
  simp only [PoolEntry.config_eq_ok_iff]

namespace Registers

variable {entries : List PoolEntry} {configs : List PoolConfig} {registry : Registry}

theorem nil : Registers [] [] ({} : RegistryDraft).registry :=
  ⟨rfl, rfl⟩

theorem entries_perm (h : Registers entries configs registry) :
    registry.entries.Perm (configs.map Registry.keyed) :=
  Registry.entries_perm_of_foldlM h.registered

theorem mem_configs_iff (h : Registers entries configs registry) {config : PoolConfig} :
    config ∈ configs ↔ ∃ entry ∈ entries, entry.BuiltAs config := by
  have hmem : (.ok config : Except PoolError PoolConfig) ∈ entries.map PoolEntry.config ↔
      config ∈ configs := by
    rw [h.asked, List.mem_map]
    exact ⟨fun ⟨_, hmem, heq⟩ => Except.ok.inj heq ▸ hmem, fun hmem => ⟨config, hmem, rfl⟩⟩
  rw [← hmem, List.mem_map]
  simp only [PoolEntry.config_eq_ok_iff]

/-- The registry holds what is built for each entry, under its key. -/
theorem get?_eq_some_iff (h : Registers entries configs registry) {key : PoolKey}
    {config : PoolConfig} :
    registry.get? key = some config ↔ ∃ entry ∈ entries, entry.key = key ∧ entry.BuiltAs config := by
  rw [← KeyMap.mem_entries, h.entries_perm.mem_iff, List.mem_map]
  constructor
  · rintro ⟨config, hmem, ⟨⟩⟩
    obtain ⟨entry, hentry, hbuilt⟩ := h.mem_configs_iff.1 hmem
    have hkey := PoolEntry.key_of_config (PoolEntry.config_eq_ok_iff.2 hbuilt)
    exact ⟨entry, hentry, hkey.symm, hbuilt⟩
  · rintro ⟨entry, hentry, rfl, hbuilt⟩
    have hkey := PoolEntry.key_of_config (PoolEntry.config_eq_ok_iff.2 hbuilt)
    exact ⟨config, h.mem_configs_iff.2 ⟨entry, hentry, hbuilt⟩, by rw [Registry.keyed, hkey]⟩

/-- The registry holds the keys of the entries, each once. -/
theorem keys_perm (h : Registers entries configs registry) :
    registry.keys.Perm (entries.map PoolEntry.key) := by
  have hkeys : configs.map PoolConfig.key = entries.map PoolEntry.key := by
    rw [← List.forall₂_eq_eq_eq, List.forall₂_map_left_iff, List.forall₂_map_right_iff]
    refine List.Forall₂.flip ((forall₂_builtAs_iff.2 h.asked).imp fun entry config hbuilt => ?_)
    exact PoolEntry.key_of_config (PoolEntry.config_eq_ok_iff.2 hbuilt)
  rw [← hkeys]
  simpa [KeyMap.keys, Registry.keyed, Function.comp_def] using h.entries_perm.map Prod.fst

theorem size_eq (h : Registers entries configs registry) : registry.size = entries.length := by
  simpa [KeyMap.size, KeyMap.keys] using h.keys_perm.length_eq

theorem contains_iff (h : Registers entries configs registry) {key : PoolKey} :
    registry.contains key = true ↔ key ∈ entries.map PoolEntry.key := by
  rw [KeyMap.contains, ← KeyMap.mem_keys_iff]
  exact h.keys_perm.mem_iff

/-- Entries in another order leave the same registry. -/
theorem eq_of_perm {entries' : List PoolEntry} {configs' : List PoolConfig} {registry' : Registry}
    (h : Registers entries configs registry) (h' : Registers entries' configs' registry')
    (hperm : entries'.Perm entries) : registry' = registry := by
  have hconfigs : configs'.Perm configs := by
    have hasked := hperm.map PoolEntry.config
    rw [h.asked, h'.asked] at hasked
    exact (List.map_perm_map_iff fun _ _ => Except.ok.inj).1 hasked
  exact KeyMap.eq_of_entries_perm
    (h'.entries_perm.trans ((hconfigs.map Registry.keyed).trans h.entries_perm.symm))

/-! ### One entry -/

variable {draft : RegistryDraft} {entry : PoolEntry}

/-- An entry that breaks no rule is registered. -/
theorem add_of_loadable (h : Registers entries configs draft.registry)
    (hload : Loadable (entries ++ [entry])) :
    ∃ config next, draft.add entry.config = (.ok (), next) ∧
      Registers (entries ++ [entry]) (configs ++ [config]) next.registry := by
  obtain ⟨-, htarget, hsizes, hfree⟩ := loadable_snoc_iff.1 hload
  obtain ⟨config, hconfig⟩ := PoolEntry.exists_config htarget hsizes
  have hnone : draft.registry.get? config.key = none := by
    rw [← Option.not_isSome_iff_eq_none, PoolEntry.key_of_config hconfig]
    exact fun hsome => hfree (h.contains_iff.1 hsome)
  have hregister := Registry.register_of_get?_none hnone
  refine ⟨config, draft.extended config, ?_, ?_, ?_⟩
  · rw [hconfig, RegistryDraft.add_of_get?_none hnone]
  · rw [List.map_append, List.map_append, h.asked, List.map_singleton, List.map_singleton, hconfig]
  · rw [List.foldlM_append, h.registered]
    exact (bind_pure _).trans hregister

/-- An entry that breaks a rule is refused with the error that says so. -/
theorem add_of_breaks (h : Registers entries configs draft.registry) {cause : PoolError}
    (hbreaks : entry.Breaks entries cause) : draft.add entry.config = (.error cause, draft) := by
  cases hbreaks with
  | target htarget => rw [PoolEntry.config_of_not_hasOneTarget htarget, RegistryDraft.add]
  | sizes htarget hsizes =>
      rw [PoolEntry.config_of_ceiling_lt htarget hsizes, RegistryDraft.add]
  | duplicate htarget hsizes hkey =>
      obtain ⟨config, hconfig⟩ := PoolEntry.exists_config htarget hsizes
      have hcontains : draft.registry.contains config.key = true := by
        rw [PoolEntry.key_of_config hconfig]
        exact h.contains_iff.2 hkey
      rw [hconfig, RegistryDraft.add_of_contains hcontains, PoolEntry.key_of_config hconfig]

/-! ### All entries -/

/-- Entries that break no rule are registered one after another. -/
theorem addEntries_of_loadable (h : Registers entries configs draft.registry)
    {after : List PoolEntry} (hload : Loadable (entries ++ after)) :
    ∃ configs' next, draft.addEntries after = (.ok (), next) ∧
      Registers (entries ++ after) configs' next.registry := by
  -- over the entries still to come; that what was registered so far is what was
  -- asked for carries the induction
  induction after generalizing entries configs draft with
  | nil =>
      rw [List.append_nil]
      exact ⟨configs, draft, rfl, h⟩
  | cons entry rest ih =>
      rw [List.append_cons] at hload ⊢
      obtain ⟨config, next, hadd, hnext⟩ := h.add_of_loadable hload.of_append
      obtain ⟨configs', last, hrest, hlast⟩ := ih hnext hload
      exact ⟨configs', last, (RegistryDraft.addEntries_cons_of_ok hadd rest).trans hrest, hlast⟩

/-- Registration stops at the first entry that breaks a rule. -/
theorem addEntries_of_breaks (h : Registers entries configs draft.registry)
    {cause : PoolError} (hbreaks : entry.Breaks entries cause) (rest : List PoolEntry) :
    draft.addEntries (entry :: rest) = (.error cause, draft) := by
  rw [RegistryDraft.addEntries, List.map_cons, RegistryDraft.addAll, h.add_of_breaks hbreaks]

end Registers

/-! ## Loading a file -/

/-- Whether a registry is the one of a file with these entries: what is built for
    them, registered in their order, and nothing else. -/
structure Loads (entries : List PoolEntry) (registry : Registry) : Prop where
  built : ∃! configs, List.Forall₂ PoolEntry.BuiltAs entries configs
  registered : ∀ configs, List.Forall₂ PoolEntry.BuiltAs entries configs →
    configs.foldlM Registry.register .empty = .ok registry
  size : registry.size = entries.length
  holds : ∀ key config, registry.get? key = some config ↔
    ∃ entry ∈ entries, entry.key = key ∧ entry.BuiltAs config

theorem Registers.loads {entries : List PoolEntry} {configs : List PoolConfig}
    {registry : Registry} (h : Registers entries configs registry) : Loads entries registry := by
  have hunique : ∀ configs', List.Forall₂ PoolEntry.BuiltAs entries configs' → configs' = configs := by
    intro configs' hbuilt
    have hasked := (forall₂_builtAs_iff.1 hbuilt).symm.trans h.asked
    exact List.map_injective_iff.2 (fun _ _ => Except.ok.inj) hasked
  constructor
  case built => exact ⟨configs, forall₂_builtAs_iff.2 h.asked, hunique⟩
  case registered =>
    intro configs' hbuilt
    rw [hunique configs' hbuilt]
    exact h.registered
  case size => exact h.size_eq
  case holds => exact fun key config => h.get?_eq_some_iff

variable {ε : Type} {decode : String → Except ε (List PoolEntry)} (refuse : PoolError → ε)
  {text : String} {entries : List PoolEntry}

theorem load_of_addEntries (h : decode text = .ok entries) {draft : RegistryDraft}
    {outcome : Status} (hadd : RegistryDraft.addEntries {} entries = (outcome, draft)) :
    load decode refuse text = (outcome.mapError refuse, draft) := by
  rw [load, h]
  simp only [hadd]
  cases outcome <;> rfl

/-- A file of loadable entries is accepted. -/
theorem load_of_loadable (h : decode text = .ok entries) (hload : Loadable entries) :
    (load decode refuse text).1 = .ok () ∧
      ∃ configs, Registers entries configs (load decode refuse text).2.registry := by
  obtain ⟨configs, draft, hadd, hregisters⟩ := Registers.nil.addEntries_of_loadable hload
  rw [load_of_addEntries refuse h hadd]
  exact ⟨rfl, configs, hregisters⟩

/-- A file is refused for the first entry that breaks a rule. -/
theorem load_of_breaks {before after : List PoolEntry} {entry : PoolEntry} {cause : PoolError}
    (h : decode text = .ok (before ++ entry :: after)) (hload : Loadable before)
    (hbreaks : entry.Breaks before cause) :
    (load decode refuse text).1 = .error (refuse cause) := by
  obtain ⟨configs, draft, hadd, hregisters⟩ := Registers.nil.addEntries_of_loadable hload
  have hall : RegistryDraft.addEntries {} (before ++ entry :: after) = (.error cause, draft) :=
    (RegistryDraft.addEntries_append_of_ok hadd _).trans
      (hregisters.addEntries_of_breaks hbreaks after)
  rw [load_of_addEntries refuse h hall]
  rfl

/-- Whatever decodes the files, a file is accepted just if each of its entries has
    one target and a floor within its ceiling, and no two have the same key.  Its
    registry is the one that the configurations of its entries leave, built and
    registered by hand, and the entries in another order leave the same.  A file
    that is not accepted is refused for the first of its entries that breaks a
    rule. -/
theorem load_of_decodes (h : decode text = .ok entries) :
    ((load decode refuse text).1 = .ok () ↔ Loadable entries) ∧
      (Loadable entries → ∀ entries', entries'.Perm entries →
        Loads entries' (load decode refuse text).2.registry ∧
          ∀ text', decode text' = .ok entries' → (load decode refuse text').1 = .ok () ∧
            (load decode refuse text').2.registry = (load decode refuse text).2.registry) ∧
      ∀ error, (load decode refuse text).1 = .error error ↔
        ∃ before entry after cause, entries = before ++ entry :: after ∧ Loadable before ∧
          entry.Breaks before cause ∧ error = refuse cause := by
  have hcases := loadable_nil.append_or_breaks entries
  refine ⟨⟨fun hok => ?_, fun hload => (load_of_loadable refuse h hload).1⟩, ?_, fun error =>
    ⟨fun herror => ?_, ?_⟩⟩
  · -- a file that is accepted has no entry that breaks a rule
    rcases hcases with hload | ⟨before, entry, after, cause, rfl, hload, hbreaks⟩
    · exact hload
    · rw [load_of_breaks refuse h hload hbreaks] at hok
      cases hok
  · -- both orders leave what their configurations leave, and these are the same
    intro hload entries' hperm
    obtain ⟨-, configs, hregisters⟩ := load_of_loadable refuse h hload
    have hload' := hload.perm hperm
    obtain ⟨configs', draft', -, hregisters'⟩ := Registers.nil.addEntries_of_loadable hload'
    constructor
    · rw [← hregisters.eq_of_perm hregisters' hperm]
      exact hregisters'.loads
    · intro text' hdecodes'
      obtain ⟨hok, configs', hregisters'⟩ := load_of_loadable refuse hdecodes' hload'
      exact ⟨hok, hregisters.eq_of_perm hregisters' hperm⟩
  · -- a file that is refused is not loadable, so some entry is the first to break a rule
    rcases hcases with hload | ⟨before, entry, after, cause, rfl, hload, hbreaks⟩
    · rw [(load_of_loadable refuse h hload).1] at herror
      cases herror
    · rw [load_of_breaks refuse h hload hbreaks] at herror
      exact ⟨before, entry, after, cause, rfl, hload, hbreaks, (Except.error.inj herror).symm⟩
  · rintro ⟨before, entry, after, cause, rfl, hload, hbreaks, rfl⟩
    exact load_of_breaks refuse h hload hbreaks

/-- A pool on a connection string, with the sizes left open. -/
def mainPool : PoolEntry where
  key := "main"
  uri := some "u"

/-- A pool on parameters, with a batch. -/
def reportsPool : PoolEntry where
  key := "reports"
  minSize := 2
  spawnBatch := 3
  params := some ((KeyMap.empty.insert "host" "r").insert "dbname" "d")
  expandDbname := true

/-- A file with the two pools. -/
def twoPools : String :=
  "[[pool]]\nkey = \"main\"\nuri = \"u\"\n[[pool]]\nkey = \"reports\"\nmin_size = 2\n"
    ++ "spawn_batch = 3\nexpand_dbname = true\n[pool.params]\nhost = \"r\"\ndbname = \"d\"\n"

/-- The file of the two pools is accepted, and its pools in the other order leave
    the same registry. -/
theorem load_of_decodes_twoPools :
    PoolFile.decode twoPools = .ok [mainPool, reportsPool] ∧ (loadText twoPools).1 = .ok () ∧
      Loads [reportsPool, mainPool] (loadText twoPools).2.registry := by
  have hdecodes : PoolFile.decode twoPools = .ok [mainPool, reportsPool] := by decide +kernel
  have hload : Loadable [mainPool, reportsPool] := by
    constructor
    case targets => simp [PoolEntry.HasOneTarget, mainPool, reportsPool]
    case sizes => simp [PoolEntry.floor, PoolEntry.ceiling, mainPool, reportsPool]
    case keys => decide
  obtain ⟨haccepted, hregistry, -⟩ := load_of_decodes LoadError.pool hdecodes
  rw [loadText]
  exact ⟨hdecodes, haccepted.2 hload, (hregistry hload _ (.swap _ _ _)).1⟩

end PoolFile
end ConnPool
