/-
  ConnPool.Proofs.Context.Redaction

  What is left of a context when the contents of its targets are blotted out.

  Targets stand in the configurations only, those of the registry and those of
  the pools.  Redacting keeps everything else, and whatever can be seen of a
  context from outside is the same before and after.  A registry is filled
  without a look at what targets hold.
-/

import Mathlib.Data.List.Forall2
import ConnPool.Context.Audit
import ConnPool.Proofs.KeyMap

namespace ConnPool

/-! ## Targets -/

/-- A target of which the kind alone is left. -/
def Target.redacted : Target → Target
  | params .. => params [] false
  | uri _ => uri ""

@[simp] theorem Target.kind_redacted (target : Target) : target.redacted.kind = target.kind := by
  cases target with
  | params _ _ | uri _ => rfl

/-- Targets of one kind are the same once they are redacted. -/
theorem Target.redacted_eq_iff {target target' : Target} :
    target.redacted = target'.redacted ↔ target.kind = target'.kind := by
  constructor
  · intro h
    rw [← kind_redacted, h, kind_redacted]
  · intro h
    cases target with
    | params pairs expandDbname =>
        cases target' with
        | params _ _ => rfl
        | uri text => exact absurd (show "params" = "uri" from h) (by decide)
    | uri text =>
        cases target' with
        | params _ _ => exact absurd (show "uri" = "params" from h) (by decide)
        | uri _ => rfl

/-! ## Configurations and pools -/

namespace PoolConfig

/-- A configuration without the contents of its target. -/
def redacted (config : PoolConfig) : PoolConfig :=
  { config with target := config.target.redacted }

/-- The configuration with another target. -/
def towards (config : PoolConfig) (target : Target) : PoolConfig :=
  { config with target }

section

variable (config : PoolConfig) (target : Target)

@[simp] theorem target_towards : (config.towards target).target = target := rfl

@[simp] theorem maxSize_towards : (config.towards target).maxSize = config.maxSize := rfl

end

/-- Configurations that are the same once they are redacted have targets of one
    kind, and else are the same. -/
theorem eq_towards_of_redacted {config config' : PoolConfig}
    (h : config.redacted = config'.redacted) :
    ∃ target, config.target.kind = target.kind ∧ config' = config.towards target := by
  obtain ⟨key, target, minSize, maxSize, spawnBatch⟩ := config
  obtain ⟨key', target', minSize', maxSize', spawnBatch'⟩ := config'
  obtain ⟨rfl, htarget, rfl, rfl, rfl⟩ := PoolConfig.mk.inj h
  exact ⟨target', Target.redacted_eq_iff.1 htarget, rfl⟩

theorem redacted_towards (config : PoolConfig) {target : Target}
    (h : config.target.kind = target.kind) :
    (config.towards target).redacted = config.redacted := by
  rw [redacted, redacted, Target.redacted_eq_iff.2 h]
  rfl

end PoolConfig

/-- A registry without the contents of its targets. -/
def Registry.redacted (registry : Registry) : Registry :=
  registry.map PoolConfig.redacted

namespace Pool

/-- A pool without the contents of its target. -/
def redacted (pool : Pool) : Pool :=
  { pool with config := pool.config.redacted }

/-- The pool with another target. -/
def towards (pool : Pool) (target : Target) : Pool :=
  { pool with config := pool.config.towards target }

section

variable (pool : Pool) (target : Target)

@[simp] theorem config_towards : (pool.towards target).config = pool.config.towards target := rfl

@[simp] theorem size_towards : (pool.towards target).size = pool.size := rfl

@[simp] theorem room_towards : (pool.towards target).room = pool.room := rfl

@[simp] theorem load_towards : (pool.towards target).load = pool.load := rfl

@[simp] theorem isSlack_towards : (pool.towards target).isSlack = pool.isSlack := rfl

end

theorem eq_towards_of_redacted {pool pool' : Pool} (h : pool.redacted = pool'.redacted) :
    ∃ target, pool.config.target.kind = target.kind ∧ pool' = pool.towards target := by
  obtain ⟨config, free, busy, overflowCount⟩ := pool
  obtain ⟨config', free', busy', overflowCount'⟩ := pool'
  obtain ⟨hconfig, rfl, rfl, rfl⟩ := Pool.mk.inj h
  obtain ⟨target, hkind, rfl⟩ := PoolConfig.eq_towards_of_redacted hconfig
  exact ⟨target, hkind, rfl⟩

theorem redacted_towards (pool : Pool) {target : Target}
    (h : pool.config.target.kind = target.kind) :
    (pool.towards target).redacted = pool.redacted := by
  rw [redacted, redacted, ← PoolConfig.redacted_towards pool.config h]
  rfl

end Pool

/-! ## Filling a registry -/

/-- The sizes of a configuration are checked whatever its target is. -/
theorem PoolConfig.map_redacted_ofSizes (key : PoolKey) (target : Target) (minSize maxSize : Nat) :
    (ofSizes key target minSize maxSize).map redacted =
      ofSizes key target.redacted minSize maxSize := by
  simp only [ofSizes]
  split
  · rfl
  · rfl

/-- Whether two requests for a pool differ in the contents of their targets
    only. -/
inductive PoolRequest.Alike : PoolRequest → PoolRequest → Prop
  | uri (key : PoolKey) (minSize maxSize : Nat) (text text' : String) :
      Alike (.uri key minSize maxSize text) (.uri key minSize maxSize text')
  | params (key : PoolKey) (minSize maxSize : Nat) {keys keys' values values' : List String}
      (hkeys : keys.length = keys'.length) (hvalues : values.length = values'.length)
      (expandDbname expandDbname' : Bool) :
      Alike (.params key minSize maxSize keys values expandDbname)
        (.params key minSize maxSize keys' values' expandDbname')
  | batched (key : PoolKey) (minSize maxSize : Nat) (text text' : String) (batch : Nat) :
      Alike (.batched key minSize maxSize text batch) (.batched key minSize maxSize text' batch)
  | raw {config config' : PoolConfig} (h : config.redacted = config'.redacted) :
      Alike (.raw config) (.raw config')

/-- Requests that differ in the contents of their targets are answered by one
    error, or by configurations that do. -/
theorem PoolRequest.Alike.map_config {request request' : PoolRequest} (h : request.Alike request') :
    request.config.map PoolConfig.redacted = request'.config.map PoolConfig.redacted := by
  cases h with
  | uri key minSize maxSize text text' =>
      rw [config, config, PoolConfig.map_redacted_ofSizes, PoolConfig.map_redacted_ofSizes]
      rfl
  | params key minSize maxSize hkeys hvalues expandDbname expandDbname' =>
      -- a mismatch is told by the two numbers, which are the same
      rw [config, config, Target.ofLists, Target.ofLists, hkeys, hvalues]
      split
      · exact (PoolConfig.map_redacted_ofSizes key (.params _ _) minSize maxSize).trans
          (PoolConfig.map_redacted_ofSizes key (.params _ expandDbname') minSize maxSize).symm
      · rfl
  | batched key minSize maxSize text text' batch =>
      -- the batch is set whatever the target is
      have hbatch : ∀ outcome : Except PoolError PoolConfig,
          (outcome >>= fun config => pure (config.withBatch batch)).map PoolConfig.redacted =
            (outcome.map PoolConfig.redacted).map (·.withBatch batch) := by
        intro outcome
        cases outcome with
        | error e | ok config => rfl
      rw [config, config, hbatch, hbatch, PoolConfig.map_redacted_ofSizes,
        PoolConfig.map_redacted_ofSizes]
      rfl
  | raw h => exact congrArg Except.ok h

namespace RegistryDraft

/-- A registry being filled, without the contents of its targets. -/
def redacted (draft : RegistryDraft) : RegistryDraft :=
  { draft with registry := draft.registry.redacted }

/-- Adding a configuration and redacting commute, and the outcome is the same. -/
theorem add_redacted (draft : RegistryDraft) (config : Except PoolError PoolConfig) :
    draft.redacted.add (config.map PoolConfig.redacted) =
      ((draft.add config).1, (draft.add config).2.redacted) := by
  cases config with
  | error e => rfl
  | ok config =>
      have hcontains : draft.redacted.registry.contains config.redacted.key =
          draft.registry.contains config.key := by
        show ((draft.registry.map PoolConfig.redacted).get? config.key).isSome = _
        rw [KeyMap.get?_map, Option.isSome_map]
        rfl
      show draft.redacted.add (.ok config.redacted) = _
      simp only [add, Registry.register, hcontains]
      by_cases htaken : draft.registry.contains config.key
      · rw [if_pos htaken, if_pos htaken]
        rfl
      · rw [if_neg htaken, if_neg htaken]
        have hregistry : draft.redacted.registry.insert config.redacted.key config.redacted =
            Registry.redacted (draft.registry.insert config.key config) :=
          (KeyMap.map_insert PoolConfig.redacted draft.registry config.key config).symm
        have hrecord : registered config.redacted = registered config := by
          rw [registered, registered]
          exact congrArg (LogRecord.poolRegistered _ · _ _) config.target.kind_redacted
        simp only [hregistry, hrecord]
        rfl

theorem addAll_redacted (draft : RegistryDraft) (configs : List (Except PoolError PoolConfig)) :
    draft.redacted.addAll (configs.map (·.map PoolConfig.redacted)) =
      ((draft.addAll configs).1, (draft.addAll configs).2.redacted) := by
  induction configs generalizing draft with
  | nil => rfl
  | cons config rest ih =>
      rw [List.map_cons, addAll, addAll, add_redacted]
      rcases draft.add config with ⟨status, draft'⟩
      cases status with
      | error e => rfl
      | ok done => exact ih draft'

/-- Registries that are filled with configurations that differ in the contents
    of their targets come to differ in them only. -/
theorem addAll_of_alike (draft : RegistryDraft) {requests requests' : List PoolRequest}
    (h : List.Forall₂ PoolRequest.Alike requests requests') :
    (draft.addAll (requests.map PoolRequest.config)).1 =
        (draft.addAll (requests'.map PoolRequest.config)).1 ∧
      (draft.addAll (requests.map PoolRequest.config)).2.log =
        (draft.addAll (requests'.map PoolRequest.config)).2.log ∧
      (draft.addAll (requests.map PoolRequest.config)).2.registry.redacted =
        (draft.addAll (requests'.map PoolRequest.config)).2.registry.redacted := by
  have hconfigs : (requests.map PoolRequest.config).map (·.map PoolConfig.redacted) =
      (requests'.map PoolRequest.config).map (·.map PoolConfig.redacted) := by
    induction h with
    | nil => rfl
    | cons hrequest _ ih =>
        rw [List.map_cons, List.map_cons, List.map_cons, List.map_cons, hrequest.map_config, ih]
  have hsame := addAll_redacted draft (requests.map PoolRequest.config)
  rw [hconfigs, addAll_redacted] at hsame
  obtain ⟨hstatus, hdraft⟩ := Prod.mk.inj hsame
  obtain ⟨hregistry, hlog⟩ := RegistryDraft.mk.inj hdraft
  exact ⟨hstatus.symm, hlog.symm, hregistry.symm⟩

end RegistryDraft

/-! ## Contexts -/

namespace Context

variable {ρ κ : Type}

/-- A context without the contents of its targets. -/
def redacted (ctx : Context ρ κ) : Context ρ κ :=
  { ctx with configs := ctx.configs.redacted, pools := ctx.pools.map Pool.redacted }

section

variable (ctx : Context ρ κ)

/-! ## Looking at a context -/

theorem figures?_redacted (key : PoolKey) : ctx.redacted.figures? key = ctx.figures? key := by
  rw [figures?, redacted, KeyMap.get?_map, Option.map_map]
  rfl

theorem statistics_redacted : ctx.redacted.statistics = ctx.statistics := by
  rw [statistics, redacted, KeyMap.map, List.map_map]
  rfl

theorem summary_redacted : ctx.redacted.summary = ctx.summary := by
  have hcount : ctx.redacted.count = ctx.count := rfl
  have hregistry : ctx.redacted.registry = ctx.registry := rfl
  have hpools : ctx.redacted.pools.size = ctx.pools.size := List.length_map _
  unfold summary
  rw [hcount, hregistry, hpools]

theorem collection_redacted (membership : Membership) :
    ctx.redacted.collection membership = ctx.collection membership := by
  cases membership with
  | registry => rfl
  | free key | busy key =>
      rw [collection, redacted, KeyMap.get?_map, Option.map_map]
      rfl

theorem allFree_redacted : ctx.redacted.allFree = ctx.allFree := by
  rw [allFree, redacted, KeyMap.values, KeyMap.map, List.map_map, List.flatMap_map, allFree,
    KeyMap.values, List.flatMap_map]
  rfl

theorem allBusy_redacted : ctx.redacted.allBusy = ctx.allBusy := by
  rw [allBusy, redacted, KeyMap.values, KeyMap.map, List.map_map, List.flatMap_map, allBusy,
    KeyMap.values, List.flatMap_map]
  rfl

theorem connFault?_redacted (id : ConnId) (conn : Connection ρ κ) :
    ctx.redacted.connFault? id conn = ctx.connFault? id conn := by
  have hregistry : ctx.redacted.registry = ctx.registry := rfl
  rw [connFault?, connFault?, allFree_redacted, allBusy_redacted, collection_redacted, hregistry]

theorem findSome?_redacted {α : Type} {f : PoolKey × Pool → Option α}
    (h : ∀ key pool, f (key, pool.redacted) = f (key, pool)) :
    ctx.redacted.pools.entries.findSome? f = ctx.pools.entries.findSome? f := by
  rw [redacted, KeyMap.map, List.findSome?_map]
  exact congrArg (ctx.pools.entries.findSome? ·) (funext fun entry => h entry.1 entry.2)

/-- An audit finds the same fault, or none. -/
theorem audit_redacted : ctx.redacted.audit = ctx.audit := by
  have hconns : ctx.redacted.conns = ctx.conns := rfl
  have hregistry : ctx.redacted.registry = ctx.registry := rfl
  rw [audit, audit, auditFault?, auditFault?, hconns, hregistry, allFree_redacted,
    allBusy_redacted, findSome?_redacted ctx fun _ _ => rfl]
  simp only [connFault?_redacted]

/-! ## Changing a context -/

theorem redacted_modifyPool (key : PoolKey) {f g : Pool → Pool}
    (h : ∀ pool, (f pool).redacted = g pool.redacted) :
    (ctx.modifyPool key f).redacted = ctx.redacted.modifyPool key g := by
  rw [modifyPool, redacted, KeyMap.map_modify Pool.redacted ctx.pools key h]
  rfl

theorem redacted_insertPool (key : PoolKey) (pool : Pool) :
    { ctx with pools := ctx.pools.insert key pool }.redacted =
      { ctx.redacted with pools := ctx.redacted.pools.insert key pool.redacted } := by
  rw [redacted, KeyMap.map_insert]
  rfl

theorem redacted_strike (id : ConnId) (membership : Membership) :
    (ctx.strike id membership).redacted = ctx.redacted.strike id membership := by
  cases membership with
  | registry => rfl
  | free key | busy key => exact redacted_modifyPool ctx key fun _ => rfl

theorem redacted_enlist (id : ConnId) (membership : Membership) :
    (ctx.enlist id membership).redacted = ctx.redacted.enlist id membership := by
  cases membership with
  | registry => rfl
  | free key | busy key => exact redacted_modifyPool ctx key fun _ => rfl

end

/-! ## Contexts that look the same -/

/-- Whether two contexts look the same from outside. -/
structure LooksLike (ctx ctx' : Context ρ κ) : Prop where
  conns : ctx.conns = ctx'.conns
  collections : ∀ membership, ctx.collection membership = ctx'.collection membership
  figures : ∀ key, ctx.figures? key = ctx'.figures? key
  statistics : ctx.statistics = ctx'.statistics
  summary : ctx.summary = ctx'.summary
  audit : ctx.audit = ctx'.audit

variable {ctx ctx' : Context ρ κ}

/-- Contexts that are the same once they are redacted look the same as they
    are. -/
theorem looksLike_of_redacted (h : ctx.redacted = ctx'.redacted) : ctx.LooksLike ctx' where
  conns := (congrArg Context.conns h : ctx.redacted.conns = ctx'.redacted.conns)
  collections membership := by
    rw [← collection_redacted, h, collection_redacted]
  figures key := by
    rw [← figures?_redacted, h, figures?_redacted]
  statistics := by
    rw [← statistics_redacted, h, statistics_redacted]
  summary := by
    rw [← summary_redacted, h, summary_redacted]
  audit := by
    rw [← audit_redacted, h, audit_redacted]

end Context
end ConnPool
