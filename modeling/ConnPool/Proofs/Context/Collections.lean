/-
  ConnPool.Proofs.Context.Collections

  A context seen through its collections.

  `collection` lists the ids under a membership and `poolConfig?` tells the
  configuration of a pool; the registry list and the pools matter to the rest
  of the theory only through these two.  Here is what `enlist` and `strike` do
  to them, and the three ways in which a connection changes its place:
  `takeIn` lists a new one, `transfer` moves one from one collection to
  another, and `without` drops one.
-/

import ConnPool.Context.Audit
import ConnPool.Proofs.Arena.WellFormed
import ConnPool.Proofs.KeyMap

namespace ConnPool
namespace Context

variable {ρ κ : Type}

/-! ## Pools -/

/-- The configuration of the pool under `key`, once it exists. -/
def poolConfig? (ctx : Context ρ κ) (key : PoolKey) : Option PoolConfig :=
  (ctx.pools.get? key).map Pool.config

/-- How many connections the pool under `key` lists. -/
def poolSize (ctx : Context ρ κ) (key : PoolKey) : Nat :=
  (ctx.collection (.free key)).length + (ctx.collection (.busy key)).length

/-- The collection that `membership` names exists, and its pool has room for
    one connection more. -/
def HasRoom (ctx : Context ρ κ) (membership : Membership) : Prop :=
  ∀ key, membership.pool? = some key →
    ∃ config, ctx.poolConfig? key = some config ∧ ctx.poolSize key < config.maxSize

/-- The collection that `membership` names exists. -/
def HasCollection (ctx : Context ρ κ) (membership : Membership) : Prop :=
  ∀ key, membership.pool? = some key → (ctx.poolConfig? key).isSome

theorem HasRoom.hasCollection {ctx : Context ρ κ} {membership : Membership}
    (h : ctx.HasRoom membership) : ctx.HasCollection membership := fun key hkey => by
  obtain ⟨config, hconfig, -⟩ := h key hkey
  rw [hconfig]
  rfl

theorem hasRoom_registry (ctx : Context ρ κ) : ctx.HasRoom .registry := by
  intro key hkey
  cases hkey

theorem poolConfig?_of_get? {ctx : Context ρ κ} {key : PoolKey} {pool : Pool}
    (h : ctx.pools.get? key = some pool) : ctx.poolConfig? key = some pool.config := by
  rw [poolConfig?, h]
  rfl

theorem exists_pool_of_poolConfig? {ctx : Context ρ κ} {key : PoolKey}
    (h : (ctx.poolConfig? key).isSome) : ∃ pool, ctx.pools.get? key = some pool := by
  rw [poolConfig?, Option.isSome_map] at h
  exact Option.isSome_iff_exists.1 h

theorem collection_free_of_get? {ctx : Context ρ κ} {key : PoolKey} {pool : Pool}
    (h : ctx.pools.get? key = some pool) : ctx.collection (.free key) = pool.free := by
  rw [collection, h]
  rfl

theorem collection_busy_of_get? {ctx : Context ρ κ} {key : PoolKey} {pool : Pool}
    (h : ctx.pools.get? key = some pool) : ctx.collection (.busy key) = pool.busy := by
  rw [collection, h]
  rfl

/-- A pool that is not full has room for an idle connection. -/
theorem hasRoom_free {ctx : Context ρ κ} {key : PoolKey} {config : PoolConfig}
    (hconfig : ctx.poolConfig? key = some config) (hroom : ctx.poolSize key < config.maxSize) :
    ctx.HasRoom (.free key) := by
  intro k hk
  obtain rfl : key = k := Option.some.inj hk
  exact ⟨config, hconfig, hroom⟩

theorem poolSize_of_get? {ctx : Context ρ κ} {key : PoolKey} {pool : Pool}
    (h : ctx.pools.get? key = some pool) : ctx.poolSize key = pool.size := by
  rw [poolSize, collection_free_of_get? h, collection_busy_of_get? h, Pool.size]

/-- Where a collection has anything in it, its pool exists. -/
theorem hasCollection_of_mem {ctx : Context ρ κ} {membership : Membership} {id : ConnId}
    (h : id ∈ ctx.collection membership) : ctx.HasCollection membership := by
  intro key hkey
  cases membership with
  | registry => cases hkey
  | free k | busy k =>
      obtain rfl : k = key := Option.some.inj hkey
      simp only [collection] at h
      cases hp : ctx.pools.get? k with
      | none => simp [hp] at h
      | some pool => simp [poolConfig?, hp]

/-! ## Listing and striking -/

/-- `enlist` puts the id at the end of one collection. -/
theorem collection_enlist {ctx : Context ρ κ} {membership : Membership}
    (h : ctx.HasCollection membership) (id : ConnId) (other : Membership) :
    (ctx.enlist id membership).collection other =
      if other = membership then ctx.collection membership ++ [id] else ctx.collection other := by
  cases membership with
  | registry => cases other <;> simp [enlist, collection]
  | free key | busy key =>
      have hsome := h key rfl
      obtain ⟨pool, hp⟩ : ∃ pool, ctx.pools.get? key = some pool := by
        simpa [poolConfig?, Option.isSome_iff_exists] using hsome
      cases other with
      | registry => simp [enlist, modifyPool, collection]
      | free k | busy k =>
          by_cases hk : k = key
          · subst hk
            simp [enlist, modifyPool, collection, KeyMap.get?_modify, hp, Pool.pushFree,
              Pool.pushBusy]
          · simp [enlist, modifyPool, collection, KeyMap.get?_modify, hk]

/-- `strike` takes the id out of one collection. -/
theorem collection_strike (ctx : Context ρ κ) (id : ConnId) (membership other : Membership) :
    (ctx.strike id membership).collection other =
      if other = membership then (ctx.collection membership).filter (· ≠ id)
      else ctx.collection other := by
  cases membership with
  | registry => cases other <;> simp [strike, collection]
  | free key | busy key =>
      cases other with
      | registry => simp [strike, modifyPool, collection]
      | free k | busy k =>
          by_cases hk : k = key
          · subst hk
            cases hp : ctx.pools.get? k <;>
              simp [strike, modifyPool, collection, KeyMap.get?_modify, hp, Pool.dropFree,
                Pool.dropBusy]
          · simp [strike, modifyPool, collection, KeyMap.get?_modify, hk]

/-- A new pool lists as much as one that does not exist: nothing. -/
theorem collection_createPool {ctx : Context ρ κ} {key : PoolKey} (config : PoolConfig)
    (h : ctx.pools.get? key = none) (membership : Membership) :
    { ctx with pools := ctx.pools.insert key { config } }.collection membership =
      ctx.collection membership := by
  cases membership with
  | registry => rfl
  | free k | busy k =>
      by_cases hk : k = key
      · subst hk
        simp [collection, h]
      · simp [collection, KeyMap.get?_insert_of_ne _ hk]

/-- A change of a pool that keeps its lists. -/
theorem collection_modifyPool {ctx : Context ρ κ} {key : PoolKey} {f : Pool → Pool}
    (hfree : ∀ pool, (f pool).free = pool.free) (hbusy : ∀ pool, (f pool).busy = pool.busy)
    (membership : Membership) :
    (ctx.modifyPool key f).collection membership = ctx.collection membership := by
  cases membership with
  | registry => rfl
  | free k | busy k =>
      simp only [collection, modifyPool, KeyMap.get?_modify]
      by_cases hk : k = key
      · cases hp : ctx.pools.get? k <;> simp [hk, hfree, hbusy]
      · simp [hk]

/-- A change of a pool that keeps its configuration. -/
theorem poolConfig?_modifyPool {ctx : Context ρ κ} {key : PoolKey} {f : Pool → Pool}
    (hf : ∀ pool, (f pool).config = pool.config) (other : PoolKey) :
    (ctx.modifyPool key f).poolConfig? other = ctx.poolConfig? other := by
  simp only [poolConfig?, modifyPool, KeyMap.get?_modify]
  split
  · rw [Option.map_map]
    exact Option.map_congr fun pool _ => hf pool
  · rfl

@[simp] theorem poolConfig?_enlist (ctx : Context ρ κ) (id : ConnId) (membership : Membership)
    (key : PoolKey) : (ctx.enlist id membership).poolConfig? key = ctx.poolConfig? key := by
  cases membership with
  | registry => rfl
  | free k => exact poolConfig?_modifyPool (f := (·.pushFree id)) (fun _ => rfl) key
  | busy k => exact poolConfig?_modifyPool (f := (·.pushBusy id)) (fun _ => rfl) key

@[simp] theorem poolConfig?_strike (ctx : Context ρ κ) (id : ConnId) (membership : Membership)
    (key : PoolKey) : (ctx.strike id membership).poolConfig? key = ctx.poolConfig? key := by
  cases membership with
  | registry => rfl
  | free k => exact poolConfig?_modifyPool (f := (·.dropFree id)) (fun _ => rfl) key
  | busy k => exact poolConfig?_modifyPool (f := (·.dropBusy id)) (fun _ => rfl) key

@[simp] theorem conns_enlist (ctx : Context ρ κ) (id : ConnId) (membership : Membership) :
    (ctx.enlist id membership).conns = ctx.conns := by
  cases membership <;> rfl

@[simp] theorem conns_strike (ctx : Context ρ κ) (id : ConnId) (membership : Membership) :
    (ctx.strike id membership).conns = ctx.conns := by
  cases membership <;> rfl

/-- Striking an id that is not listed there changes nothing. -/
theorem strike_eq_self {ctx : Context ρ κ} {id : ConnId} {membership : Membership}
    (h : id ∉ ctx.collection membership) : ctx.strike id membership = ctx := by
  -- a list without the id is its own filtering; modifying a pool by it changes nothing
  have hfilter : ∀ ids : List ConnId, id ∉ ids → ids.filter (· ≠ id) = ids := fun ids hnot =>
    List.filter_eq_self.2 fun x hx => by
      simp only [ne_eq, decide_not, Bool.not_eq_eq_eq_not, Bool.not_true, decide_eq_false_iff_not]
      rintro rfl
      exact hnot hx
  cases membership with
  | registry =>
      have hregistry : ctx.registry.filter (· ≠ id) = ctx.registry := hfilter ctx.registry h
      simp only [strike, hregistry]
  | free key =>
      have hpools : ctx.pools.modify key (·.dropFree id) = ctx.pools :=
        KeyMap.modify_eq_self fun pool hp => by
          rw [collection_free_of_get? hp] at h
          simp only [Pool.dropFree, hfilter _ h]
      simp only [strike, modifyPool, hpools]
  | busy key =>
      have hpools : ctx.pools.modify key (·.dropBusy id) = ctx.pools :=
        KeyMap.modify_eq_self fun pool hp => by
          rw [collection_busy_of_get? hp] at h
          simp only [Pool.dropBusy, hfilter _ h]
      simp only [strike, modifyPool, hpools]

end Context
end ConnPool
