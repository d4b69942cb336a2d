/-
  ConnPool.Proofs.Context.Orderly

  The membership invariant.  A context is `Orderly` if each collection lists,
  without repetition, exactly the live connections whose membership names it,
  and no pool is larger than its configuration allows.

  Every way in which a connection changes its place keeps this, provided that
  the place where it goes exists and has room.
-/

import ConnPool.Proofs.Context.Placement

namespace ConnPool

namespace Membership

/-- One if `key` names the pool of `membership`, else nothing. -/
def share (membership : Membership) (key : PoolKey) : Nat :=
  if membership.pool? = some key then 1 else 0

theorem share_eq (membership : Membership) (key : PoolKey) :
    membership.share key =
      (if free key = membership then 1 else 0) +
        (if busy key = membership then 1 else 0) := by
  cases membership with
  | registry => simp [share, pool?]
  | free k | busy k =>
      by_cases hk : key = k
      · simp [share, pool?, hk]
      · simp [share, pool?, hk, Ne.symm hk]

end Membership

namespace Context

variable {ρ κ : Type}

/-- The membership of the connection under `id`. -/
def membership? (ctx : Context ρ κ) (id : ConnId) : Option Membership :=
  (ctx.conn? id).map (·.membership)

/-- The collections list the live connections where these belong, and pools
    keep their bounds. -/
structure Orderly (ctx : Context ρ κ) : Prop where
  arena : ctx.conns.WellFormed
  nodup : ∀ membership, (ctx.collection membership).Nodup
  mem_collection : ∀ membership id,
    id ∈ ctx.collection membership ↔ ctx.membership? id = some membership
  size_le : ∀ key config, ctx.poolConfig? key = some config → ctx.poolSize key ≤ config.maxSize

theorem membership?_of_conn? {ctx : Context ρ κ} {id : ConnId} {conn : Connection ρ κ}
    (h : ctx.conn? id = some conn) : ctx.membership? id = some conn.membership := by
  rw [membership?, h]
  rfl

/-- A context without connections and pools is in order. -/
theorem Orderly.fresh (configs : Registry) : ({ configs } : Context ρ κ).Orderly where
  arena := Arena.WellFormed.empty
  nodup membership := by cases membership <;> exact List.nodup_nil
  mem_collection membership id := by
    have hlive : ({ configs } : Context ρ κ).membership? id = none := by
      simp only [membership?, conn?]
      exact congrArg _ (Arena.get?_empty id)
    rw [hlive]
    cases membership <;> simp [collection, KeyMap.get?]
  size_le key config h := by simp [poolConfig?, KeyMap.get?] at h

section

variable {ctx : Context ρ κ} {id : ConnId} {conn : Connection ρ κ}

theorem Orderly.mem_of_conn? (hw : ctx.Orderly) (h : ctx.conn? id = some conn) :
    id ∈ ctx.collection conn.membership :=
  (hw.mem_collection _ _).2 (membership?_of_conn? h)

/-- What is listed is live. -/
theorem Orderly.conn?_of_mem (hw : ctx.Orderly) {membership : Membership}
    (h : id ∈ ctx.collection membership) :
    ∃ conn, ctx.conn? id = some conn ∧ conn.membership = membership :=
  Option.map_eq_some_iff.1 ((hw.mem_collection membership id).1 h)

/-- A stale id is listed nowhere. -/
theorem Orderly.not_mem (hw : ctx.Orderly) (h : ctx.conn? id = none) (membership : Membership) :
    id ∉ ctx.collection membership := by
  rw [hw.mem_collection, membership?, h]
  intro hlisted
  cases hlisted

/-- A pool is within its ceiling. -/
theorem Orderly.size_le_of_get? (hw : ctx.Orderly) {key : PoolKey} {pool : Pool}
    (h : ctx.pools.get? key = some pool) : pool.size ≤ pool.config.maxSize := by
  have hsize := hw.size_le key _ (poolConfig?_of_get? h)
  rwa [poolSize_of_get? h] at hsize

/-- The pool of a connection that is idle or lent exists. -/
theorem Orderly.hasCollection (hw : ctx.Orderly) (h : ctx.conn? id = some conn) :
    ctx.HasCollection conn.membership :=
  hasCollection_of_mem (hw.mem_of_conn? h)

end

/-! ## Sizes -/

theorem erase_eq_filter_ne {ids : List ConnId} (hn : ids.Nodup) (id : ConnId) :
    ids.erase id = ids.filter (· ≠ id) := by
  rw [hn.erase_eq_filter]
  exact List.filter_congr fun x _ => by simp [bne, BEq.beq]

/-- Striking a listed id makes a list shorter by one. -/
theorem length_filter_ne {ids : List ConnId} {id : ConnId} (hn : ids.Nodup) (h : id ∈ ids) :
    (ids.filter (· ≠ id)).length + 1 = ids.length := by
  rw [← erase_eq_filter_ne hn, List.length_erase_of_mem h]
  have := List.length_pos_of_mem h
  omega

section

variable {ctx : Context ρ κ} {id : ConnId} {conn : Connection ρ κ}
  {f : Connection ρ κ → Connection ρ κ}

theorem poolSize_takeIn (h : ctx.HasCollection conn.membership) (key : PoolKey) :
    (ctx.takeIn conn).poolSize key = ctx.poolSize key + conn.membership.share key := by
  -- first for each collection, then for the two of the pool
  have hlen : ∀ m, ((ctx.takeIn conn).collection m).length =
      (ctx.collection m).length + if m = conn.membership then 1 else 0 := by
    intro m
    rw [collection_takeIn h]
    by_cases hm : m = conn.membership <;> simp [hm]
  rw [poolSize, poolSize, hlen, hlen, Membership.share_eq]
  omega

theorem Orderly.poolSize_without (hw : ctx.Orderly) (h : ctx.conn? id = some conn)
    (key : PoolKey) :
    (ctx.without id conn).poolSize key + conn.membership.share key =
      ctx.poolSize key := by
  have hlen : ∀ m, ((ctx.without id conn).collection m).length +
      (if m = conn.membership then 1 else 0) = (ctx.collection m).length := by
    intro m
    rw [collection_without]
    by_cases hm : m = conn.membership
    · rw [if_pos hm, if_pos hm, hm]
      exact length_filter_ne (hw.nodup _) (hw.mem_of_conn? h)
    · rw [if_neg hm, if_neg hm, Nat.add_zero]
  -- the size of a pool is that of its two lists
  have hfree := hlen (.free key)
  have hbusy := hlen (.busy key)
  rw [poolSize, poolSize, Membership.share_eq]
  omega

theorem Orderly.poolSize_transfer (hw : ctx.Orderly) (h : ctx.conn? id = some conn)
    (hf : ctx.HasCollection (f conn).membership) (key : PoolKey) :
    (ctx.transfer id conn f).poolSize key + conn.membership.share key =
      ctx.poolSize key + (f conn).membership.share key := by
  -- a collection that is both the old one and the new one loses an id and gains it
  have hlen : ∀ m, ((ctx.transfer id conn f).collection m).length +
      (if m = conn.membership then 1 else 0) =
      (ctx.collection m).length + if m = (f conn).membership then 1 else 0 := by
    intro m
    rw [collection_transfer hf, List.length_append]
    have hnew : (if m = (f conn).membership then [id] else []).length =
        if m = (f conn).membership then 1 else 0 := by
      split <;> rfl
    by_cases hm : m = conn.membership
    · have hstrike := length_filter_ne (hw.nodup _) (hw.mem_of_conn? h)
      rw [← hm] at hstrike
      rw [if_pos hm, if_pos hm, hnew]
      omega
    · rw [if_neg hm, if_neg hm, hnew, Nat.add_zero]
  have hfree := hlen (.free key)
  have hbusy := hlen (.busy key)
  rw [poolSize, poolSize, Membership.share_eq, Membership.share_eq]
  omega

end

/-! ## What keeps a context in order -/

section

variable {ctx : Context ρ κ} {id : ConnId} {conn : Connection ρ κ}
  {f : Connection ρ κ → Connection ρ κ}

/-- Contexts with the same memberships, collections and configurations are
    in order together. -/
theorem Orderly.of_same {ctx' : Context ρ κ} (hw : ctx.Orderly) (harena : ctx'.conns.WellFormed)
    (hmembership : ∀ id, ctx'.membership? id = ctx.membership? id)
    (hcollection : ∀ membership, ctx'.collection membership = ctx.collection membership)
    (hconfig : ∀ key, ctx'.poolConfig? key = ctx.poolConfig? key) : ctx'.Orderly where
  arena := harena
  nodup membership := by
    rw [hcollection]
    exact hw.nodup membership
  mem_collection membership id := by
    rw [hcollection, hmembership]
    exact hw.mem_collection membership id
  size_le key config h := by
    rw [hconfig] at h
    simp only [poolSize, hcollection]
    exact hw.size_le key config h

theorem Orderly.attempt (hw : ctx.Orderly) (ha : (ctx.conns.insert conn).2.Addressable) :
    (ctx.attempt conn).Orderly := by
  refine hw.of_same ((hw.arena.insert conn).remove _) (fun id => ?_) (fun m => ?_) fun key => ?_
  · rw [membership?, conn?_attempt hw.arena ha]
    rfl
  · exact collection_attempt ctx conn m
  · rfl

/-- Taking a connection out that was put in but not listed yet. -/
theorem Orderly.without_insert (hw : ctx.Orderly) (ha : (ctx.conns.insert conn).2.Addressable) :
    { ctx with conns := (ctx.conns.insert conn).2 }.without (ctx.nextId conn) conn =
      ctx.attempt conn := by
  rw [Context.without, strike_eq_self]
  · rfl
  · rw [collection_conns, collection_conns]
    exact hw.not_mem (conn?_nextId hw.arena ha) conn.membership

/-- Changing and listing a connection that was put in. -/
theorem Orderly.enlist_insert (hw : ctx.Orderly) (ha : (ctx.conns.insert conn).2.Addressable)
    (hf : (f conn).membership = conn.membership) :
    ({ ctx with conns := (ctx.conns.insert conn).2 }.modifyConn (ctx.nextId conn) f).enlist
        (ctx.nextId conn) conn.membership =
      ctx.takeIn (f conn) := by
  rw [Context.takeIn, ← hf, nextId_congr ctx (f conn) conn]
  congr 1
  simp only [Context.modifyConn, nextId, Arena.modify_insert hw.arena ha]

/-- Changing a connection in its place keeps the order. -/
theorem Orderly.modifyConn (hw : ctx.Orderly)
    (hf : ∀ conn, ctx.conn? id = some conn → (f conn).membership = conn.membership) :
    (ctx.modifyConn id f).Orderly := by
  refine hw.of_same (hw.arena.modify id f) (fun other => ?_) (collection_modifyConn ctx id f)
    fun key => rfl
  rw [membership?, conn?_modifyConn]
  split
  · rename_i he
    subst he
    rw [membership?]
    cases h : ctx.conn? other with
    | none => rfl
    | some conn => exact congrArg some (hf conn h)
  · rfl

theorem Orderly.takeIn (hw : ctx.Orderly) (ha : (ctx.conns.insert conn).2.Addressable)
    (hroom : ctx.HasRoom conn.membership) : (ctx.takeIn conn).Orderly where
  arena := by
    rw [Context.takeIn, conns_enlist]
    exact hw.arena.insert conn
  nodup membership := by
    rw [collection_takeIn hroom.hasCollection]
    split
    · have hnew := hw.not_mem (conn?_nextId hw.arena ha) conn.membership
      refine List.nodup_append.2 ⟨hw.nodup _, by simp, fun x hx y hy he => ?_⟩
      obtain rfl : x = ctx.nextId conn := he.trans (List.mem_singleton.1 hy)
      exact hnew hx
    · exact hw.nodup _
  mem_collection membership id := by
    -- the new id was listed nowhere, and all others stay where they are
    have hnew := hw.not_mem (conn?_nextId hw.arena ha) membership
    have hold := hw.mem_collection membership id
    rw [collection_takeIn hroom.hasCollection, membership?, conn?_takeIn hw.arena ha]
    by_cases he : id = ctx.nextId conn
    · subst he
      by_cases hm : membership = conn.membership
      · simp [hm]
      · simp [hm, hnew, Ne.symm hm]
    · rw [if_neg he, ← membership?, ← hold]
      by_cases hm : membership = conn.membership
      · simp [hm, he]
      · rw [if_neg hm]
  size_le key config h := by
    rw [poolConfig?_takeIn] at h
    rw [poolSize_takeIn hroom.hasCollection, Membership.share]
    split
    · -- the pool that it joins had room for one more
      rename_i hkey
      obtain ⟨config', hconfig', hlt⟩ := hroom key hkey
      obtain rfl := Option.some.inj (h.symm.trans hconfig')
      omega
    · exact hw.size_le key config h

theorem Orderly.without (hw : ctx.Orderly) (h : ctx.conn? id = some conn) :
    (ctx.without id conn).Orderly where
  arena := by
    rw [Context.without, conns_strike]
    exact hw.arena.remove id
  nodup membership := by
    rw [collection_without]
    split
    · exact (hw.nodup _).filter _
    · exact hw.nodup _
  mem_collection membership other := by
    have hold := hw.mem_collection membership other
    rw [collection_without, membership?, conn?_without]
    by_cases he : other = id
    · subst he
      rw [membership?_of_conn? h] at hold
      by_cases hm : membership = conn.membership
      · simp [hm]
      · simp [hm, hold, Ne.symm hm]
    · rw [if_neg he, ← membership?, ← hold]
      by_cases hm : membership = conn.membership
      · simp [hm, he]
      · rw [if_neg hm]
  size_le key config hconfig := by
    rw [poolConfig?_without] at hconfig
    have hsize := hw.poolSize_without h key
    have hmax := hw.size_le key config hconfig
    omega

/-- After a transfer an id is listed at most once. -/
theorem Orderly.nodup_transfer (hw : ctx.Orderly) (h : ctx.conn? id = some conn)
    (hhas : ctx.HasCollection (f conn).membership) (membership : Membership) :
    ((ctx.transfer id conn f).collection membership).Nodup := by
  rw [collection_transfer hhas]
  -- what is left of the old collection does not list the id that is added
  have hnot : id ∉ if membership = conn.membership then
      (ctx.collection membership).filter (· ≠ id) else ctx.collection membership := by
    split
    · simp
    · rename_i hm
      rw [hw.mem_collection, membership?_of_conn? h]
      exact fun he => hm (Option.some.inj he).symm
  refine List.nodup_append.2 ⟨?_, ?_, fun x hx y hy he => ?_⟩
  · split
    · exact (hw.nodup _).filter _
    · exact hw.nodup _
  · split
    · simp
    · exact List.nodup_nil
  · split at hy
    · obtain rfl : x = id := he.trans (List.mem_singleton.1 hy)
      exact hnot hx
    · exact absurd hy List.not_mem_nil

/-- After a transfer the collections list what belongs to them. -/
theorem Orderly.mem_collection_transfer (hw : ctx.Orderly) (h : ctx.conn? id = some conn)
    (hhas : ctx.HasCollection (f conn).membership) (membership : Membership) (other : ConnId) :
    other ∈ (ctx.transfer id conn f).collection membership ↔
      (ctx.transfer id conn f).membership? other = some membership := by
  have hold := hw.mem_collection membership other
  rw [collection_transfer hhas, membership?, conn?_transfer h]
  by_cases he : other = id
  · subst he
    rw [membership?_of_conn? h] at hold
    by_cases hn : membership = (f conn).membership
    · simp [hn]
    · -- it was listed in one collection only, and is struck from that one
      have hsame : other ∈ ctx.collection membership → membership = conn.membership :=
        fun hmem => (Option.some.inj (hold.1 hmem)).symm
      by_cases hm : membership = conn.membership
      · subst hm
        simp [hn, Ne.symm hn]
      · have hnone : other ∉ ctx.collection membership := fun hmem => hm (hsame hmem)
        simp [hn, hm, hnone, Ne.symm hn]
  · -- all other ids stay where they are
    rw [if_neg he, ← membership?, ← hold, List.mem_append]
    have hlast : other ∉ if membership = (f conn).membership then [id] else [] := by
      split <;> simp [he]
    simp only [hlast, or_false]
    split
    · simp [he]
    · rfl

/-- A transfer keeps the order if it stays within a pool or goes where there is
    room. -/
theorem Orderly.transfer (hw : ctx.Orderly) (h : ctx.conn? id = some conn)
    (hroom : (f conn).membership.pool? = conn.membership.pool? ∨
      ctx.HasRoom (f conn).membership) : (ctx.transfer id conn f).Orderly := by
  have hhas : ctx.HasCollection (f conn).membership := by
    rcases hroom with hsame | hroom
    · exact fun key hkey => hw.hasCollection h key (hsame ▸ hkey)
    · exact hroom.hasCollection
  constructor
  case arena =>
    rw [Context.transfer, conns_enlist, conns_strike]
    exact hw.arena.modify id f
  case nodup => exact hw.nodup_transfer h hhas
  case mem_collection => exact hw.mem_collection_transfer h hhas
  case size_le =>
    intro key config hconfig
    rw [poolConfig?_transfer] at hconfig
    have hsize := hw.poolSize_transfer h hhas key
    have hmax := hw.size_le key config hconfig
    simp only [Membership.share] at hsize
    rcases hroom with hsame | hroom
    · -- what the pool loses it gains
      rw [hsame] at hsize
      omega
    · by_cases hkey : (f conn).membership.pool? = some key
      · obtain ⟨config', hconfig', hlt⟩ := hroom key hkey
        obtain rfl := Option.some.inj (hconfig.symm.trans hconfig')
        rw [if_pos hkey] at hsize
        omega
      · rw [if_neg hkey] at hsize
        omega

end

/-! ## Transfers within a pool -/

section

variable {ctx : Context ρ κ} {id : ConnId} {conn : Connection ρ κ}
  {f : Connection ρ κ → Connection ρ κ} {key : PoolKey}

/-- Lending moves an id from the idle queue of a pool to the lent ones. -/
theorem Orderly.transfer_of_lend (hw : ctx.Orderly) {pool : Pool}
    (hpool : ctx.pools.get? key = some pool) (hold : conn.membership = .free key)
    (hnew : (f conn).membership = .busy key) :
    (ctx.modifyPool key fun _ =>
        { pool with free := pool.free.erase id, busy := pool.busy ++ [id] }).modifyConn id f =
      ctx.transfer id conn f := by
  have hnodup : pool.free.Nodup := by
    rw [← collection_free_of_get? hpool]
    exact hw.nodup (.free key)
  -- erasing and filtering are the same where nothing is listed twice
  have hpools : ctx.pools.modify key
      (fun _ => { pool with free := pool.free.erase id, busy := pool.busy ++ [id] }) =
      (ctx.pools.modify key (·.dropFree id)).modify key (·.pushBusy id) := by
    rw [KeyMap.modify_modify]
    refine KeyMap.modify_congr fun p hp => ?_
    obtain rfl := Option.some.inj (hpool.symm.trans hp)
    rw [erase_eq_filter_ne hnodup]
    rfl
  rw [Context.transfer, hold, hnew]
  simp only [strike, enlist, Context.modifyPool, Context.modifyConn, hpools]

/-- Taking back moves an id from the lent ones of a pool to its idle queue. -/
theorem transfer_of_return (hold : conn.membership = .busy key)
    (hnew : (f conn).membership = .free key) :
    (ctx.modifyConn id f).modifyPool key (fun pool => (pool.dropBusy id).pushFree id) =
      ctx.transfer id conn f := by
  rw [Context.transfer, hold, hnew]
  simp only [strike, enlist, Context.modifyPool, KeyMap.modify_modify]

end

/-! ## Pools -/

section

variable {ctx : Context ρ κ}

/-- A pool is created without connections. -/
theorem Orderly.createPool (hw : ctx.Orderly) {key : PoolKey} (config : PoolConfig)
    (h : ctx.pools.get? key = none) :
    { ctx with pools := ctx.pools.insert key { config } }.Orderly := by
  have hcollection := collection_createPool config h
  refine ⟨hw.arena, fun m => ?_, fun m id => ?_, fun k c hc => ?_⟩
  · rw [hcollection]
    exact hw.nodup m
  · rw [hcollection]
    exact hw.mem_collection m id
  · simp only [poolSize, hcollection]
    by_cases hk : k = key
    · subst hk
      simp [collection, h]
    · rw [poolConfig?, KeyMap.get?_insert_of_ne _ hk] at hc
      exact hw.size_le k c hc

/-- Changing what a pool does not list or is configured by keeps the order. -/
theorem Orderly.modifyPool (hw : ctx.Orderly) (key : PoolKey) {f : Pool → Pool}
    (hfree : ∀ pool, (f pool).free = pool.free) (hbusy : ∀ pool, (f pool).busy = pool.busy)
    (hconfig : ∀ pool, (f pool).config = pool.config) : (ctx.modifyPool key f).Orderly :=
  hw.of_same hw.arena (fun _ => rfl) (collection_modifyPool hfree hbusy)
    (poolConfig?_modifyPool hconfig)

/-- Without connections, nothing is listed. -/
theorem Orderly.collection_eq_nil (hw : ctx.Orderly) (h : ∀ id, ctx.conn? id = none)
    (membership : Membership) : ctx.collection membership = [] :=
  List.eq_nil_iff_forall_not_mem.2 fun id => hw.not_mem (h id) membership

/-- Without connections, nothing is lost with the pools. -/
theorem Orderly.dropPools (hw : ctx.Orderly) (h : ∀ id, ctx.conn? id = none) :
    { ctx with pools := .empty }.Orderly := by
  have hempty : ∀ membership, { ctx with pools := .empty }.collection membership = [] := by
    intro membership
    cases membership with
    | registry => exact hw.collection_eq_nil h .registry
    | free key => rfl
    | busy key => rfl
  refine ⟨hw.arena, fun m => ?_, fun m id => ?_, fun key config hconfig => ?_⟩
  · rw [hempty]
    exact List.nodup_nil
  · have hstale : { ctx with pools := .empty }.conn? id = none := h id
    rw [hempty, membership?, hstale]
    exact iff_of_false List.not_mem_nil (by simp)
  · cases hconfig

end

end Context
end ConnPool
