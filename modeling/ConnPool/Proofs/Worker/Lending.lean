/-
  ConnPool.Proofs.Worker.Lending

  How pools lend, as acts.

  An idle connection is lent as it is.  A pool that has none is made to grow
  while it has room, and lends a direct connection in its stead when it is
  full.  `Granting` tells these cases apart, with the acts of each; what most
  of them come to is an `Acquisition`: idle acts for no caller, and then at
  most one connection for the caller.
-/

import ConnPool.Proofs.Worker.Growing

namespace ConnPool

variable {ω ρ κ : Type}

namespace Worker

/-- The connection to lend is one of the idle ones. -/
theorem pickFree?_mem (ctx : Context ρ κ) {pool : Pool} (h : pool.free ≠ []) :
    ∃ id, pickFree? ctx pool = some id ∧ id ∈ pool.free := by
  rw [pickFree?]
  cases hfind : pool.free.find? fun id => ctx.state? id = some .connected with
  | some id => exact ⟨id, rfl, List.mem_of_find?_eq_some hfind⟩
  | none =>
      cases hfree : pool.free with
      | nil => exact absurd hfree h
      | cons id rest => exact ⟨id, rfl, List.mem_cons_self⟩

/-- A pool with an idle connection lends the one that is picked. -/
theorem lendFree_path {w w' : Worker ω ρ κ} {key : PoolKey} {request : Option ρ}
    {onConnect : Option κ} {outcome : Except PoolError ConnId} (hw : w.ctx.Orderly) {pool : Pool}
    (hpool : w.ctx.pools.get? key = some pool) (hfree : pool.free ≠ [])
    (h : w.lendFree key request onConnect = (outcome, w')) :
    ∃ id conn load, outcome = .ok id ∧ pickFree? w.ctx pool = some id ∧
      Path w.view [.lent id conn key request onConnect load] w'.view := by
  obtain ⟨id, hpick, hmem⟩ := pickFree?_mem w.ctx hfree
  rw [← Context.collection_free_of_get? hpool] at hmem
  obtain ⟨conn, hconn, hmembership⟩ := hw.conn?_of_mem hmem
  -- erasing the id and listing it again is the transfer, whichever record is written
  have htransfer : ∀ f : Connection ρ κ → Connection ρ κ,
      f conn = conn.lentBy key request onConnect →
      (w.ctx.modifyPool key fun _ =>
          { pool with free := pool.free.erase id, busy := pool.busy ++ [id] }).modifyConn id f =
        w.ctx.transfer id conn (·.lentBy key request onConnect) := by
    intro f hf
    rw [← hw.transfer_of_lend hpool hmembership rfl]
    exact Context.modifyConn_congr hconn hf
  rw [lendFree, hpool] at h
  simp only [hpick] at h
  -- changing the pool leaves the connection alone
  generalize hlent : Worker.modifyPool w key _ = w₁ at h
  have hconn₁ : w₁.ctx.conn? id = some conn := by
    rw [← hlent]
    exact hconn
  simp only [hconn₁] at h
  generalize Pool.load _ = load at h
  generalize hlogged : Worker.log _ (.lent id key conn.state load) = w₂ at h
  have hview₂ : w₂.view = (w₁.view.withCtx (·.modifyConn id
      ({ · with membership := .busy key, request, onConnect }))).tell
        [.logged (.lent id key conn.state load)] := by
    rw [← hlogged]
    rfl
  obtain ⟨rfl, rfl⟩ := Prod.mk.inj h
  refine ⟨id, conn, load, rfl, hpick, .single ⟨hconn, hmembership⟩ ?_⟩
  by_cases hstate : conn.state = .connected
  · -- a connected one tells its new caller at once, and keeps no callback
    rw [if_pos hstate, view_confirmConnect (conn?_of_view_modifyConn hconn₁ hview₂), hview₂,
      View.withCtx_tell, withCtx_modifyConn_modifyConn, ← hlent]
    refine View.ext (htransfer _ ?_).symm rfl ?_ rfl
    · simp only [Connection.lentBy, if_pos hstate]
    · simp [Act.run, Act.events, hstate, Connection.connectCall]
  · rw [if_neg hstate, hview₂, ← hlent]
    refine View.ext (htransfer _ ?_).symm rfl ?_ rfl
    · simp only [Connection.lentBy, if_neg hstate]
    · simp [Act.run, Act.events, hstate]

end Worker

/-! ## Acquiring -/

/-- How a connection of the pool under `key` is acquired: what is answered, and
    the acts that lead to it. -/
inductive Acquisition (key : PoolKey) (request : Option ρ) (onConnect : Option κ) :
    Except PoolError ConnId → List (Act ρ κ) → Prop
  | unregistered : Acquisition key request onConnect (.error (.configurationNotFound key)) []
  | exhausted (acts : List (Act ρ κ)) (hidle : ∀ act ∈ acts, act.Idle key) :
      Acquisition key request onConnect (.error (.poolExhausted key)) acts
  | lent (acts : List (Act ρ κ)) (hidle : ∀ act ∈ acts, act.Idle key) (id : ConnId)
      (conn : Connection ρ κ) (load : PoolLoad) :
      Acquisition key request onConnect (.ok id)
        (acts ++ [.lent id conn key request onConnect load])
  | direct (acts : List (Act ρ κ)) (hidle : ∀ act ∈ acts, act.Idle key) (id : ConnId)
      (target : Target) (conn : Connection ρ κ) (poll : PollReport)
      (hopening :
        Opening target request onConnect .registry (.ok id) (.opened id target conn poll)) :
      Acquisition key request onConnect (.ok id)
        (acts ++ [.opened id target conn poll, .tagged id (conn.stepped poll) key])
  | failed (acts : List (Act ρ κ)) (hidle : ∀ act ∈ acts, act.Idle key) (target : Target)
      (error : PoolError) (act : Act ρ κ)
      (hopening : Opening target request onConnect .registry (.error error) act) :
      Acquisition key request onConnect (.error error) (acts ++ [act])

/-- How a pool that exists, configured by `config`, answers an acquisition, and
    the acts that lead to the answer. -/
inductive Granting (key : PoolKey) (config : PoolConfig) (request : Option ρ)
    (onConnect : Option κ) : Except PoolError ConnId → List (Act ρ κ) → Prop
  /-- Something is idle. -/
  | idle (id : ConnId) (conn : Connection ρ κ) (load : PoolLoad) :
      Granting key config request onConnect (.ok id) [.lent id conn key request onConnect load]
  /-- The pool grows, and lends one of what it opened. -/
  | grown {count : Nat} {ids : List ConnId} {acts : List (Act ρ κ)}
      (hgrowing : Growing key config.target count ids acts) (record : LogRecord) (id : ConnId)
      (conn : Connection ρ κ) (load : PoolLoad) :
      Granting key config request onConnect (.ok id)
        (acts ++ [.noted [.logged record]] ++ [.lent id conn key request onConnect load])
  /-- The pool is to grow, but its first opening fails. -/
  | barren {count : Nat} {acts : List (Act ρ κ)}
      (hgrowing : Growing key config.target count [] acts) (record : LogRecord) :
      Granting key config request onConnect (.error (.poolExhausted key))
        (acts ++ [.noted [.logged record]])
  /-- The pool is full, and a direct connection is lent in its stead. -/
  | direct (record : LogRecord) (id : ConnId) (conn : Connection ρ κ) (poll : PollReport)
      (hopening : Opening config.target request onConnect .registry (.ok id)
        (.opened id config.target conn poll)) :
      Granting key config request onConnect (.ok id)
        [.noted [.logged record], .opened id config.target conn poll,
          .tagged id (conn.stepped poll) key]
  /-- The pool is full, and the opening in its stead fails. -/
  | refused (record : LogRecord) (error : PoolError) (act : Act ρ κ)
      (hopening : Opening config.target request onConnect .registry (.error error) act) :
      Granting key config request onConnect (.error error) [.noted [.logged record], act]

/-- Whatever the pool answers, it prepares idly and then lends or fails. -/
theorem Granting.acquisition {key : PoolKey} {config : PoolConfig} {request : Option ρ}
    {onConnect : Option κ} {outcome : Except PoolError ConnId} {first rest : List (Act ρ κ)}
    (h : Granting key config request onConnect outcome rest)
    (hfirst : ∀ act ∈ first, act.Idle key) :
    Acquisition key request onConnect outcome (first ++ rest) := by
  have hnoted : ∀ {acts : List (Act ρ κ)} {record : LogRecord}, (∀ act ∈ acts, act.Idle key) →
      ∀ act ∈ first ++ (acts ++ [.noted [.logged record]]), act.Idle key := fun hacts =>
    List.forall_mem_append.2 ⟨hfirst, List.forall_mem_append.2
      ⟨hacts, List.forall_mem_singleton.2 trivial⟩⟩
  cases h with
  | idle id conn load => exact .lent first hfirst id conn load
  | grown hgrowing record id conn load =>
      rw [← List.append_assoc]
      exact .lent _ (hnoted hgrowing.idle) id conn load
  | barren hgrowing record => exact .exhausted _ (hnoted hgrowing.idle)
  | direct record id conn poll hopening =>
      rw [List.append_cons]
      exact .direct _ (hnoted (List.forall_mem_nil _)) id config.target conn poll hopening
  | refused record error act hopening =>
      rw [List.append_cons]
      exact .failed _ (hnoted (List.forall_mem_nil _)) config.target error act hopening

namespace Worker

variable [Environment ω]

omit [Environment ω] in
/-- A direct connection that was just opened can be lent in a pool's stead. -/
theorem tagged_of_opened {v : View ρ κ} {id : ConnId} {target : Target} {conn : Connection ρ κ}
    {poll : PollReport} {key : PoolKey} (hw : v.ctx.Orderly)
    (henabled : (Act.opened id target conn poll).Enabled v)
    (hmembership : conn.membership = .registry) (hpool : (v.ctx.poolConfig? key).isSome) :
    (Act.tagged id (conn.stepped poll) key).Enabled ((Act.opened id target conn poll).run v) := by
  obtain ⟨config, hconfig⟩ := Option.isSome_iff_exists.1 hpool
  have hnone : conn.overflowOf = none := by
    rw [henabled.1]
  refine ⟨?_, hmembership, hnone, ?_⟩
  · rw [Act.conn?_run henabled hw]
    exact if_pos rfl
  · exact Option.isSome_of_eq_some (Act.poolConfig?_run henabled (by simp) hconfig)

/-- A direct connection is lent in the stead of a pool, or its opening fails. -/
theorem lendDirect_path {w w' : Worker ω ρ κ} {key : PoolKey} {pool : Pool}
    {request : Option ρ} {onConnect : Option κ} {outcome : Except PoolError ConnId}
    (hw : w.ctx.Orderly) (hpool : w.ctx.pools.get? key = some pool)
    (h : w.lendDirect key request onConnect = (outcome, w'))
    (ha : w'.view.slotCount ≤ 2 ^ 32) :
    ∃ record act,
      Opening pool.config.target request onConnect .registry outcome act ∧
      ((∃ id conn poll, outcome = .ok id ∧ act = .opened id pool.config.target conn poll ∧
          Path w.view [.noted [.logged record], .opened id pool.config.target conn poll,
            .tagged id (conn.stepped poll) key] w'.view) ∨
        ∃ error, outcome = .error error ∧
          Path w.view [.noted [.logged record], act] w'.view) := by
  have ha₂ := slotCount_lendDirect hpool request onConnect
  rw [h] at ha₂
  rw [lendDirect, hpool] at h
  simp only at h
  generalize hlogged : w.log (.overflowing key pool.size pool.config.maxSize) = w₁ at h ha₂
  have hpath₁ : Path w.view [.noted [.logged (.overflowing key pool.size pool.config.maxSize)]]
      w₁.view := hlogged ▸ path_log w _
  have hw₁ : w₁.ctx.Orderly := hpath₁.orderly hw
  rcases hestablish : w₁.establish pool.config.target request onConnect .registry with ⟨result, w₂⟩
  rw [hestablish] at h ha₂
  obtain ⟨act, hopening, henabled, hrun⟩ :=
    establish_opening hw₁ (.inl rfl) (Context.hasRoom_registry _) hestablish (ha₂ ▸ ha)
  cases result with
  | error e =>
      obtain ⟨rfl, rfl⟩ := Prod.mk.inj h
      exact ⟨_, act, hopening, .inr ⟨e, rfl, hpath₁.append (.single henabled hrun)⟩⟩
  | ok id =>
      obtain ⟨rfl, rfl⟩ := Prod.mk.inj h
      cases hopening with
      | opened id conn poll hrequest honConnect hmembership =>
          have hget₁ : w₁.ctx.pools.get? key = some pool := by
            rw [← hlogged]
            exact hpool
          have htagged := tagged_of_opened hw₁ henabled hmembership
            (Option.isSome_of_eq_some (Context.poolConfig?_of_get? hget₁))
          refine ⟨_, _, .opened id conn poll hrequest honConnect hmembership,
            .inl ⟨id, conn, poll, rfl, rfl, hpath₁.append (.cons henabled (.single htagged ?_))⟩⟩
          rw [hrun]
          exact View.ext rfl rfl (List.append_nil _) rfl

/-- Acquiring looks the pool up first. -/
theorem acquire_of_poolAt {w w₁ : Worker ω ρ κ} {key : PoolKey} {pool : Pool}
    (h : w.poolAt key = (.ok pool, w₁)) (hget : w₁.ctx.pools.get? key = some pool)
    (request : Option ρ) (onConnect : Option κ) :
    w.acquire key request onConnect = w₁.acquire key request onConnect := by
  rw [acquire, acquire, h, poolAt_of_get? hget]

/-- A pool with an idle connection lends one and does nothing else. -/
theorem acquire_of_free {w w' : Worker ω ρ κ} {key : PoolKey} {pool : Pool} {request : Option ρ}
    {onConnect : Option κ} {outcome : Except PoolError ConnId} (hw : w.ctx.Orderly)
    (hpool : w.ctx.pools.get? key = some pool) (hfree : pool.free ≠ [])
    (h : w.acquire key request onConnect = (outcome, w')) :
    ∃ id conn load, outcome = .ok id ∧ pickFree? w.ctx pool = some id ∧
      Path w.view [.lent id conn key request onConnect load] w'.view := by
  rw [acquire, poolAt_of_get? hpool] at h
  simp only at h
  rw [if_pos hfree] at h
  exact lendFree_path hw hpool hfree h

/-- A pool without idle connections that has room grows, and lends the one that
    is picked of those that are opened, if any. -/
theorem acquire_of_room {w w' : Worker ω ρ κ} {key : PoolKey} {pool : Pool} {request : Option ρ}
    {onConnect : Option κ} {outcome : Except PoolError ConnId} (hw : w.ctx.Orderly)
    (hpool : w.ctx.pools.get? key = some pool) (hfree : pool.free = [])
    (hroom : pool.size < pool.config.maxSize)
    (h : w.acquire key request onConnect = (outcome, w')) (ha : w'.view.slotCount ≤ 2 ^ 32) :
    ∃ ids acts record,
      Growing key pool.config.target (pool.config.growth pool.size) ids acts ∧
      ((ids = [] ∧ outcome = .error (.poolExhausted key) ∧
          Path w.view (acts ++ [.noted [.logged record]]) w'.view) ∨
        (ids ≠ [] ∧ ∃ id conn load pool₁ v₁, outcome = .ok id ∧
          Path w.view (acts ++ [.noted [.logged record]]) v₁ ∧
          v₁.ctx.pools.get? key = some pool₁ ∧ pickFree? v₁.ctx pool₁ = some id ∧
          Path v₁ [.lent id conn key request onConnect load] w'.view)) := by
  have ha₁ := slotCount_acquire_of_room (poolAt_of_get? hpool) hfree hroom request onConnect
  rw [h] at ha₁
  rw [acquire, poolAt_of_get? hpool] at h
  simp only at h
  rw [if_neg (not_not.2 hfree), if_pos hroom] at h
  rcases hspawn : w.spawn key (pool.config.growth pool.size) with ⟨status, w₁⟩
  rw [hspawn] at h ha₁
  obtain ⟨ids, acts, record, pool₁, hgrowing, hpath, hpool₁, hfree₁, rfl⟩ :=
    spawn_growing hw hpool hspawn (ha₁ ▸ ha)
  rw [hfree, List.nil_append] at hfree₁
  rw [Pool.room, Nat.min_eq_left (PoolConfig.growth_le_sub _ _)] at hgrowing
  refine ⟨ids, acts, record, hgrowing, ?_⟩
  by_cases hids : ids = []
  · rw [hfree₁, if_pos hids] at h
    obtain ⟨rfl, rfl⟩ := Prod.mk.inj h
    exact .inl ⟨hids, rfl, hpath⟩
  · rw [hfree₁, if_neg hids] at h
    obtain ⟨id, conn, load, rfl, hpick, hlent⟩ :=
      lendFree_path (hpath.orderly hw) hpool₁ (hfree₁ ▸ hids) h
    exact .inr ⟨hids, id, conn, load, pool₁, _, rfl, hpath, hpool₁, hpick, hlent⟩

/-- A pool that is full lends a direct connection in its stead. -/
theorem acquire_of_full {w : Worker ω ρ κ} {key : PoolKey} {pool : Pool}
    (hpool : w.ctx.pools.get? key = some pool) (hfree : pool.free = [])
    (hfull : ¬pool.size < pool.config.maxSize) (request : Option ρ) (onConnect : Option κ) :
    w.acquire key request onConnect = w.lendDirect key request onConnect := by
  rw [acquire, poolAt_of_get? hpool]
  simp only
  rw [if_neg (not_not.2 hfree), if_neg hfull]

/-- An acquisition finds the pool and is granted by it, unless the pool is not
    registered. -/
theorem acquire_cases {w w' : Worker ω ρ κ} {key : PoolKey} {request : Option ρ}
    {onConnect : Option κ} {outcome : Except PoolError ConnId} (hw : w.ctx.Orderly)
    (h : w.acquire key request onConnect = (outcome, w')) (ha : w'.view.slotCount ≤ 2 ^ 32) :
    (outcome = .error (.configurationNotFound key) ∧ w' = w ∧
        w.ctx.pools.get? key = none ∧ w.ctx.configs.get? key = none) ∨
      ∃ pool first rest, Finding w.ctx key pool first ∧
        Granting key pool.config request onConnect outcome rest ∧
        Path w.view (first ++ rest) w'.view := by
  rcases hpool : w.poolAt key with ⟨result, w₁⟩
  rcases poolAt_cases hpool with
    ⟨rfl, rfl, hnone, hconfig⟩ | ⟨pool, first, rfl, hget, hfinding, hfirst⟩
  · rw [acquire, hpool] at h
    obtain ⟨rfl, rfl⟩ := Prod.mk.inj h
    exact .inl ⟨rfl, rfl, hnone, hconfig⟩
  · have hw₁ : w₁.ctx.Orderly := hfirst.orderly hw
    rw [acquire_of_poolAt hpool hget] at h
    refine .inr ⟨pool, first, ?_⟩
    by_cases hfree : pool.free = []
    · by_cases hroom : pool.size < pool.config.maxSize
      · obtain ⟨ids, acts, record, hgrowing, hends⟩ := acquire_of_room hw₁ hget hfree hroom h ha
        rcases hends with ⟨rfl, rfl, hpath⟩ | ⟨-, id, conn, load, -, v₁, rfl, hpath, -, -, hlent⟩
        · exact ⟨_, hfinding, .barren hgrowing record, hfirst.append hpath⟩
        · exact ⟨_, hfinding, .grown hgrowing record id conn load,
            hfirst.append (hpath.append hlent)⟩
      · rw [acquire_of_full hget hfree hroom] at h
        obtain ⟨record, act, hopening, hends⟩ := lendDirect_path hw₁ hget h ha
        rcases hends with ⟨id, conn, poll, rfl, rfl, hpath⟩ | ⟨error, rfl, hpath⟩
        · exact ⟨_, hfinding, .direct record id conn poll hopening, hfirst.append hpath⟩
        · exact ⟨_, hfinding, .refused record error act hopening, hfirst.append hpath⟩
    · obtain ⟨id, conn, load, rfl, -, hpath⟩ := acquire_of_free hw₁ hget hfree h
      exact ⟨_, hfinding, .idle id conn load, hfirst.append hpath⟩

/-- An acquisition prepares the pool, and then lends or fails. -/
theorem acquire_path {w w' : Worker ω ρ κ} {key : PoolKey} {request : Option ρ}
    {onConnect : Option κ} {outcome : Except PoolError ConnId} (hw : w.ctx.Orderly)
    (h : w.acquire key request onConnect = (outcome, w')) (ha : w'.view.slotCount ≤ 2 ^ 32) :
    ∃ acts, Acquisition key request onConnect outcome acts ∧ Path w.view acts w'.view := by
  rcases acquire_cases hw h ha with
    ⟨rfl, rfl, -, -⟩ | ⟨pool, first, rest, hfinding, hgranting, hpath⟩
  · exact ⟨[], .unregistered, .nil _⟩
  · exact ⟨_, hgranting.acquisition hfinding.idle, hpath⟩

end Worker
end ConnPool
