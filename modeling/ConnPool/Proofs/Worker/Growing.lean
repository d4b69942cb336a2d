/-
  ConnPool.Proofs.Worker.Growing

  How pools grow, as acts.

  A pool is created when its key is first used, and idle connections are opened
  for it one after another; these acts concern no caller (`Act.Idle`).
  `Growing` tells which connections come of it: as many as are asked for, or
  those that were opened before the first opening that failed.  They stand at
  the end of the idle queue, in the order of their openings.  The openings
  themselves, one worker after another, are `Worker.Openings`.
-/

import ConnPool.Proofs.Worker.Handshake
import ConnPool.Proofs.Worker.Listing

namespace ConnPool

variable {ω ρ κ : Type}

/-- An act that prepares the pool under `key`, on behalf of no caller. -/
def Act.Idle (key : PoolKey) : Act ρ κ → Prop
  | noted _ | openSpoiled .. => True
  | poolCreated k _ => k = key
  | opened _ _ conn _ | openFailed _ _ conn _ =>
    conn.membership = .free key ∧ conn.request = none ∧ conn.onConnect = none
  | asked .. | stepped .. | lent .. | takenBack .. | adopted .. | tagged .. | deferred ..
  | finished .. | poolsDropped => False

theorem Act.poolsDropped_not_mem {key : PoolKey} {acts : List (Act ρ κ)}
    (h : ∀ act ∈ acts, act.Idle key) : .poolsDropped ∉ acts := fun hmem => h _ hmem

/-- An opening for a pool is an idle act. -/
theorem Opening.idle {target : Target} {key : PoolKey} {outcome : Except PoolError ConnId}
    {act : Act ρ κ} (h : Opening target none none (.free key) outcome act) : act.Idle key := by
  cases h with
  | opened id conn poll hrequest honConnect hmembership =>
      exact ⟨hmembership, hrequest, honConnect⟩
  | unstarted reason events hrefused => trivial
  | spoiled session reason => trivial
  | failed id conn ending error herror hrequest honConnect hmembership =>
      exact ⟨hmembership, hrequest, honConnect⟩

/-- Whether an act is an opening that leaves no connection behind. -/
def Act.FailsToOpen : Act ρ κ → Prop
  | noted events => ∃ target, .startRefused target ∈ events
  | openFailed .. | openSpoiled .. => True
  | asked .. | poolCreated .. | opened .. | stepped .. | lent .. | takenBack .. | adopted ..
  | tagged .. | deferred .. | finished .. | poolsDropped => False

theorem Opening.failsToOpen {target : Target} {request : Option ρ} {onConnect : Option κ}
    {membership : Membership} {error : PoolError} {act : Act ρ κ}
    (h : Opening target request onConnect membership (.error error) act) : act.FailsToOpen := by
  cases h with
  | unstarted reason events hrefused =>
      obtain ⟨records, rfl⟩ := hrefused
      exact ⟨target, List.mem_cons_self⟩
  | spoiled session reason => trivial
  | failed id conn ending error herror hrequest honConnect hmembership => trivial

/-! ## Pools that are looked for -/

/-- How the pool under a registered key is found: it is there, or it is created
    empty. -/
inductive Finding (ctx : Context ρ κ) (key : PoolKey) : Pool → List (Act ρ κ) → Prop
  | found (pool : Pool) (hpool : ctx.pools.get? key = some pool) : Finding ctx key pool []
  | created (config : PoolConfig) (hnone : ctx.pools.get? key = none)
      (hconfig : ctx.configs.get? key = some config) :
      Finding ctx key { config } [.poolCreated key config]

theorem Finding.idle {ctx : Context ρ κ} {key : PoolKey} {pool : Pool} {acts : List (Act ρ κ)}
    (h : Finding ctx key pool acts) : ∀ act ∈ acts, act.Idle key := by
  cases h with
  | found pool hpool => exact List.forall_mem_nil _
  | created config hnone hconfig => exact List.forall_mem_singleton.2 rfl

/-! ## Openings in a row -/

/-- How the pool under `key` is asked for so many idle connections: the ids of
    those that are opened, in order, and the acts. -/
inductive Growing (key : PoolKey) (target : Target) : Nat → List ConnId → List (Act ρ κ) → Prop
  | done : Growing key target 0 [] []
  | opened {count : Nat} {ids : List ConnId} {acts : List (Act ρ κ)} (id : ConnId)
      (conn : Connection ρ κ) (poll : PollReport)
      (hidle : (Act.opened id target conn poll).Idle key)
      (hrest : Growing key target count ids acts) :
      Growing key target (count + 1) (id :: ids) (.opened id target conn poll :: acts)
  | stopped (count : Nat) (error : PoolError) (act : Act ρ κ)
      (hopening : Opening target none none (.free key) (.error error) act) (record : LogRecord) :
      Growing key target (count + 1) [] [act, .noted [.logged record]]

namespace Growing

variable {key : PoolKey} {target : Target} {count : Nat} {ids : List ConnId}
  {acts : List (Act ρ κ)}

theorem idle (h : Growing key target count ids acts) : ∀ act ∈ acts, act.Idle key := by
  induction h with
  | done => exact List.forall_mem_nil _
  | opened id conn poll hidle hrest ih => exact List.forall_mem_cons.2 ⟨hidle, ih⟩
  | stopped count error act hopening record =>
      exact List.forall_mem_cons.2 ⟨hopening.idle, List.forall_mem_singleton.2 trivial⟩

/-- Where no opening fails, all connections that were asked for are opened. -/
theorem length_eq (h : Growing key target count ids acts)
    (hopens : ∀ act ∈ acts, ¬act.FailsToOpen) : ids.length = count := by
  induction h with
  | done => rfl
  | opened id conn poll hidle hrest ih =>
      rw [List.length_cons, ih (List.forall_mem_cons.1 hopens).2]
  | stopped count error act hopening record =>
      exact absurd hopening.failsToOpen (List.forall_mem_cons.1 hopens).1

/-- The connections that are opened are put at the end of the idle queue. -/
theorem listed_eq (h : Growing key target count ids acts) :
    acts.flatMap (Act.listed (.free key)) = ids := by
  induction h with
  | done => rfl
  | opened id conn poll hidle hrest ih =>
      rw [List.flatMap_cons, ih, Act.listed, if_pos hidle.1.symm]
      rfl
  | stopped count error act hopening record =>
      cases hopening with
      | unstarted _ _ _ | spoiled _ _ | failed _ _ _ _ _ _ _ _ => rfl

end Growing

/-- Idle acts strike nothing from any list. -/
theorem Act.Idle.struck_eq_nil {key : PoolKey} {act : Act ρ κ} (h : act.Idle key)
    (membership : Membership) : act.struck membership = [] := by
  cases act with
  | noted _ | openSpoiled _ _ _ | poolCreated _ _ | opened _ _ _ _ | openFailed _ _ _ _ => rfl
  | asked _ _ _ | stepped _ _ _ | lent _ _ _ _ _ _ | takenBack _ _ _ _ | adopted _ _ _ _
  | tagged _ _ _ | deferred _ _ _ | finished _ _ _ | poolsDropped => exact h.elim

/-- The idle queue after the openings. -/
theorem Growing.collection_free {key : PoolKey} {target : Target} {count : Nat}
    {ids : List ConnId} {acts : List (Act ρ κ)} (h : Growing key target count ids acts)
    {v v' : View ρ κ} (hpath : Path v acts v') (hw : v.ctx.Orderly) :
    v'.ctx.collection (.free key) = v.ctx.collection (.free key) ++ ids := by
  rw [hpath.collection_eq_append hw fun act hmem => (h.idle act hmem).struck_eq_nil _, h.listed_eq]

namespace Worker

/-! ## Pools -/

/-- A pool that is looked for exists, or is created, or is not registered. -/
theorem poolAt_cases {w w' : Worker ω ρ κ} {key : PoolKey} {outcome : Except PoolError Pool}
    (h : w.poolAt key = (outcome, w')) :
    (outcome = .error (.configurationNotFound key) ∧ w' = w ∧
        w.ctx.pools.get? key = none ∧ w.ctx.configs.get? key = none) ∨
      ∃ pool acts, outcome = .ok pool ∧ w'.ctx.pools.get? key = some pool ∧
        Finding w.ctx key pool acts ∧ Path w.view acts w'.view := by
  cases hpool : w.ctx.pools.get? key with
  | some pool =>
      rw [poolAt_of_get? hpool] at h
      obtain ⟨rfl, rfl⟩ := Prod.mk.inj h
      exact .inr ⟨pool, [], rfl, hpool, .found pool hpool, .nil _⟩
  | none =>
      cases hconfig : w.ctx.configs.get? key with
      | none =>
          rw [poolAt_of_unregistered hpool hconfig] at h
          obtain ⟨rfl, rfl⟩ := Prod.mk.inj h
          exact .inl ⟨rfl, rfl, rfl, rfl⟩
      | some config =>
          rw [poolAt_of_none hpool hconfig] at h
          obtain ⟨rfl, rfl⟩ := Prod.mk.inj h
          refine .inr ⟨{ config }, [.poolCreated key config], rfl, ?_, ?_, ?_⟩
          · exact KeyMap.get?_insert_self w.ctx.pools key { config }
          · exact .created config hpool hconfig
          · exact .single ⟨hpool, hconfig⟩ rfl

/-- A pool that is found is there, in a context in order. -/
theorem orderly_of_poolAt {w w₁ : Worker ω ρ κ} (hw : w.ctx.Orderly) {key : PoolKey} {pool : Pool}
    (h : w.poolAt key = (.ok pool, w₁)) :
    w₁.ctx.pools.get? key = some pool ∧ w₁.ctx.Orderly := by
  rcases poolAt_cases h with ⟨heq, -⟩ | ⟨pool', acts, heq, hpool, -, hpath⟩
  · cases heq
  · obtain rfl := Except.ok.inj heq
    exact ⟨hpool, hpath.orderly hw⟩

/-- A connection that is opened for a pool takes up one place of its room. -/
theorem poolSize_run_opened {v : View ρ κ} {id : ConnId} {target : Target} {conn : Connection ρ κ}
    {poll : PollReport} {key : PoolKey} (henabled : (Act.opened id target conn poll).Enabled v)
    (hmembership : conn.membership = .free key) :
    ((Act.opened id target conn poll).run v).ctx.poolSize key = v.ctx.poolSize key + 1 := by
  obtain ⟨-, -, -, -, -, hroom, -⟩ := henabled
  have hcollection : v.ctx.HasCollection (conn.stepped poll).membership := hroom.hasCollection
  show (v.ctx.takeIn (conn.stepped poll)).poolSize key = _
  rw [Context.poolSize_takeIn hcollection]
  show _ + conn.membership.share key = _
  rw [hmembership]
  exact congrArg _ (if_pos rfl)

/-- What a pool is asked to open, it has room for. -/
theorem poolSize_add_min_room_le {ctx : Context ρ κ} (hw : ctx.Orderly) {key : PoolKey}
    {pool : Pool} (hpool : ctx.pools.get? key = some pool) (count : Nat) :
    ctx.poolSize key + min count pool.room ≤ pool.config.maxSize := by
  have hsize := hw.size_le_of_get? hpool
  rw [Context.poolSize_of_get? hpool, Pool.room]
  omega

/-! ## Growing -/

variable [Environment ω]

omit [Environment ω] in
theorem canOpen_free (key : PoolKey) :
    (Membership.free key).CanOpen (none : Option ρ) (none : Option κ) :=
  .inr ⟨⟨key, rfl⟩, rfl, rfl⟩

/-- An idle connection that is opened keeps the order and the pool, and takes
    up one place of its room. -/
theorem establish_free {key : PoolKey} {target : Target} {config : PoolConfig} {remaining : Nat}
    {w w₁ : Worker ω ρ κ} {id : ConnId} (hw : w.ctx.Orderly)
    (hconfig : w.ctx.poolConfig? key = some config)
    (hroom : w.ctx.poolSize key + (remaining + 1) ≤ config.maxSize)
    (h : w.establish target none none (.free key) = (.ok id, w₁))
    (ha : w₁.view.slotCount ≤ 2 ^ 32) :
    ∃ conn poll, (Act.opened id target conn poll).Idle key ∧
      (Act.opened id target conn poll).Enabled w.view ∧
      (Act.opened id target conn poll).run w.view = w₁.view ∧ w₁.ctx.Orderly ∧
      w₁.ctx.poolConfig? key = some config ∧
      w₁.ctx.poolSize key + remaining ≤ config.maxSize := by
  obtain ⟨act, hopening, henabled, hrun⟩ := establish_opening hw (canOpen_free key)
    (Context.hasRoom_free hconfig (by omega)) h ha
  have hidle := hopening.idle
  cases hopening with
  | opened id conn poll hrequest honConnect hmembership =>
      have hw₁ := Act.orderly_run henabled hw
      have hsize := poolSize_run_opened henabled hmembership
      have hconfig₁ := Act.poolConfig?_run henabled (by simp) hconfig
      rw [hrun, ctx_view] at hw₁ hsize hconfig₁
      rw [ctx_view] at hsize
      exact ⟨conn, poll, hidle, henabled, hrun, hw₁, hconfig₁, by omega⟩

/-- How a worker opens idle connections for the pool under `key`, one after
    another: as many as it is asked for, or up to the first that fails.  The ids of
    those that are opened stand in their order. -/
inductive Openings (key : PoolKey) (target : Target) :
    Nat → Worker ω ρ κ → List ConnId → Worker ω ρ κ → Prop
  | done (w : Worker ω ρ κ) : Openings key target 0 w [] w
  | opened {count : Nat} {id : ConnId} {ids : List ConnId} {w w₁ w' : Worker ω ρ κ}
      (hopens : w.establish target none none (.free key) = (.ok id, w₁))
      (hrest : Openings key target count w₁ ids w') :
      Openings key target (count + 1) w (id :: ids) w'
  | stopped (count : Nat) {error : PoolError} {w w₁ : Worker ω ρ κ}
      (hfails : w.establish target none none (.free key) = (.error error, w₁))
      (record : LogRecord) : Openings key target (count + 1) w [] (w₁.log record)

theorem openFree_openings {key : PoolKey} {target : Target} {requested remaining opened n : Nat}
    {w w' : Worker ω ρ κ} (h : openFree key target requested remaining opened w = (n, w')) :
    ∃ ids, Openings key target remaining w ids w' := by
  induction remaining generalizing opened w with
  | zero =>
      obtain ⟨rfl, rfl⟩ := Prod.mk.inj h
      exact ⟨[], .done _⟩
  | succ remaining ih =>
      rcases hestablish : w.establish target none none (.free key) with ⟨outcome, w₁⟩
      rw [openFree, hestablish] at h
      cases outcome with
      | ok id =>
          obtain ⟨ids, hrest⟩ := ih h
          exact ⟨id :: ids, .opened hestablish hrest⟩
      | error e =>
          obtain ⟨rfl, rfl⟩ := Prod.mk.inj h
          exact ⟨[], .stopped remaining hestablish _⟩

namespace Openings

variable {key : PoolKey} {target : Target} {config : PoolConfig} {remaining : Nat}
  {ids : List ConnId} {w w' : Worker ω ρ κ}

theorem slotCount_le (h : Openings key target remaining w ids w') :
    w.view.slotCount ≤ w'.view.slotCount := by
  induction h with
  | done w => exact Nat.le_refl _
  | @opened _ _ _ w _ _ hopens _ ih =>
      have hle := slotCount_le_establish w target none none (.free key)
      rw [hopens] at hle
      exact Nat.le_trans hle ih
  | @stopped _ _ w _ hfails record =>
      have hle := slotCount_le_establish w target none none (.free key)
      rw [hfails] at hle
      exact hle

/-- Idle connections are opened one after another as long as there is room for
    all of them. -/
theorem growing (h : Openings key target remaining w ids w') (hw : w.ctx.Orderly)
    (hconfig : w.ctx.poolConfig? key = some config)
    (hroom : w.ctx.poolSize key + remaining ≤ config.maxSize)
    (ha : w'.view.slotCount ≤ 2 ^ 32) :
    ∃ acts, Growing key target remaining ids acts ∧ Path w.view acts w'.view := by
  -- over the openings; the room left shrinks along with what is still to be opened
  induction h with
  | done w => exact ⟨[], .done, .nil _⟩
  | opened hopens hrest ih =>
      obtain ⟨conn, poll, hidle, henabled, hrun, hw₁, hconfig₁, hroom₁⟩ :=
        establish_free hw hconfig hroom hopens (Nat.le_trans hrest.slotCount_le ha)
      obtain ⟨acts, hgrowing, hpath⟩ := ih hw₁ hconfig₁ hroom₁ ha
      rw [← hrun] at hpath
      exact ⟨_, .opened _ conn poll hidle hgrowing, .cons henabled hpath⟩
  | @stopped remaining error w w₁ hfails record =>
      obtain ⟨act, hopening, henabled, hrun⟩ := establish_opening hw (canOpen_free key)
        (Context.hasRoom_free hconfig (by omega)) hfails ha
      refine ⟨_, .stopped remaining error act hopening record, .cons henabled ?_⟩
      rw [hrun]
      exact path_log w₁ _

end Openings

omit [Environment ω] in
/-- Openings for a pool do not drop it. -/
theorem exists_pool_of_idle {v v' : View ρ κ} {key : PoolKey} {pool : Pool}
    {acts : List (Act ρ κ)} (hpath : Path v acts v') (hidle : ∀ act ∈ acts, act.Idle key)
    (hpool : v.ctx.pools.get? key = some pool) :
    ∃ pool', v'.ctx.pools.get? key = some pool' := by
  have hlasts := hpath.poolConfig? (Act.poolsDropped_not_mem hidle)
    (Context.poolConfig?_of_get? hpool)
  obtain ⟨pool', hpool', -⟩ := Option.map_eq_some_iff.1 hlasts
  exact ⟨pool', hpool'⟩

/-- A pool that exists is asked for no more connections than it has room for,
    and those that are opened are put at the end of its idle queue. -/
theorem spawn_openings {w w' : Worker ω ρ κ} {key : PoolKey} {pool : Pool} {count : Nat}
    {status : Status} (hw : w.ctx.Orderly) (hpool : w.ctx.pools.get? key = some pool)
    (h : w.spawn key count = (status, w')) (ha : w'.view.slotCount ≤ 2 ^ 32) :
    ∃ ids acts w₁ record pool',
      Openings key pool.config.target (min count pool.room) w ids w₁ ∧
      Growing key pool.config.target (min count pool.room) ids acts ∧
      Path w.view acts w₁.view ∧ w' = w₁.log record ∧
      w₁.ctx.pools.get? key = some pool' ∧ pool'.free = pool.free ++ ids ∧
      status = if pool'.free = [] then .error (.poolExhausted key) else .ok () := by
  have ha₁ := slotCount_spawn_of_poolAt (poolAt_of_get? hpool) count
  rw [h] at ha₁
  rw [spawn, poolAt_of_get? hpool] at h
  simp only at h
  rcases hopen : openFree key pool.config.target (min count pool.room) (min count pool.room) 0 w
    with ⟨opened, w₁⟩
  rw [hopen] at h ha₁
  obtain ⟨ids, hopenings⟩ := openFree_openings hopen
  obtain ⟨acts, hgrowing, hpath⟩ := hopenings.growing hw (Context.poolConfig?_of_get? hpool)
    (poolSize_add_min_room_le hw hpool count) (ha₁ ▸ ha)
  obtain ⟨pool', hpool'⟩ := exists_pool_of_idle hpath hgrowing.idle hpool
  have hfree : pool'.free = pool.free ++ ids := by
    rw [← Context.collection_free_of_get? hpool, ← Context.collection_free_of_get? hpool']
    exact hgrowing.collection_free hpath hw
  rw [ctx_view] at hpool'
  simp only [hpool'] at h
  refine ⟨ids, acts, w₁, .spawned key (min count pool.room) opened pool'.load, pool', hopenings,
    hgrowing, hpath, ?_⟩
  split at h
  · rename_i hempty
    obtain ⟨rfl, rfl⟩ := Prod.mk.inj h
    exact ⟨rfl, hpool', hfree, (if_pos hempty).symm⟩
  · rename_i hsome
    obtain ⟨rfl, rfl⟩ := Prod.mk.inj h
    exact ⟨rfl, hpool', hfree, (if_neg hsome).symm⟩

theorem spawn_growing {w w' : Worker ω ρ κ} {key : PoolKey} {pool : Pool} {count : Nat}
    {status : Status} (hw : w.ctx.Orderly) (hpool : w.ctx.pools.get? key = some pool)
    (h : w.spawn key count = (status, w')) (ha : w'.view.slotCount ≤ 2 ^ 32) :
    ∃ ids acts record pool',
      Growing key pool.config.target (min count pool.room) ids acts ∧
      Path w.view (acts ++ [.noted [.logged record]]) w'.view ∧
      w'.ctx.pools.get? key = some pool' ∧ pool'.free = pool.free ++ ids ∧
      status = if pool'.free = [] then .error (.poolExhausted key) else .ok () := by
  obtain ⟨ids, acts, w₁, record, pool', -, hgrowing, hpath, rfl, hpool', hfree, hstatus⟩ :=
    spawn_openings hw hpool h ha
  exact ⟨ids, acts, record, pool', hgrowing, hpath.append (path_log w₁ record), hpool', hfree,
    hstatus⟩

omit [Environment ω] in
theorem idle_append_noted {key : PoolKey} {acts : List (Act ρ κ)} (h : ∀ act ∈ acts, act.Idle key)
    (record : LogRecord) : ∀ act ∈ acts ++ [.noted [.logged record]], act.Idle key :=
  List.forall_mem_append.2 ⟨h, List.forall_mem_singleton.2 trivial⟩

/-- Spawning looks the pool up first. -/
theorem spawn_of_poolAt {w w₁ : Worker ω ρ κ} {key : PoolKey} {pool : Pool}
    (h : w.poolAt key = (.ok pool, w₁)) (hget : w₁.ctx.pools.get? key = some pool) (count : Nat) :
    w.spawn key count = w₁.spawn key count := by
  rw [spawn, spawn, h, poolAt_of_get? hget]

/-- Spawning finds the pool and makes it grow, unless it is not registered.  It
    fails where nothing is idle then. -/
theorem spawn_cases {w w' : Worker ω ρ κ} {key : PoolKey} {count : Nat} {status : Status}
    (hw : w.ctx.Orderly) (h : w.spawn key count = (status, w')) (ha : w'.view.slotCount ≤ 2 ^ 32) :
    (status = .error (.configurationNotFound key) ∧ w' = w ∧
        w.ctx.pools.get? key = none ∧ w.ctx.configs.get? key = none) ∨
      ∃ pool first ids acts record, Finding w.ctx key pool first ∧
        Growing key pool.config.target (min count pool.room) ids acts ∧
        Path w.view (first ++ (acts ++ [.noted [.logged record]])) w'.view ∧
        status = if pool.free ++ ids = [] then .error (.poolExhausted key) else .ok () := by
  rcases hpool : w.poolAt key with ⟨outcome, w₁⟩
  rcases poolAt_cases hpool with
    ⟨rfl, rfl, hnone, hconfig⟩ | ⟨pool, first, rfl, hget, hfinding, hfirst⟩
  · rw [spawn, hpool] at h
    obtain ⟨rfl, rfl⟩ := Prod.mk.inj h
    exact .inl ⟨rfl, rfl, hnone, hconfig⟩
  · rw [spawn_of_poolAt hpool hget] at h
    obtain ⟨ids, acts, record, pool', hgrowing, hpath, -, hfree, rfl⟩ :=
      spawn_growing (hfirst.orderly hw) hget h ha
    refine .inr ⟨pool, first, ids, acts, record, hfinding, hgrowing, hfirst.append hpath, ?_⟩
    rw [hfree]

/-- Spawning is a path of idle acts, unless the pool is not registered. -/
theorem spawn_path {w w' : Worker ω ρ κ} {key : PoolKey} {count : Nat} {status : Status}
    (hw : w.ctx.Orderly) (h : w.spawn key count = (status, w')) (ha : w'.view.slotCount ≤ 2 ^ 32) :
    (status = .error (.configurationNotFound key) ∧ w' = w ∧
        w.ctx.pools.get? key = none ∧ w.ctx.configs.get? key = none) ∨
      ∃ acts, (∀ act ∈ acts, act.Idle key) ∧ Path w.view acts w'.view := by
  refine (spawn_cases hw h ha).imp_right ?_
  rintro ⟨pool, first, ids, acts, record, hfinding, hgrowing, hpath, -⟩
  exact ⟨_, List.forall_mem_append.2 ⟨hfinding.idle, idle_append_noted hgrowing.idle record⟩, hpath⟩

end Worker
end ConnPool
