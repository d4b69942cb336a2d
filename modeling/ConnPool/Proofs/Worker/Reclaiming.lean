/-
  ConnPool.Proofs.Worker.Reclaiming

  Taking connections back, closing them, and readiness reports, as acts.
-/

import ConnPool.Proofs.Worker.Lending
import ConnPool.Proofs.Worker.Shrinking

namespace ConnPool

variable {ω ρ κ : Type}

/-- A transfer does not lose the pool that it leads to. -/
theorem Context.exists_pool_of_transfer {ctx ctx' : Context ρ κ} {id : ConnId}
    {conn : Connection ρ κ} {f : Connection ρ κ → Connection ρ κ} {key : PoolKey}
    (hctx : ctx' = ctx.transfer id conn f) (h : (ctx.poolConfig? key).isSome) :
    ∃ pool, ctx'.pools.get? key = some pool := by
  rw [← poolConfig?_transfer ctx id conn f, ← hctx] at h
  exact exists_pool_of_poolConfig? h

/-! ## Taking back -/

/-- How a connection is taken back: what is answered, and the acts. -/
inductive Reclaiming (id : ConnId) : Status → List (Act ρ κ) → Prop
  | stale : Reclaiming id (.error (.unknownConnection id)) []
  | notBorrowed : Reclaiming id (.error (.notBorrowed id)) []
  | takenBack (conn : Connection ρ κ) (key : PoolKey) (load : PoolLoad) (acts : List (Act ρ κ))
      (hshrinks : ∀ act ∈ acts, act.Shrinks key) :
      Reclaiming id (.ok ()) (.takenBack id conn key load :: acts)
  | adopted (conn : Connection ρ κ) (key : PoolKey) (size : Nat) (acts : List (Act ρ κ))
      (hshrinks : ∀ act ∈ acts, act.Shrinks key) :
      Reclaiming id (.ok ()) (.adopted id conn key size :: acts)
  | dismissed (conn : Connection ρ κ) (key : PoolKey) :
      Reclaiming id (.ok ()) [.finished id conn (.dismissed key)]

/-- Whether an act gives the connection under `id` back to the pool under
    `key`. -/
def Act.Returns (id : ConnId) (key : PoolKey) : Act ρ κ → Prop
  | takenBack i _ k _ | adopted i _ k _ => i = id ∧ k = key
  | noted _ | asked .. | poolCreated .. | opened .. | openFailed .. | openSpoiled .. | stepped ..
  | lent .. | tagged .. | deferred .. | finished .. | poolsDropped => False

theorem Act.Returns.cases {id : ConnId} {key : PoolKey} {act : Act ρ κ} (h : act.Returns id key) :
    (∃ conn load, act = .takenBack id conn key load) ∨ ∃ conn size, act = .adopted id conn key size := by
  cases act with
  | takenBack i conn k load =>
      obtain ⟨rfl, rfl⟩ := h
      exact .inl ⟨conn, load, rfl⟩
  | adopted i conn k size =>
      obtain ⟨rfl, rfl⟩ := h
      exact .inr ⟨conn, size, rfl⟩
  | noted _ | asked _ _ _ | poolCreated _ _ | opened _ _ _ _ | openFailed _ _ _ _
  | openSpoiled _ _ _ | stepped _ _ _ | lent _ _ _ _ _ _ | tagged _ _ _ | deferred _ _ _
  | finished _ _ _ | poolsDropped => exact h.elim

namespace Worker

variable [Environment ω]

/-- What is done with a connection that is taken back: it becomes idle in its
    pool, which shrinks then, or it is released. -/
inductive TakingBack (w : Worker ω ρ κ) (id : ConnId) : Worker ω ρ κ → Prop
  | returned (key : PoolKey) (act : Act ρ κ) (w₁ : Worker ω ρ κ) (pool : Pool)
      (hreturns : act.Returns id key) (henabled : act.Enabled w.view)
      (hrun : act.run w.view = w₁.view) (hpool : w₁.ctx.pools.get? key = some pool) :
      TakingBack w id (w₁.shrink key)
  | dismissed (conn : Connection ρ κ) (key : PoolKey) (w' : Worker ω ρ κ)
      (hpath : Path w.view [.finished id conn (.dismissed key)] w'.view) : TakingBack w id w'

omit [Environment ω] in
/-- The direct connection under `id` becomes idle in the pool under `key`. -/
def adopt (w : Worker ω ρ κ) (id : ConnId) (key : PoolKey) : Worker ω ρ κ :=
  let w := w.modifyConn id Connection.withoutCaller
  let w := w.modifyConn id ({ · with overflowOf := none })
  let w := w.withCtx (·.strike id .registry)
  let w := w.modifyConn id ({ · with membership := .free key })
  w.withCtx (·.enlist id (.free key))

omit [Environment ω] in
/-- Adopting a direct connection is one transfer. -/
theorem view_adopt {w : Worker ω ρ κ} {conn : Connection ρ κ} (id : ConnId) (key : PoolKey)
    (hmembership : conn.membership = .registry) :
    (w.adopt id key).view = w.view.withCtx (·.transfer id conn (·.adoptedBy key)) := by
  refine View.ext ?_ rfl rfl rfl
  show _ = w.ctx.transfer id conn (·.adoptedBy key)
  rw [Context.transfer, hmembership]
  simp only [ctx_view, adopt, withCtx, modifyConn, Context.strike_modifyConn,
    Context.modifyConn_modifyConn]
  rfl

omit [Environment ω] in
/-- The lent connection under `id` goes back to the queue of the pool under
    `key`. -/
def putBack (w : Worker ω ρ κ) (id : ConnId) (key : PoolKey) : Worker ω ρ κ :=
  (w.modifyConn id (·.returnedTo key)).modifyPool key fun pool => (pool.dropBusy id).pushFree id

omit [Environment ω] in
/-- Putting a lent connection back is one transfer. -/
theorem view_putBack {w : Worker ω ρ κ} {conn : Connection ρ κ} (id : ConnId) {key : PoolKey}
    (hmembership : conn.membership = .busy key) :
    (w.putBack id key).view = w.view.withCtx (·.transfer id conn (·.returnedTo key)) :=
  View.ext (Context.transfer_of_return hmembership rfl) rfl rfl rfl

/-- A direct connection that comes back to a pool with room is taken over by
    it, and the pool shrinks. -/
theorem reclaimDirect_of_room {w : Worker ω ρ κ} {id : ConnId} {conn : Connection ρ κ}
    {key : PoolKey} {pool : Pool} (hconn : w.ctx.conn? id = some conn)
    (hmembership : conn.membership = .registry) (hoverflow : conn.overflowOf = some key)
    (hpool : w.ctx.pools.get? key = some pool) (hroom : pool.size < pool.config.maxSize) :
    ∃ pool₁ : Pool, (w.adopt id key).ctx.pools.get? key = some pool₁ ∧
      w.reclaimDirect id key =
        (.ok (), ((w.adopt id key).log (.adopted id key pool₁.size)).shrink key) ∧
      (Act.adopted id conn key pool₁.size).Enabled w.view ∧
      (Act.adopted id conn key pool₁.size).run w.view =
        ((w.adopt id key).log (.adopted id key pool₁.size)).view := by
  have hfree : w.ctx.HasRoom (.free key) := by
    refine Context.hasRoom_free (Context.poolConfig?_of_get? hpool) ?_
    rw [Context.poolSize_of_get? hpool]
    exact hroom
  have hany : ((w.ctx.pools.get? key).any fun pool => pool.size < pool.config.maxSize) = true :=
    (Option.any_eq_true _ _).2 ⟨pool, hpool, decide_eq_true hroom⟩
  have hview := view_adopt (w := w) id key hmembership
  have hctx : (w.adopt id key).ctx = w.ctx.transfer id conn (·.adoptedBy key) := ctx_of_view hview
  obtain ⟨pool₁, hpool₁⟩ := Context.exists_pool_of_transfer hctx (hfree.hasCollection key rfl)
  refine ⟨pool₁, hpool₁, ?_, ⟨hconn, hmembership, hoverflow, hfree⟩, ?_⟩
  · rw [reclaimDirect, hany, hconn]
    simp only [if_true]
    rw [← adopt, hpool₁]
  · rw [view_log, hview]
    rfl

/-- A direct connection that comes back to a pool without room is released. -/
theorem reclaimDirect_of_full {w : Worker ω ρ κ} {id : ConnId} {conn : Connection ρ κ}
    {key : PoolKey} (hconn : w.ctx.conn? id = some conn)
    (hmembership : conn.membership = .registry) (hoverflow : conn.overflowOf = some key)
    (hfull : ∀ pool, w.ctx.pools.get? key = some pool → ¬pool.size < pool.config.maxSize) :
    ∃ w' : Worker ω ρ κ, w.reclaimDirect id key = (.ok (), w') ∧
      Path w.view [.finished id conn (.dismissed key)] w'.view := by
  have hany : ((w.ctx.pools.get? key).any fun pool => pool.size < pool.config.maxSize) = false := by
    rw [Bool.eq_false_iff]
    intro hroom
    obtain ⟨pool, hpool, hlt⟩ := (Option.any_eq_true _ _).1 hroom
    exact hfull pool hpool (of_decide_eq_true hlt)
  rw [reclaimDirect, hany, hconn]
  simp only [Bool.false_eq_true, if_false]
  refine ⟨_, rfl, .single ⟨hconn, hmembership, hoverflow⟩ ?_⟩
  have hview : ((w.modifyConn id Connection.withoutCaller).log (.stillFull id key)).view =
      (w.view.withCtx (·.modifyConn id Connection.withoutCaller)).tell
        [.logged (.stillFull id key)] := rfl
  rw [view_release_modified hconn hview rfl, Act.run_finished]
  rfl

theorem reclaimDirect_cases {w w' : Worker ω ρ κ} {id : ConnId} {conn : Connection ρ κ}
    {key : PoolKey} {status : Status} (hconn : w.ctx.conn? id = some conn)
    (hmembership : conn.membership = .registry) (hoverflow : conn.overflowOf = some key)
    (h : w.reclaimDirect id key = (status, w')) : status = .ok () ∧ TakingBack w id w' := by
  by_cases hroom : ∃ pool, w.ctx.pools.get? key = some pool ∧ pool.size < pool.config.maxSize
  · obtain ⟨pool, hpool, hlt⟩ := hroom
    obtain ⟨pool₁, hpool₁, heq, enabled, hrun⟩ :=
      reclaimDirect_of_room hconn hmembership hoverflow hpool hlt
    rw [heq] at h
    obtain ⟨rfl, rfl⟩ := Prod.mk.inj h
    exact ⟨rfl, .returned key (.adopted id conn key pool₁.size) _ pool₁ ⟨rfl, rfl⟩ enabled hrun
      hpool₁⟩
  · obtain ⟨w₁, heq, hpath⟩ := reclaimDirect_of_full hconn hmembership hoverflow
      fun pool hpool hlt => hroom ⟨pool, hpool, hlt⟩
    rw [heq] at h
    obtain ⟨rfl, rfl⟩ := Prod.mk.inj h
    exact ⟨rfl, .dismissed conn key w₁ hpath⟩

/-- A connection that its pool has lent goes back to the queue of the pool,
    which shrinks then. -/
theorem reclaim_of_busy {w : Worker ω ρ κ} (hw : w.ctx.Orderly) {id : ConnId}
    {conn : Connection ρ κ} {key : PoolKey} (hconn : w.ctx.conn? id = some conn)
    (hmembership : conn.membership = .busy key) :
    ∃ pool₁ : Pool, (w.putBack id key).ctx.pools.get? key = some pool₁ ∧
      w.reclaim id =
        (.ok (), ((w.putBack id key).log (.reclaimed id key conn.state pool₁.load)).shrink key) ∧
      (Act.takenBack id conn key pool₁.load).Enabled w.view ∧
      (Act.takenBack id conn key pool₁.load).run w.view =
        ((w.putBack id key).log (.reclaimed id key conn.state pool₁.load)).view := by
  have hview := view_putBack (w := w) id hmembership
  -- a pool that lends a connection exists
  have hexists : (w.ctx.poolConfig? key).isSome :=
    hw.hasCollection hconn key (by rw [hmembership]; rfl)
  have hctx : (w.putBack id key).ctx = w.ctx.transfer id conn (·.returnedTo key) :=
    ctx_of_view hview
  obtain ⟨pool₁, hpool₁⟩ := Context.exists_pool_of_transfer hctx hexists
  refine ⟨pool₁, hpool₁, ?_, ⟨hconn, hmembership⟩, ?_⟩
  · have hback : (w.modifyConn id ({ ·.withoutCaller with membership := .free key })).modifyPool key
        (fun pool => (pool.dropBusy id).pushFree id) = w.putBack id key := rfl
    rw [reclaim, hconn]
    simp only [hmembership, hback, hpool₁]
  · rw [view_log, hview]
    rfl

theorem reclaim_of_overflow {w : Worker ω ρ κ} {id : ConnId} {conn : Connection ρ κ}
    {key : PoolKey} (hconn : w.ctx.conn? id = some conn)
    (hmembership : conn.membership = .registry) (hoverflow : conn.overflowOf = some key) :
    w.reclaim id = w.reclaimDirect id key := by
  rw [reclaim, hconn]
  simp only [hmembership, hoverflow]

/-- What is not live is not taken back. -/
theorem reclaim_of_none {w : Worker ω ρ κ} {id : ConnId} (hnone : w.ctx.conn? id = none) :
    w.reclaim id = (.error (.unknownConnection id), w) := by
  rw [reclaim, hnone]

/-- What is not lent is not taken back. -/
theorem reclaim_of_not_lent {w : Worker ω ρ κ} {id : ConnId} {conn : Connection ρ κ}
    (hconn : w.ctx.conn? id = some conn) (hbusy : ∀ key, conn.membership ≠ .busy key)
    (hdirect : ∀ key, conn.membership = .registry → conn.overflowOf ≠ some key) :
    w.reclaim id = (.error (.notBorrowed id), w) := by
  rw [reclaim, hconn]
  -- both other cases are excluded by the hypotheses
  simp only

/-- What is not taken back is left as it is. -/
theorem reclaim_cases {w w' : Worker ω ρ κ} {id : ConnId} {status : Status} (hw : w.ctx.Orderly)
    (h : w.reclaim id = (status, w')) :
    (status = .error (.unknownConnection id) ∧ w' = w) ∨
      (status = .error (.notBorrowed id) ∧ w' = w) ∨
      (status = .ok () ∧ TakingBack w id w') := by
  cases hconn : w.ctx.conn? id with
  | none =>
      rw [reclaim_of_none hconn] at h
      obtain ⟨rfl, rfl⟩ := Prod.mk.inj h
      exact .inl ⟨rfl, rfl⟩
  | some conn =>
      refine .inr ?_
      by_cases hbusy : ∃ key, conn.membership = .busy key
      · obtain ⟨key, hmembership⟩ := hbusy
        obtain ⟨pool, hpool, heq, enabled, hrun⟩ := reclaim_of_busy hw hconn hmembership
        rw [heq] at h
        obtain ⟨rfl, rfl⟩ := Prod.mk.inj h
        exact .inr ⟨rfl, .returned key (.takenBack id conn key pool.load) _ pool ⟨rfl, rfl⟩
          enabled hrun hpool⟩
      · by_cases hdirect : ∃ key, conn.membership = .registry ∧ conn.overflowOf = some key
        · obtain ⟨key, hmembership, hoverflow⟩ := hdirect
          rw [reclaim_of_overflow hconn hmembership hoverflow] at h
          exact .inr (reclaimDirect_cases hconn hmembership hoverflow h)
        · rw [reclaim_of_not_lent hconn (fun key hmembership => hbusy ⟨key, hmembership⟩)
            fun key hmembership hoverflow => hdirect ⟨key, hmembership, hoverflow⟩] at h
          obtain ⟨rfl, rfl⟩ := Prod.mk.inj h
          exact .inl ⟨rfl, rfl⟩

theorem reclaim_path {w w' : Worker ω ρ κ} {id : ConnId} {status : Status} (hw : w.ctx.Orderly)
    (h : w.reclaim id = (status, w')) :
    ∃ acts, Reclaiming id status acts ∧ Path w.view acts w'.view := by
  rcases reclaim_cases hw h with ⟨rfl, rfl⟩ | ⟨rfl, rfl⟩ | ⟨rfl, htaken⟩
  · exact ⟨[], .stale, .nil _⟩
  · exact ⟨[], .notBorrowed, .nil _⟩
  · cases htaken with
    | returned key act w₁ pool hreturns henabled hrun hpool =>
        have hw₁ : w₁.ctx.Orderly := by
          rw [← ctx_view, ← hrun]
          exact Act.orderly_run henabled hw
        obtain ⟨acts, hshrinks, hpath, -⟩ := shrink_path hw₁ hpool
        rw [← hrun] at hpath
        rcases hreturns.cases with ⟨conn, load, rfl⟩ | ⟨conn, size, rfl⟩
        · exact ⟨_, .takenBack conn key load acts hshrinks, .cons henabled hpath⟩
        · exact ⟨_, .adopted conn key size acts hshrinks, .cons henabled hpath⟩
    | dismissed conn key w' hpath => exact ⟨_, .dismissed conn key, hpath⟩

/-! ## Closing -/

/-- A disconnect is recorded, or ends the connection at once. -/
theorem disconnect_cases {w w' : Worker ω ρ κ} {id : ConnId} {onDisconnect : Option κ}
    {status : Status} (h : w.disconnect id onDisconnect = (status, w')) :
    (status = .error (.unknownConnection id) ∧ w' = w ∧ w.ctx.conn? id = none) ∨
      ∃ conn act, status = .ok () ∧ Path w.view [act] w'.view ∧
        (act = .deferred id conn onDisconnect ∨
          act = .finished id conn (.disconnected onDisconnect)) := by
  rw [disconnect] at h
  split at h
  · rename_i hnone
    obtain ⟨rfl, rfl⟩ := Prod.mk.inj h
    exact .inl ⟨rfl, rfl, hnone⟩
  · rename_i conn hconn
    refine .inr ⟨conn, ?_⟩
    simp only at h
    split at h
    · rename_i hbusy
      obtain ⟨rfl, rfl⟩ := Prod.mk.inj h
      have henabled : (Act.deferred id conn onDisconnect).Enabled w.view :=
        ⟨hconn, hbusy.1, by simpa using hbusy.2⟩
      refine ⟨_, rfl, .single henabled ?_, .inl rfl⟩
      rw [view_log, view_modifyConn, view_modifyConn, withCtx_modifyConn_modifyConn]
      rfl
    · rename_i hidle
      obtain ⟨rfl, rfl⟩ := Prod.mk.inj h
      -- what is neither deferred nor unknown is connected or idle
      have hends : conn.state = .connected ∨ conn.membership.isFree = true := by
        by_cases hstate : conn.state = .connected
        · exact .inl hstate
        · by_cases hfree : conn.membership.isFree = true
          · exact .inr hfree
          · exact absurd ⟨hstate, hfree⟩ hidle
      have henabled : (Act.finished id conn (.disconnected onDisconnect)).Enabled w.view :=
        ⟨hconn, hends⟩
      refine ⟨_, rfl, .single henabled ?_, .inr rfl⟩
      have hview : (w.modifyConn id ({ · with onDisconnect })).view =
          (w.view.withCtx (·.modifyConn id ({ · with onDisconnect }))).tell [] := by
        rw [View.tell_nil]
        rfl
      rw [view_release_modified hconn hview rfl, Act.run_finished]
      rfl

end Worker

/-! ## Readiness -/

/-- The ways in which a readiness report can end a connection. -/
def Ending.FromReport : Ending κ → Prop
  | pollFailed _ | refused .. | abandoned .. | deferred | lost .. => True
  | bad .. | disconnected _ | shrunk .. | dismissed _ | shutDown => False

theorem Ending.EndsStep.fits {conn : Connection ρ κ} {ending : Ending κ} (h : ending.EndsStep conn)
    (hstate : conn.state = .connecting) : ending.Fits conn := by
  cases ending with
  | pollFailed reason => exact hstate
  | refused poll reason => exact ⟨hstate, h⟩
  | deferred => exact ⟨hstate, h⟩
  | bad _ _ | abandoned _ _ | disconnected _ | lost _ _ | shrunk _ _ | dismissed _ | shutDown =>
      exact h.elim

theorem Ending.EndsStep.fromReport {conn : Connection ρ κ} {ending : Ending κ}
    (h : ending.EndsStep conn) : ending.FromReport := by
  cases ending with
  | pollFailed _ | refused _ _ | deferred => trivial
  | bad _ _ | abandoned _ _ | disconnected _ | lost _ _ | shrunk _ _ | dismissed _ | shutDown =>
      exact h.elim

/-- Whether a report tells that a handshake can go on. -/
def Readiness.Drives : Readiness → Prop
  | readable | writable => True
  | timeout | closed | error => False

/-- What a report leads to that drives a handshake: one step of it. -/
inductive Stepping (id : ConnId) (conn : Connection ρ κ) : List (Act ρ κ) → Prop
  | stepped (poll : PollReport) : Stepping id conn [.stepped id conn poll]
  | ended (ending : Ending κ) (hends : ending.EndsStep conn) (records : List LogRecord) :
      Stepping id conn [.finished id conn ending, .noted (records.map .logged)]

/-- What any other report leads to. -/
inductive Resting (id : ConnId) : List (Act ρ κ) → Prop
  | ignored (record : LogRecord) : Resting id [.noted [.logged record]]
  | abandoned (conn : Connection ρ κ) (event : Readiness) (reason : String) :
      Resting id [.finished id conn (.abandoned event reason), .noted []]
  | lost (conn : Connection ρ κ) (event : Readiness) (reason : String) :
      Resting id [.finished id conn (.lost event reason), .noted []]

/-- What a readiness report leads to. -/
inductive Advancing (id : ConnId) : List (Act ρ κ) → Prop
  | ignored (record : LogRecord) : Advancing id [.noted [.logged record]]
  | stepped (conn : Connection ρ κ) (poll : PollReport) : Advancing id [.stepped id conn poll]
  | ended (conn : Connection ρ κ) (ending : Ending κ) (hending : ending.FromReport)
      (records : List LogRecord) :
      Advancing id [.finished id conn ending, .noted (records.map .logged)]

theorem Stepping.advancing {id : ConnId} {conn : Connection ρ κ} {acts : List (Act ρ κ)}
    (h : Stepping id conn acts) : Advancing id acts := by
  cases h with
  | stepped poll => exact .stepped conn poll
  | ended ending hends records => exact .ended conn ending hends.fromReport records

theorem Resting.advancing {id : ConnId} {acts : List (Act ρ κ)} (h : Resting id acts) :
    Advancing id acts := by
  cases h with
  | ignored record => exact .ignored record
  | abandoned conn event reason => exact .ended conn (.abandoned event reason) trivial []
  | lost conn event reason => exact .ended conn (.lost event reason) trivial []

theorem isNote_of_mem_logged {records : List LogRecord} :
    ∀ event ∈ records.map (.logged : LogRecord → Event ρ κ), event.IsNote := by
  intro event hmem
  obtain ⟨record, -, rfl⟩ := List.mem_map.1 hmem
  trivial

namespace Worker

/-- A connection that a report ends, and what is logged of it afterwards. -/
theorem path_ended {w w₁ : Worker ω ρ κ} {id : ConnId} {conn : Connection ρ κ}
    {ending : Ending κ} (hconn : w.ctx.conn? id = some conn) (hfits : ending.Fits conn)
    (hview : w₁.view = (w.view.withCtx (·.without id conn)).tell (ending.events id conn))
    (records : List LogRecord) :
    Path w.view [.finished id conn ending, .noted (records.map .logged)]
      (w₁.logAll records).view := by
  refine .cons ⟨hconn, hfits⟩ ?_
  rw [Act.run_finished, ← hview]
  refine .single isNote_of_mem_logged ?_
  rw [view_logAll]
  rfl

variable [Environment ω]

theorem view_abortReason (w : Worker ω ρ κ) (session : SessionNo) (event : Readiness) :
    (w.abortReason session event).2.view = w.view := by
  cases event <;> rfl

omit [Environment ω] in
theorem conn?_log {w w₁ : Worker ω ρ κ} {id : ConnId} {conn : Connection ρ κ}
    (hconn : w.ctx.conn? id = some conn) (hview : w₁.view = w.view) (record : LogRecord) :
    (w₁.log record).ctx.conn? id = some conn := by
  show w₁.ctx.conn? id = some conn
  rw [ctx_of_view hview]
  exact hconn

theorem view_abandoned {w w₁ : Worker ω ρ κ} {id : ConnId} {conn : Connection ρ κ}
    (hconn : w.ctx.conn? id = some conn) (hview : w₁.view = w.view) (event : Readiness)
    (reason : String) :
    ((w₁.log (.handshakeAborted id event reason)).abort id (.handshake reason)).view =
      (w.view.withCtx (·.without id conn)).tell
        ((Ending.abandoned event reason).events id conn) := by
  rw [view_abort (conn?_log hconn hview _), view_log, hview, View.withCtx_tell, View.tell_tell]
  simp only [Ending.events, Ending.heralds, Ending.calls, List.append_assoc]

theorem view_lost {w w₁ : Worker ω ρ κ} {id : ConnId} {conn : Connection ρ κ}
    (hconn : w.ctx.conn? id = some conn) (hview : w₁.view = w.view) (event : Readiness)
    (reason : String) :
    ((w₁.log (.connectionLost id event reason)).release id
        (.error (.connectionLost reason))).2.view =
      (w.view.withCtx (·.without id conn)).tell ((Ending.lost event reason).events id conn) := by
  rw [(view_release (conn?_log hconn hview _) _).2, view_log, hview, View.withCtx_tell,
    View.tell_tell]
  simp only [Ending.events, Ending.heralds, Ending.calls, List.append_assoc]

/-- A handshake step that a readiness report asks for. -/
theorem advance_step {w : Worker ω ρ κ} {id : ConnId} {conn : Connection ρ κ}
    (hconn : w.ctx.conn? id = some conn) (hstate : conn.state = .connecting) :
    ∃ acts, Stepping id conn acts ∧
      Path w.view acts (match w.stepHandshake id with
        | (.ok (), w) => w
        | (.error e, w) => w.log (.stepEndedConnection id e)).view := by
  rcases hstep : w.stepHandshake id with ⟨status, w₁⟩
  have hcases := stepHandshake_cases hconn
  rw [hstep] at hcases
  rcases hcases with ⟨poll, hpoll, hnot, rfl, hview⟩ | ⟨ending, hends, rfl, hview⟩
  · exact ⟨_, .stepped poll, .single ⟨hconn, hstate, hpoll, hnot⟩ hview.symm⟩
  · -- a failure is logged once more by the report, a deferred release is not
    have hended := path_ended hconn (hends.fits hstate) hview
    cases hfailure : ending.failure? with
    | none =>
        simp only [Ending.status, hfailure]
        exact ⟨_, .ended ending hends [], hended []⟩
    | some error =>
        simp only [Ending.status, hfailure]
        exact ⟨_, .ended ending hends _, hended [.stepEndedConnection id error]⟩

/-- A report either drives a handshake that is under way, or leads to no step. -/
theorem advance_cases {w w' : Worker ω ρ κ} {id : ConnId} {event : Readiness}
    {state : Option ConnState} (h : w.advance id event = (state, w')) :
    (∃ conn, w.ctx.conn? id = some conn ∧ conn.state = .connecting ∧ event.Drives ∧
      ∃ acts, Stepping id conn acts ∧ Path w.view acts w'.view) ∨
    ((∀ conn, w.ctx.conn? id = some conn → conn.state = .connecting → ¬event.Drives) ∧
      ∃ acts, Resting id acts ∧ Path w.view acts w'.view) := by
  rw [advance] at h
  split at h
  · rename_i hnone
    obtain ⟨rfl, rfl⟩ := Prod.mk.inj h
    refine .inr ⟨fun conn hconn => ?_, _, .ignored (.staleReadiness id event), path_log w _⟩
    rw [hnone] at hconn
    cases hconn
  · rename_i conn hconn
    obtain ⟨-, rfl⟩ := Prod.mk.inj h
    -- there is one connection under the id, and its state is known in each case
    have hrests : ∀ {state : ConnState} {event : Readiness}, conn.state = state →
        (state = .connecting → ¬event.Drives) →
        ∀ other, w.ctx.conn? id = some other → other.state = .connecting → ¬event.Drives := by
      intro state event hstate hnot other hother hconnecting
      rw [hconn] at hother
      obtain rfl := Option.some.inj hother
      exact hnot (hstate.symm.trans hconnecting)
    split
    · rename_i hstate
      exact .inl ⟨conn, hconn, hstate, trivial, advance_step hconn hstate⟩
    · rename_i hstate
      exact .inl ⟨conn, hconn, hstate, trivial, advance_step hconn hstate⟩
    · rename_i event _ _ hstate hreadable hwritable
      have hview := view_abandoned hconn (view_abortReason w conn.session event) event
        (w.abortReason conn.session event).1
      have hfits : (Ending.abandoned event (w.abortReason conn.session event).1 : Ending κ).Fits
          conn := ⟨hstate, hreadable, hwritable⟩
      have hnot : ¬event.Drives := by
        cases event with
        | readable => exact absurd rfl hreadable
        | writable => exact absurd rfl hwritable
        | timeout | closed | error => exact fun hdrives => hdrives
      exact .inr ⟨hrests hstate fun _ => hnot, _, .abandoned conn event _,
        path_ended hconn hfits hview []⟩
    · rename_i hstate
      have hview := view_lost hconn (view_errorTextOr w conn.session "socket closed") .error
        (w.errorTextOr conn.session "socket closed").1
      have hfits : (Ending.lost .error (w.errorTextOr conn.session "socket closed").1 :
          Ending κ).Fits conn := ⟨hstate, .inl rfl⟩
      exact .inr ⟨hrests hstate fun hconnecting => ConnState.noConfusion hconnecting,
        _, .lost conn .error _, path_ended hconn hfits hview []⟩
    · rename_i hstate
      have hview := view_lost hconn (view_errorTextOr w conn.session "socket closed") .closed
        (w.errorTextOr conn.session "socket closed").1
      have hfits : (Ending.lost .closed (w.errorTextOr conn.session "socket closed").1 :
          Ending κ).Fits conn := ⟨hstate, .inr rfl⟩
      exact .inr ⟨hrests hstate fun hconnecting => ConnState.noConfusion hconnecting,
        _, .lost conn .closed _, path_ended hconn hfits hview []⟩
    · rename_i hother _ _ _ _
      exact .inr ⟨hrests rfl fun hstate => (hother hstate).elim, _, .ignored _, path_log w _⟩

theorem advance_path {w w' : Worker ω ρ κ} {id : ConnId} {event : Readiness}
    {state : Option ConnState} (h : w.advance id event = (state, w')) :
    ∃ acts, Advancing id acts ∧ Path w.view acts w'.view := by
  rcases advance_cases h with
    ⟨conn, -, -, -, acts, hstepping, hpath⟩ | ⟨-, acts, hresting, hpath⟩
  · exact ⟨acts, hstepping.advancing, hpath⟩
  · exact ⟨acts, hresting.advancing, hpath⟩

end Worker
end ConnPool
