/-
  ConnPool.Proofs.Worker.Slots

  The number of arena slots.  Only opening a connection can add a slot, and no
  operation takes one away, so an arena whose slots can all be addressed at
  the end of a run had this property throughout.
-/

import ConnPool.Proofs.Arena.WellFormed
import ConnPool.Proofs.Context.Collections
import ConnPool.Proofs.Worker.View

namespace ConnPool

/-- How many slots the arena of connections has. -/
def View.slotCount {ρ κ : Type} (v : View ρ κ) : Nat := v.ctx.conns.slots.length

namespace View

variable {ρ κ : Type} (v : View ρ κ)

@[simp] theorem slotCount_tell (events : List (Event ρ κ)) :
    (v.tell events).slotCount = v.slotCount := rfl

@[simp] theorem slotCount_modifyConn (id : ConnId) (f : Connection ρ κ → Connection ρ κ) :
    (v.withCtx (·.modifyConn id f)).slotCount = v.slotCount :=
  Arena.length_slots_modify v.ctx.conns id f

@[simp] theorem slotCount_modifyPool (key : PoolKey) (f : Pool → Pool) :
    (v.withCtx (·.modifyPool key f)).slotCount = v.slotCount := rfl

@[simp] theorem slotCount_enlist (id : ConnId) (membership : Membership) :
    (v.withCtx (·.enlist id membership)).slotCount = v.slotCount := by
  simp only [slotCount, ctx_withCtx, Context.conns_enlist]

@[simp] theorem slotCount_strike (id : ConnId) (membership : Membership) :
    (v.withCtx (·.strike id membership)).slotCount = v.slotCount := by
  simp only [slotCount, ctx_withCtx, Context.conns_strike]

end View

namespace Worker

variable {ω ρ κ : Type}

@[simp] theorem slotCount_miss (w : Worker ω ρ κ) (error : PoolError) :
    (w.miss error).view.slotCount = w.view.slotCount := rfl

@[simp] theorem slotCount_tellConnect (w : Worker ω ρ κ) (id : ConnId) (conn : Connection ρ κ)
    (status : Status) : (w.tellConnect id conn status).view.slotCount = w.view.slotCount := by
  rw [tellConnect]
  split <;> rfl

@[simp] theorem slotCount_tellDisconnect (w : Worker ω ρ κ) (id : ConnId)
    (conn : Connection ρ κ) (status : Status) :
    (w.tellDisconnect id conn status).view.slotCount = w.view.slotCount := by
  rw [tellDisconnect]
  split <;> rfl

@[simp] theorem slotCount_confirmConnect (w : Worker ω ρ κ) (id : ConnId) :
    (w.confirmConnect id).view.slotCount = w.view.slotCount := by
  rw [confirmConnect]
  split <;> simp

theorem slotCount_expectPool (w : Worker ω ρ κ) (membership : Membership) :
    (w.expectPool membership).view.slotCount = w.view.slotCount := by
  rw [expectPool]
  split
  · rfl
  · split <;> rfl

@[simp] theorem slotCount_link (w : Worker ω ρ κ) (id : ConnId) :
    (w.link id).view.slotCount = w.view.slotCount := by
  rw [link]
  split
  · rfl
  · rw [view_withCtx, View.slotCount_enlist, slotCount_expectPool]

theorem slotCount_le_addConn (w : Worker ω ρ κ) (conn : Connection ρ κ) :
    w.view.slotCount ≤ (w.addConn conn).2.view.slotCount :=
  Arena.length_slots_le_insert w.ctx.conns conn

theorem slotCount_ensurePool (w : Worker ω ρ κ) (key : PoolKey) :
    (w.ensurePool key).2.view.slotCount = w.view.slotCount := by
  rw [ensurePool]
  split
  · rfl
  · split <;> rfl

@[simp] theorem slotCount_poolAt (w : Worker ω ρ κ) (key : PoolKey) :
    (w.poolAt key).2.view.slotCount = w.view.slotCount := by
  have hensured := slotCount_ensurePool w key
  rw [poolAt]
  rcases hensure : w.ensurePool key with ⟨status, w₁⟩
  rw [hensure] at hensured
  cases status with
  | error e => exact hensured
  | ok =>
      simp only
      split
      · exact hensured
      · exact hensured

@[simp] theorem slotCount_lendFree (w : Worker ω ρ κ) (key : PoolKey) (request : Option ρ)
    (onConnect : Option κ) :
    (w.lendFree key request onConnect).2.view.slotCount = w.view.slotCount := by
  rw [lendFree]
  split
  · rfl
  · split
    · rfl
    · simp only
      split
      · simp
      · split
        · simp
        · simp

variable [Environment ω]

/-! ## Ends -/

@[simp] theorem slotCount_withdraw (w : Worker ω ρ κ) (id : ConnId) :
    (w.withdraw id).2.view.slotCount = w.view.slotCount := by
  have hslots := Arena.length_slots_remove w.ctx.conns id
  rw [withdraw]
  split
  · rfl
  · rename_i conn conns hremove
    rw [hremove] at hslots
    have hconns : (w.withCtx ({ · with conns })).view.slotCount = w.view.slotCount := hslots
    cases conn.registered with
    | false => simpa using hconns
    | true => simpa using hconns

@[simp] theorem slotCount_abort (w : Worker ω ρ κ) (id : ConnId) (error : PoolError) :
    (w.abort id error).view.slotCount = w.view.slotCount := by
  have hslots := slotCount_withdraw w id
  rw [abort]
  split
  · rename_i w₁ hwithdraw
    rwa [hwithdraw] at hslots
  · rename_i conn w₁ hwithdraw
    rw [hwithdraw] at hslots
    cases conn.disconnectPending with
    | false => simpa using hslots
    | true => simpa using hslots

@[simp] theorem slotCount_release (w : Worker ω ρ κ) (id : ConnId) (status : Status) :
    (w.release id status).2.view.slotCount = w.view.slotCount := by
  have hslots := slotCount_withdraw w id
  rw [release]
  split
  · rename_i w₁ hwithdraw
    rwa [hwithdraw] at hslots
  · rename_i conn w₁ hwithdraw
    rw [hwithdraw] at hslots
    simpa using hslots

theorem slotCount_shutdownConn (w : Worker ω ρ κ) (id : ConnId) :
    (w.shutdownConn id).view.slotCount = w.view.slotCount := by
  have hslots := slotCount_withdraw w id
  rw [shutdownConn]
  split
  · rename_i w₁ hwithdraw
    rwa [hwithdraw] at hslots
  · rename_i conn w₁ hwithdraw
    rw [hwithdraw] at hslots
    simpa using hslots

theorem slotCount_shutdown (w : Worker ω ρ κ) :
    w.shutdown.2.view.slotCount = w.view.slotCount := by
  have hall : ∀ (ids : List ConnId) (w : Worker ω ρ κ),
      (ids.foldl shutdownConn w).view.slotCount = w.view.slotCount := by
    intro ids
    induction ids with
    | nil => exact fun _ => rfl
    | cons id rest ih =>
        intro w
        rw [List.foldl_cons, ih, slotCount_shutdownConn]
  exact hall w.ctx.ids w

/-! ## Handshakes -/

@[simp] theorem slotCount_watchConn (w : Worker ω ρ κ) (id : ConnId) (socket : Int)
    (interest : Interest) :
    (w.watchConn id socket interest).2.view.slotCount = w.view.slotCount := by
  have hview := view_registerSocket w socket interest id
  rw [watchConn]
  split
  · rename_i w₁ hregister
    simp only [hregister] at hview
    simp [hview]
  · rename_i reason w₁ hregister
    simp only [hregister] at hview
    simp [hview]

@[simp] theorem slotCount_stepHandshake (w : Worker ω ρ κ) (id : ConnId) :
    (w.stepHandshake id).2.view.slotCount = w.view.slotCount := by
  rw [stepHandshake]
  cases hconn : w.ctx.conn? id with
  | none => rfl
  | some conn =>
      have hview := view_pollSession w conn.session
      rcases hpoll : w.pollSession conn.session with ⟨poll, w₁⟩
      simp only [hpoll] at hview ⊢
      cases poll with
      | failed => simp [hview]
      | ok =>
          simp only
          split
          · simp [hview]
          · generalize hw₂ : Worker.modifyConn _ id _ = w₂
            have hcount : w₂.view.slotCount = w.view.slotCount := by
              rw [← hw₂]
              simp [hview]
            have hslots := slotCount_watchConn w₂ id conn.socket .none
            rcases hwatch : w₂.watchConn id conn.socket .none with ⟨status, w₃⟩
            rw [hwatch, hcount] at hslots
            cases status with
            | error e => exact hslots
            | ok =>
                simpa only [slotCount_confirmConnect, view_log, View.slotCount_tell] using hslots
      | reading => simp [hview]
      | writing => simp [hview]

/-! ## Openings -/

@[simp] theorem slotCount_startSession (w : Worker ω ρ κ) (target : Target) :
    (w.startSession target).2.view.slotCount = w.view.slotCount := by
  rcases view_startSession w target with ⟨-, hview⟩ | ⟨-, records, hview⟩
  · rw [hview]
    rfl
  · rw [hview]
    rfl

/-- Once the connection is in, an opening takes no further slot. -/
@[simp] theorem slotCount_finishOpening (w : Worker ω ρ κ) (id : ConnId) (socket : Int) :
    (w.finishOpening id socket).2.view.slotCount = w.view.slotCount := by
  have hslots := slotCount_stepHandshake w id
  rw [finishOpening]
  rcases hstep : w.stepHandshake id with ⟨status, w₁⟩
  rw [hstep] at hslots
  cases status with
  | error e => exact hslots
  | ok => simpa only [view_log, View.slotCount_tell, slotCount_link] using hslots

theorem slotCount_le_establish (w : Worker ω ρ κ) (target : Target) (request : Option ρ)
    (onConnect : Option κ) (membership : Membership) :
    w.view.slotCount ≤ (w.establish target request onConnect membership).2.view.slotCount := by
  have hslots := slotCount_startSession w target
  rw [establish]
  rcases hstart : w.startSession target with ⟨session?, w₁⟩
  rw [hstart] at hslots
  -- from here on only putting the connection in can add a slot
  rw [← hslots]
  cases session? with
  | none => exact Nat.le_refl _
  | some session =>
      have hview := view_sessionHealth w₁ session
      rcases hhealth : w₁.sessionHealth session with ⟨health, w₂⟩
      simp only [hhealth] at hview ⊢
      rw [← hview]
      cases health with
      | bad =>
          simp only [slotCount_abort]
          exact slotCount_le_addConn ((w₂.errorText session).2.log _) _
      | ok =>
          have hview := view_setNonblocking w₂ session
          rcases hmode : w₂.setNonblocking session with ⟨refusal, w₃⟩
          simp only [hmode] at hview ⊢
          cases refusal with
          | some reason => simp [hview]
          | none =>
              simp only [slotCount_finishOpening]
              refine Nat.le_trans ?_ (slotCount_le_addConn _ _)
              simp [hview]

theorem slotCount_le_connect (w : Worker ω ρ κ) (request : Option ρ) (onConnect : Option κ)
    (keys values : List String) (expandDbname : Bool) :
    w.view.slotCount ≤
      (w.connect request onConnect keys values expandDbname).2.view.slotCount := by
  rw [connect]
  split
  · exact Nat.le_refl _
  · exact slotCount_le_establish ..

/-! ## Lending -/

theorem slotCount_le_openFree (key : PoolKey) (target : Target) (requested remaining opened : Nat)
    (w : Worker ω ρ κ) :
    w.view.slotCount ≤ (openFree key target requested remaining opened w).2.view.slotCount := by
  -- over what is still to be opened
  induction remaining generalizing opened w with
  | zero => exact Nat.le_refl _
  | succ remaining ih =>
      have hopen := slotCount_le_establish w target none none (.free key)
      rw [openFree]
      rcases hestablish : w.establish target none none (.free key) with ⟨outcome, w₁⟩
      rw [hestablish] at hopen
      cases outcome with
      | ok id => exact Nat.le_trans hopen (ih (opened + 1) w₁)
      | error e => exact hopen

/-- After the openings, spawning only logs. -/
theorem slotCount_spawn_of_poolAt {w w₁ : Worker ω ρ κ} {key : PoolKey} {pool : Pool}
    (h : w.poolAt key = (.ok pool, w₁)) (count : Nat) :
    (w.spawn key count).2.view.slotCount =
      (openFree key pool.config.target (min count pool.room) (min count pool.room) 0
        w₁).2.view.slotCount := by
  rw [spawn, h]
  simp only
  split
  · rfl
  · split
    · rfl
    · rfl

theorem slotCount_le_spawn (w : Worker ω ρ κ) (key : PoolKey) (count : Nat) :
    w.view.slotCount ≤ (w.spawn key count).2.view.slotCount := by
  have hslots := slotCount_poolAt w key
  rcases hpool : w.poolAt key with ⟨outcome, w₁⟩
  rw [hpool] at hslots
  rw [← hslots]
  cases outcome with
  | error e =>
      have hfails : w.spawn key count = (.error e, w₁) := by rw [spawn, hpool]
      exact Nat.le_of_eq (by rw [hfails])
  | ok pool =>
      rw [slotCount_spawn_of_poolAt hpool]
      exact slotCount_le_openFree ..

/-- What is opened in the stead of a pool takes the slots. -/
theorem slotCount_lendDirect {w : Worker ω ρ κ} {key : PoolKey} {pool : Pool}
    (hpool : w.ctx.pools.get? key = some pool) (request : Option ρ) (onConnect : Option κ) :
    (w.lendDirect key request onConnect).2.view.slotCount =
      ((w.log (.overflowing key pool.size pool.config.maxSize)).establish pool.config.target request
        onConnect .registry).2.view.slotCount := by
  rw [lendDirect, hpool]
  simp only
  split
  · rename_i e w₁ hestablish
    rw [hestablish]
  · rename_i id w₁ hestablish
    rw [hestablish]
    simp

theorem slotCount_le_lendDirect (w : Worker ω ρ κ) (key : PoolKey) (request : Option ρ)
    (onConnect : Option κ) :
    w.view.slotCount ≤ (w.lendDirect key request onConnect).2.view.slotCount := by
  cases hpool : w.ctx.pools.get? key with
  | none =>
      rw [lendDirect, hpool]
      exact Nat.le_refl _
  | some pool =>
      rw [slotCount_lendDirect hpool]
      exact slotCount_le_establish (w.log (.overflowing key pool.size pool.config.maxSize)) ..

/-- An acquisition that makes the pool grow takes the slots that the growth
    takes. -/
theorem slotCount_acquire_of_room {w w₁ : Worker ω ρ κ} {key : PoolKey} {pool : Pool}
    (h : w.poolAt key = (.ok pool, w₁)) (hfree : pool.free = [])
    (hroom : pool.size < pool.config.maxSize) (request : Option ρ) (onConnect : Option κ) :
    (w.acquire key request onConnect).2.view.slotCount =
      (w₁.spawn key (pool.config.growth pool.size)).2.view.slotCount := by
  rw [acquire, h]
  simp only
  rw [if_neg (not_not.2 hfree), if_pos hroom]
  rcases w₁.spawn key (pool.config.growth pool.size) with ⟨status, w₂⟩
  cases status with
  | error e => rfl
  | ok => exact slotCount_lendFree w₂ key request onConnect

theorem slotCount_le_acquire (w : Worker ω ρ κ) (key : PoolKey) (request : Option ρ)
    (onConnect : Option κ) :
    w.view.slotCount ≤ (w.acquire key request onConnect).2.view.slotCount := by
  have hslots := slotCount_poolAt w key
  rcases hpool : w.poolAt key with ⟨outcome, w₁⟩
  rw [hpool] at hslots
  rw [← hslots]
  cases outcome with
  | error e =>
      have hfails : w.acquire key request onConnect = (.error e, w₁) := by rw [acquire, hpool]
      exact Nat.le_of_eq (by rw [hfails])
  | ok pool =>
      by_cases hfree : pool.free = []
      · by_cases hroom : pool.size < pool.config.maxSize
        · rw [slotCount_acquire_of_room hpool hfree hroom]
          exact slotCount_le_spawn w₁ key _
        · rw [acquire, hpool]
          simp only
          rw [if_neg (not_not.2 hfree), if_neg hroom]
          exact slotCount_le_lendDirect w₁ key request onConnect
      · rw [acquire, hpool]
        simp only
        rw [if_pos hfree]
        exact Nat.le_of_eq (slotCount_lendFree w₁ key request onConnect).symm

/-! ## Taking back -/

@[simp] theorem slotCount_shrink (w : Worker ω ρ κ) (key : PoolKey) :
    (w.shrink key).view.slotCount = w.view.slotCount := by
  -- over the idle queue as it was when the shrinking began
  have halong : ∀ (queue : List ConnId) (w : Worker ω ρ κ),
      (shrinkAlong key queue w).view.slotCount = w.view.slotCount := by
    intro queue
    induction queue with
    | nil => exact fun _ => rfl
    | cons oldest rest ih =>
        intro w
        rw [shrinkAlong]
        split
        · rfl
        · rename_i pool _
          split
          · have hslots := slotCount_release (w.log (.shrinking oldest key pool.load)) oldest
              (.ok ())
            split
            · rename_i w₁ hrelease
              rw [hrelease] at hslots
              rw [ih]
              exact hslots
            · rename_i w₁ hrelease
              rw [hrelease] at hslots
              rw [ih]
              exact hslots
          · rfl
  rw [shrink]
  split
  · rfl
  · exact halong _ w

theorem slotCount_reclaimDirect (w : Worker ω ρ κ) (id : ConnId) (key : PoolKey) :
    (w.reclaimDirect id key).2.view.slotCount = w.view.slotCount := by
  rw [reclaimDirect]
  simp only
  split
  · rfl
  · split
    · simp only [slotCount_shrink]
      split <;> simp
    · simp

theorem slotCount_reclaim (w : Worker ω ρ κ) (id : ConnId) :
    (w.reclaim id).2.view.slotCount = w.view.slotCount := by
  rw [reclaim]
  split
  · rfl
  · split
    · simp only
      split
      · simp
      · simp
    · exact slotCount_reclaimDirect w id _
    · rfl

theorem slotCount_disconnect (w : Worker ω ρ κ) (id : ConnId) (onDisconnect : Option κ) :
    (w.disconnect id onDisconnect).2.view.slotCount = w.view.slotCount := by
  rw [disconnect]
  split
  · rfl
  · simp only
    split
    · simp
    · simp

/-! ## Operations -/

theorem slotCount_reportedStep (w : Worker ω ρ κ) (id : ConnId) :
    (match w.stepHandshake id with
      | (.ok (), w) => w
      | (.error e, w) => w.log (.stepEndedConnection id e)).view.slotCount = w.view.slotCount := by
  have hslots := slotCount_stepHandshake w id
  rcases hstepped : w.stepHandshake id with ⟨status, w₁⟩
  rw [hstepped] at hslots
  cases status with
  | error e => exact hslots
  | ok => exact hslots

theorem slotCount_advance (w : Worker ω ρ κ) (id : ConnId) (event : Readiness) :
    (w.advance id event).2.view.slotCount = w.view.slotCount := by
  have hreason : ∀ conn : Connection ρ κ,
      (w.abortReason conn.session event).2.view.slotCount = w.view.slotCount := by
    intro conn
    cases event <;> rfl
  rw [advance]
  split
  · rfl
  · rename_i conn _
    simp only
    split
    · exact slotCount_reportedStep w id
    · exact slotCount_reportedStep w id
    · simp [hreason]
    · simp
    · simp
    · rfl

theorem slotCount_callSession (w : Worker ω ρ κ) (session : SessionNo) (call : SessionCall) :
    (w.callSession session call).2.view.slotCount = w.view.slotCount := by
  cases call <;> rfl

theorem slotCount_le_perform (w : Worker ω ρ κ) (operation : Operation ρ κ) :
    w.view.slotCount ≤ (w.perform operation).2.view.slotCount := by
  cases operation with
  | connect request onConnect keys values expandDbname =>
      exact slotCount_le_connect w request onConnect keys values expandDbname
  | connectUri request onConnect uri => exact slotCount_le_establish ..
  | acquire key request onConnect => exact slotCount_le_acquire w key request onConnect
  | spawn key count => exact slotCount_le_spawn w key count
  | reclaim id => exact Nat.le_of_eq (slotCount_reclaim w id).symm
  | disconnect id onDisconnect => exact Nat.le_of_eq (slotCount_disconnect w id onDisconnect).symm
  | advance id event => exact Nat.le_of_eq (slotCount_advance w id event).symm
  | session id call =>
      rw [perform]
      split
      · exact Nat.le_refl _
      · exact Nat.le_of_eq (slotCount_callSession w _ call).symm
  | shutdown => exact Nat.le_of_eq (slotCount_shutdown w).symm

end Worker
end ConnPool
