/-
  ConnPool.Proofs.Worker.Secrecy

  Operations and the contents of targets.

  Opening a session is the one thing that is done with a target, and the one
  thing that is told of it is its kind.  So an operation on two workers that
  differ in the contents of their targets has one answer, and leaves two that
  differ in them only.
-/

import ConnPool.Proofs.Worker.Alike
import ConnPool.Proofs.Worker.View

namespace ConnPool
namespace Worker

variable {ω ρ κ : Type} {R : ω → ω → Prop} {w w' : Worker ω ρ κ}

theorem Same.state (h : w.Alike R w') (id : ConnId) :
    Same R (w.ctx.state? id, w) (w'.ctx.state? id, w') := by
  rw [h.state?]
  exact .intro h

namespace Alike

/-! ## Opening and closing -/

section

variable [Environment ω] (hR : Environment.Oblivious R)

include hR

theorem finishOpening (h : w.Alike R w') (id : ConnId) (socket : Int) :
    Same R (w.finishOpening id socket) (w'.finishOpening id socket) := by
  obtain ⟨status, w₁, w₁', hw, hw', h₁⟩ := stepHandshake hR h id
  rw [Worker.finishOpening, Worker.finishOpening, hw, hw']
  cases status with
  | error e => exact .intro h₁
  | ok =>
      -- a connection that survives its first step is listed
      have h₂ := h₁.link id
      simp only [h₂.state?]
      exact .intro (h₂.log _)

theorem establish (h : w.Alike R w') {target target' : Target} (hkind : target.kind = target'.kind)
    (request : Option ρ) (onConnect : Option κ) (membership : Membership) :
    Same R (w.establish target request onConnect membership)
      (w'.establish target' request onConnect membership) := by
  obtain ⟨session?, w₁, w₁', hw, hw', h₁⟩ := startSession hR h hkind
  -- from here on the target is told by its kind
  rw [Worker.establish, Worker.establish, hw, hw', hkind]
  cases session? with
  | none => exact .intro (h₁.log _)
  | some session =>
      obtain ⟨health, w₂, w₂', hw₂, hw₂', h₂⟩ := sessionHealth hR h₁ session
      simp only [hw₂, hw₂']
      cases health with
      | bad =>
          obtain ⟨reason, w₃, w₃', hw₃, hw₃', h₃⟩ := errorText hR h₂ session
          simp only [hw₃, hw₃']
          obtain ⟨id, w₄, w₄', hw₄, hw₄', h₄⟩ :=
            (h₃.log (.connectError target'.kind reason)).addConn
              { session, request, onConnect, membership }
          simp only [hw₄, hw₄']
          exact .intro (abort hR h₄ id _)
      | ok =>
          obtain ⟨refusal, w₃, w₃', hw₃, hw₃', h₃⟩ := setNonblocking hR h₂ session
          simp only [hw₃, hw₃']
          cases refusal with
          | some reason => exact .intro (tearDown hR (h₃.log _) session)
          | none =>
              obtain ⟨socket, w₄, w₄', hw₄, hw₄', h₄⟩ := sessionSocket hR h₃ session
              simp only [hw₄, hw₄']
              obtain ⟨id, w₅, w₅', hw₅, hw₅', h₅⟩ := h₄.addConn
                { session, socket, request, onConnect, membership }
              simp only [hw₅, hw₅']
              exact finishOpening hR h₅ id socket

theorem connect (h : w.Alike R w') (request : Option ρ) (onConnect : Option κ)
    {keys keys' values values' : List String} (hkeys : keys.length = keys'.length)
    (hvalues : values.length = values'.length) (expandDbname expandDbname' : Bool) :
    Same R (w.connect request onConnect keys values expandDbname)
      (w'.connect request onConnect keys' values' expandDbname') := by
  rw [Worker.connect, Worker.connect, Target.ofLists, Target.ofLists, hkeys, hvalues]
  -- only the numbers of keys and values decide, and only they are told
  have hkind : (Target.params (keys.zip values) expandDbname).kind =
      (Target.params (keys'.zip values') expandDbname').kind := rfl
  by_cases hlengths : keys'.length = values'.length
  · rw [if_pos hlengths, if_pos hlengths]
    exact establish hR h hkind request onConnect .registry
  · rw [if_neg hlengths, if_neg hlengths]
    exact .intro h

theorem connectUri (h : w.Alike R w') (request : Option ρ) (onConnect : Option κ)
    (uri uri' : String) :
    Same R (w.connectUri request onConnect uri) (w'.connectUri request onConnect uri') := by
  have hkind : (Target.uri uri).kind = (Target.uri uri').kind := rfl
  exact establish hR h hkind request onConnect .registry

theorem disconnect (h : w.Alike R w') (id : ConnId) (onDisconnect : Option κ) :
    Same R (w.disconnect id onDisconnect) (w'.disconnect id onDisconnect) := by
  rw [Worker.disconnect, Worker.disconnect, h.conn?]
  cases w'.ctx.conn? id with
  | none => exact .intro h
  | some conn =>
      have h₁ := h.modifyConn id ({ · with onDisconnect })
      dsimp only
      split
      · exact .intro ((h₁.modifyConn id _).log _)
      · obtain ⟨live, w₂, w₂', hw₂, hw₂', h₂⟩ := release hR h₁ id (.ok ())
        rw [hw₂, hw₂']
        exact .intro h₂

/-! ## Readiness -/

theorem abortReason (h : w.Alike R w') (session : SessionNo) (event : Readiness) :
    Same R (w.abortReason session event) (w'.abortReason session event) := by
  cases event with
  | timeout | closed => exact .intro h
  | readable | writable | error => exact errorTextOr hR h session _

theorem advance (h : w.Alike R w') (id : ConnId) (event : Readiness) :
    Same R (w.advance id event) (w'.advance id event) := by
  rw [Worker.advance, Worker.advance, h.conn?]
  cases w'.ctx.conn? id with
  | none => exact .intro (h.log _)
  | some conn =>
      refine Same.state ?_ id
      -- the state and the event decide, and they are the same for both
      generalize conn.state = state
      cases state with
      | closed => exact h.log _
      | connecting =>
          have haborts := abortReason hR h conn.session event
          cases event with
          | readable | writable =>
              obtain ⟨status, w₁, w₁', hw, hw', h₁⟩ := stepHandshake hR h id
              simp only [hw, hw']
              cases status with
              | ok => exact h₁
              | error e => exact h₁.log _
          | error | closed | timeout =>
              obtain ⟨reason, w₁, w₁', hw, hw', h₁⟩ := haborts
              simp only [hw, hw']
              exact abort hR (h₁.log _) id _
      | connected =>
          cases event with
          | readable | writable | timeout => exact h.log _
          | error | closed =>
              obtain ⟨reason, w₁, w₁', hw, hw', h₁⟩ :=
                errorTextOr hR h conn.session "socket closed"
              simp only [hw, hw']
              obtain ⟨live, w₂, w₂', hw₂, hw₂', h₂⟩ := release hR
                (h₁.log (.connectionLost id _ reason)) id (.error (.connectionLost reason))
              rw [hw₂, hw₂']
              exact h₂

end

/-! ## Pools -/

/-- A pool is found by both workers, or created, or not registered for either. -/
theorem poolAt (h : w.Alike R w') (key : PoolKey) :
    (∃ error, w.poolAt key = (.error error, w) ∧ w'.poolAt key = (.error error, w')) ∨
      ∃ pool target w₁ w₁', w.poolAt key = (.ok pool, w₁) ∧
        w'.poolAt key = (.ok (pool.towards target), w₁') ∧
        pool.config.target.kind = target.kind ∧ w₁.Alike R w₁' := by
  rcases h.get?_pools key with ⟨hnone, hnone'⟩ | ⟨pool, target, hget, hget', hkind⟩
  · rcases h.get?_configs key with ⟨hconfig, hconfig'⟩ | ⟨config, target, hconfig, hconfig', hkind⟩
    · exact .inl ⟨_, poolAt_of_unregistered hnone hconfig, poolAt_of_unregistered hnone' hconfig'⟩
    · exact .inr ⟨{ config }, target, _, _, poolAt_of_none hnone hconfig,
        poolAt_of_none hnone' hconfig', hkind,
        (h.log (.poolCreated key config.minSize config.maxSize)).addPool key { config } hkind⟩
  · exact .inr ⟨pool, target, w, w', poolAt_of_get? hget, poolAt_of_get? hget', hkind, h⟩

/-- Which idle connection is lent does not depend on targets. -/
theorem pickFree? (h : w.Alike R w') (pool : Pool) (target : Target) :
    Worker.pickFree? w'.ctx (pool.towards target) = Worker.pickFree? w.ctx pool := by
  simp only [Worker.pickFree?, h.state?]
  rfl

theorem lendFree (h : w.Alike R w') (key : PoolKey) (request : Option ρ) (onConnect : Option κ) :
    Same R (w.lendFree key request onConnect) (w'.lendFree key request onConnect) := by
  rw [Worker.lendFree, Worker.lendFree]
  rcases h.get?_pools key with ⟨hnone, hnone'⟩ | ⟨pool, target, hget, hget', hkind⟩
  · rw [hnone, hnone']
    exact .intro (h.miss _)
  · rw [hget, hget']
    simp only [h.pickFree?]
    cases Worker.pickFree? w.ctx pool with
    | none => exact .intro (h.miss _)
    | some id =>
        -- what is put back still differs in the target only
        have h₁ : (w.modifyPool key fun _ =>
              { pool with free := pool.free.erase id, busy := pool.busy ++ [id] }).Alike R
            (w'.modifyPool key fun _ =>
              { pool.towards target with
                free := (pool.towards target).free.erase id
                busy := (pool.towards target).busy ++ [id] }) :=
          h.putPool key { pool with free := pool.free.erase id, busy := pool.busy ++ [id] } hkind
        simp only [h₁.conn?]
        cases (w'.modifyPool key _).ctx.conn? id with
        | none => exact .intro (h₁.miss _)
        | some conn =>
            have h₂ := (h₁.modifyConn id
              ({ · with membership := .busy key, request, onConnect })).log
                (.lent id key conn.state
                  { pool with free := pool.free.erase id, busy := pool.busy ++ [id] }.load)
            by_cases hstate : conn.state = .connected
            · simp only [if_pos hstate]
              exact .intro (h₂.confirmConnect id)
            · simp only [if_neg hstate]
              exact .intro h₂

section

variable [Environment ω] (hR : Environment.Oblivious R)

include hR

/-! ## Lending -/

theorem openFree (h : w.Alike R w') (key : PoolKey) {target target' : Target}
    (hkind : target.kind = target'.kind) (requested remaining opened : Nat) :
    Same R (Worker.openFree key target requested remaining opened w)
      (Worker.openFree key target' requested remaining opened w') := by
  induction remaining generalizing opened w w' with
  | zero => exact .intro h
  | succ remaining ih =>
      obtain ⟨outcome, w₁, w₁', hw, hw', h₁⟩ := establish hR h hkind none none (.free key)
      rw [Worker.openFree, Worker.openFree, hw, hw']
      cases outcome with
      | ok id => exact ih h₁ (opened + 1)
      | error e => exact .intro (h₁.log _)

theorem spawn (h : w.Alike R w') (key : PoolKey) (count : Nat) :
    Same R (w.spawn key count) (w'.spawn key count) := by
  rw [Worker.spawn, Worker.spawn]
  rcases h.poolAt key with ⟨error, hw, hw'⟩ | ⟨pool, target, w₁, w₁', hw, hw', hkind, h₁⟩
  · rw [hw, hw']
    exact .intro h
  · obtain ⟨opened, w₂, w₂', hw₂, hw₂', h₂⟩ :=
      openFree hR h₁ key hkind (min count pool.room) (min count pool.room) 0
    rw [hw, hw']
    simp only [Pool.room_towards, Pool.config_towards, PoolConfig.target_towards, hw₂, hw₂']
    rcases h₂.get?_pools key with ⟨hnone, hnone'⟩ | ⟨pool₂, target₂, hget, hget', -⟩
    · simp only [hnone, hnone']
      exact .intro (h₂.miss _)
    · simp only [hget, hget']
      have h₃ := h₂.log (.spawned key (min count pool.room) opened pool₂.load)
      exact .ite Iff.rfl (fun _ => .intro h₃) fun _ => .intro h₃

theorem lendDirect (h : w.Alike R w') (key : PoolKey) (request : Option ρ)
    (onConnect : Option κ) :
    Same R (w.lendDirect key request onConnect) (w'.lendDirect key request onConnect) := by
  rw [Worker.lendDirect, Worker.lendDirect]
  rcases h.get?_pools key with ⟨hnone, hnone'⟩ | ⟨pool, target, hget, hget', hkind⟩
  · rw [hnone, hnone']
    exact .intro (h.miss _)
  · have h₁ := h.log (.overflowing key pool.size pool.config.maxSize)
    obtain ⟨outcome, w₂, w₂', hw, hw', h₂⟩ := establish hR h₁ hkind request onConnect .registry
    rw [hget, hget']
    simp only [Pool.size_towards, Pool.config_towards, PoolConfig.maxSize_towards,
      PoolConfig.target_towards, hw, hw']
    cases outcome with
    | error e => exact .intro h₂
    | ok id => exact .intro ((h₂.modifyConn id _).modifyPool key fun _ => rfl)

theorem acquire (h : w.Alike R w') (key : PoolKey) (request : Option ρ) (onConnect : Option κ) :
    Same R (w.acquire key request onConnect) (w'.acquire key request onConnect) := by
  rw [Worker.acquire, Worker.acquire]
  rcases h.poolAt key with ⟨error, hw, hw'⟩ | ⟨pool, target, w₁, w₁', hw, hw', hkind, h₁⟩
  · rw [hw, hw']
    exact .intro h
  · rw [hw, hw']
    refine .ite Iff.rfl (fun _ => h₁.lendFree key request onConnect) fun _ => ?_
    refine .ite Iff.rfl (fun _ => ?_) fun _ => lendDirect hR h₁ key request onConnect
    -- what a pool grows by does not depend on its target
    obtain ⟨status, w₂, w₂', hw₂, hw₂', h₂⟩ := spawn hR h₁ key (pool.config.growth pool.size)
    have hspawn' : w₁'.spawn key
        ((pool.towards target).config.growth (pool.towards target).size) = (status, w₂') := hw₂'
    rw [hw₂, hspawn']
    cases status with
    | error e => exact .intro h₂
    | ok done => exact h₂.lendFree key request onConnect

/-! ## Taking back -/

theorem shrinkAlong (h : w.Alike R w') (key : PoolKey) (queue : List ConnId) :
    (Worker.shrinkAlong key queue w).Alike R (Worker.shrinkAlong key queue w') := by
  -- over the queue: the pool is slack for both workers or for neither
  induction queue generalizing w w' with
  | nil => exact h
  | cons oldest rest ih =>
      rw [Worker.shrinkAlong, Worker.shrinkAlong]
      rcases h.get?_pools key with ⟨hnone, hnone'⟩ | ⟨pool, target, hget, hget', -⟩
      · rw [hnone, hnone']
        exact h.miss _
      · obtain ⟨live, w₁, w₁', hw, hw', h₁⟩ :=
          release hR (h.log (.shrinking oldest key pool.load)) oldest (.ok ())
        rw [hget, hget']
        simp only [Pool.isSlack_towards, Pool.load_towards, hw, hw']
        split
        · cases live with
          | true => exact ih h₁
          | false => exact ih ((h₁.miss _).modifyPool key fun _ => rfl)
        · exact h

theorem shrink (h : w.Alike R w') (key : PoolKey) : (w.shrink key).Alike R (w'.shrink key) := by
  rw [Worker.shrink, Worker.shrink]
  rcases h.get?_pools key with ⟨hnone, hnone'⟩ | ⟨pool, target, hget, hget', -⟩
  · rw [hnone, hnone']
    exact h.miss _
  · rw [hget, hget']
    exact shrinkAlong hR h key pool.free

theorem reclaimDirect (h : w.Alike R w') (id : ConnId) (key : PoolKey) :
    Same R (w.reclaimDirect id key) (w'.reclaimDirect id key) := by
  have hroom : ((w.ctx.pools.get? key).any fun pool => pool.size < pool.config.maxSize) =
      (w'.ctx.pools.get? key).any fun pool => pool.size < pool.config.maxSize := by
    rcases h.get?_pools key with ⟨hnone, hnone'⟩ | ⟨pool, target, hget, hget', -⟩
    · rw [hnone, hnone']
    · rw [hget, hget']
      rfl
  rw [Worker.reclaimDirect, Worker.reclaimDirect, hroom, h.conn?]
  cases w'.ctx.conn? id with
  | none => exact .intro (h.miss _)
  | some conn =>
      have h₁ := h.modifyConn id Connection.withoutCaller
      dsimp only
      split
      · -- the pool takes the connection over
        have h₂ := (((h₁.modifyConn id ({ · with overflowOf := none })).strike id
          .registry).modifyConn id ({ · with membership := .free key })).enlist id (.free key)
        refine .intro (shrink hR ?_ key)
        rcases h₂.get?_pools key with ⟨hnone, hnone'⟩ | ⟨pool, target, hget, hget', -⟩
        · rw [hnone, hnone']
          exact h₂.miss _
        · rw [hget, hget']
          exact h₂.log (.adopted id key pool.size)
      · obtain ⟨live, w₂, w₂', hw, hw', h₂⟩ := release hR (h₁.log (.stillFull id key)) id (.ok ())
        rw [hw, hw']
        exact .intro h₂

theorem reclaim (h : w.Alike R w') (id : ConnId) : Same R (w.reclaim id) (w'.reclaim id) := by
  rw [Worker.reclaim, Worker.reclaim, h.conn?]
  cases w'.ctx.conn? id with
  | none => exact .intro h
  | some conn =>
      dsimp only
      generalize conn.membership = membership
      generalize conn.overflowOf = overflowOf
      cases membership with
      | busy key =>
          have h₁ := (h.modifyConn id ({ ·.withoutCaller with membership := .free key })).modifyPool
            (f := fun pool => (pool.dropBusy id).pushFree id) key fun _ => rfl
          dsimp only
          rcases h₁.get?_pools key with ⟨hnone, hnone'⟩ | ⟨pool, target, hget, hget', -⟩
          · rw [hnone, hnone']
            exact .intro (h₁.miss _)
          · rw [hget, hget']
            exact .intro (shrink hR (h₁.log (.reclaimed id key conn.state pool.load)) key)
      | registry =>
          cases overflowOf with
          | none => exact .intro h
          | some key => exact reclaimDirect hR h id key
      | free key => exact .intro h

/-! ## Operations -/

theorem callSession (h : w.Alike R w') (session : SessionNo) (call : SessionCall) :
    Same R (w.callSession session call) (w'.callSession session call) := by
  cases call with
  | status => exact (sessionHealth hR h session).map SessionReply.status
  | nonblocking => exact (setNonblocking hR h session).map SessionReply.nonblocking
  | socket => exact (sessionSocket hR h session).map SessionReply.socket
  | poll => exact (pollSession hR h session).map SessionReply.poll
  | errorText => exact (errorText hR h session).map SessionReply.errorText

/-- Operations that differ in the contents of their targets have one answer. -/
theorem perform (h : w.Alike R w') {operation operation' : Operation ρ κ}
    (halike : operation.Alike operation') :
    Same R (w.perform operation) (w'.perform operation') := by
  cases halike with
  | connect request onConnect hkeys hvalues expandDbname expandDbname' =>
      exact (connect hR h request onConnect hkeys hvalues _ _).map Answer.opened
  | connectUri request onConnect uri uri' =>
      exact (connectUri hR h request onConnect uri uri').map Answer.opened
  | same operation =>
      cases operation with
      | connect request onConnect keys values expandDbname =>
          exact (connect hR h request onConnect rfl rfl _ _).map Answer.opened
      | connectUri request onConnect uri =>
          exact (connectUri hR h request onConnect uri uri).map Answer.opened
      | acquire key request onConnect => exact (acquire hR h key request onConnect).map Answer.opened
      | spawn key count => exact (spawn hR h key count).map Answer.status
      | reclaim id => exact (reclaim hR h id).map Answer.status
      | disconnect id onDisconnect => exact (disconnect hR h id onDisconnect).map Answer.status
      | advance id event => exact (advance hR h id event).map Answer.state
      | session id call =>
          rw [Worker.perform, Worker.perform, h.conn?]
          cases w'.ctx.conn? id with
          | none => exact .intro h
          | some conn => exact (callSession hR h conn.session call).map fun reply =>
              Answer.session (some reply)
      | shutdown => exact (shutdown hR h).map Answer.released

end

end Alike
end Worker
end ConnPool
