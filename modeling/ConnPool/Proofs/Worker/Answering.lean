/-
  ConnPool.Proofs.Worker.Answering

  What a caller is answered, and what its callback is told.

  An operation that opens or lends a connection for a caller reports on two
  ways: by its answer, and by the connect callback that came with it.  A
  `Telling` says how both go together, for an opening and for an acquisition:

      failed      the failure is answered, and the callback is told it
      connected   the id is answered, and the callback is told success
      waits       the id is answered, and the connection keeps the callback
      refused     the error is answered, and the callback is dropped
-/

import ConnPool.Proofs.Worker.Acquiring
import ConnPool.Proofs.Worker.Binding

namespace ConnPool

variable {ω ρ κ : Type}

/-- Errors by which a handshake ends. -/
def PoolError.EndsHandshake : PoolError → Prop
  | handshake _ | registration _ => True
  | allocation _ | socketMode _ | connectionLost _ | configurationNotFound _ | poolExhausted _
  | duplicatePool _ | invalidConfig _ | unknownConnection _ | notBorrowed _ | shutdown => False

theorem PoolError.EndsHandshake.isRefusal_eq_false {error : PoolError} (h : error.EndsHandshake) :
    error.isRefusal = false := by
  cases error with
  | handshake _ | registration _ => rfl
  | allocation _ | socketMode _ | connectionLost _ | configurationNotFound _ | poolExhausted _
  | duplicatePool _ | invalidConfig _ | unknownConnection _ | notBorrowed _ | shutdown =>
      exact h.elim

theorem Ending.endsHandshake_of_failure {ending : Ending κ} {error : PoolError}
    (h : ending.failure? = some error) : error.EndsHandshake := by
  cases ending with
  | bad _ _ | pollFailed _ | refused _ _ | abandoned _ _ =>
      obtain rfl := Option.some.inj h
      trivial
  | deferred | disconnected _ | lost _ _ | shrunk _ _ | dismissed _ | shutDown => cases h

/-- What is answered to a caller with `request` and `onConnect`, what callbacks
    are called meanwhile, and how this agrees with the context afterwards. -/
inductive Telling (request : Option ρ) (onConnect : Option κ) (ctx : Context ρ κ) :
    Except PoolError ConnId → List (Event ρ κ) → Prop
  | failed (id : ConnId) (error : PoolError) (herror : error.EndsHandshake)
      (hgone : ctx.conn? id = none) :
      Telling request onConnect ctx (.error error)
        (onConnect.toList.map (.connectCalled · id (.error error) request))
  | connected (id : ConnId) (hstate : ctx.state? id = some .connected) :
      Telling request onConnect ctx (.ok id)
        (onConnect.toList.map (.connectCalled · id (.ok ()) request))
  | waits (id : ConnId) (conn : Connection ρ κ) (hconn : ctx.conn? id = some conn)
      (hstate : conn.state = .connecting) (hrequest : conn.request = request)
      (honConnect : conn.onConnect = onConnect) : Telling request onConnect ctx (.ok id) []
  | refused (error : PoolError) (herror : error.isRefusal = true) :
      Telling request onConnect ctx (.error error) []

namespace Telling

variable {request : Option ρ} {callback : κ} {ctx : Context ρ κ}
  {outcome : Except PoolError ConnId} {calls : List (Event ρ κ)}

theorem length_le_one (h : Telling request (some callback) ctx outcome calls) :
    calls.length ≤ 1 := by
  cases h with
  | failed _ _ _ _ | connected _ _ => exact Nat.le_refl 1
  | waits _ _ _ _ _ _ | refused _ _ => exact Nat.zero_le 1

theorem eq_of_mem (h : Telling request (some callback) ctx outcome calls) :
    ∀ event ∈ calls, ∃ id status, event = .connectCalled callback id status request := by
  cases h with
  | failed id _ _ _ | connected id _ => exact List.forall_mem_singleton.2 ⟨id, _, rfl⟩
  | waits _ _ _ _ _ _ | refused _ _ => exact List.forall_mem_nil _

/-- A failure that the callback is told is answered. -/
theorem of_failure (h : Telling request (some callback) ctx outcome calls) {id : ConnId}
    {error : PoolError} {r : Option ρ}
    (hmem : .connectCalled callback id (.error error) r ∈ calls) :
    outcome = .error error ∧ error.EndsHandshake ∧ ctx.conn? id = none := by
  cases h with
  | failed _ _ herror hgone =>
      cases List.mem_singleton.1 hmem
      exact ⟨rfl, herror, hgone⟩
  | connected _ _ => cases List.mem_singleton.1 hmem
  | waits _ _ _ _ _ _ | refused _ _ => cases hmem

/-- A success that the callback is told is answered, with the same id. -/
theorem of_success (h : Telling request (some callback) ctx outcome calls) {id : ConnId}
    {r : Option ρ} (hmem : .connectCalled callback id (.ok ()) r ∈ calls) :
    outcome = .ok id ∧ ctx.state? id = some .connected := by
  cases h with
  | failed _ _ _ _ => cases List.mem_singleton.1 hmem
  | connected _ hstate =>
      cases List.mem_singleton.1 hmem
      exact ⟨rfl, hstate⟩
  | waits _ _ _ _ _ _ | refused _ _ => cases hmem

/-- A callback that is told nothing is kept, or the caller is refused. -/
theorem of_silence (h : Telling request (some callback) ctx outcome calls)
    (hnone : ∀ id status, .connectCalled callback id status request ∉ calls) :
    (∃ id conn, outcome = .ok id ∧ ctx.conn? id = some conn ∧ conn.state = .connecting ∧
        conn.onConnect = some callback) ∨
      ∃ error, outcome = .error error ∧ error.isRefusal = true := by
  cases h with
  | failed id _ _ _ | connected id _ => exact absurd List.mem_cons_self (hnone id _)
  | waits id conn hconn hstate _ hkept => exact .inl ⟨id, conn, rfl, hconn, hstate, hkept⟩
  | refused error herror => exact .inr ⟨error, rfl, herror⟩

/-- A failed handshake that is answered is told. -/
theorem told_of_answered {error : PoolError}
    (h : Telling request (some callback) ctx (.error error) calls) (herror : error.EndsHandshake) :
    ∃ id, .connectCalled callback id (.error error) request ∈ calls := by
  cases h with
  | failed id _ _ _ => exact ⟨id, List.mem_cons_self⟩
  | refused _ hrefusal =>
      rw [herror.isRefusal_eq_false] at hrefusal
      cases hrefusal

end Telling

section

variable {v v' : View ρ κ} {request : Option ρ} {onConnect : Option κ}

/-! ## Openings -/

/-- A connection that is as its first handshake step has left it, but for the
    pool in whose stead it is lent. -/
theorem telling_of_stepped {ctx : Context ρ κ} {id : ConnId} {conn : Connection ρ κ}
    {poll : PollReport} (overflowOf : Option PoolKey)
    (hconn : ctx.conn? id = some { conn.stepped poll with overflowOf })
    (hrequest : conn.request = request) (honConnect : conn.onConnect = onConnect) :
    Telling request onConnect ctx (.ok id)
      (if poll = .ok then conn.connectCall id (.ok ()) else []) := by
  by_cases hpoll : poll = .ok
  · have hstate : (conn.stepped poll).state = .connected := if_pos hpoll
    rw [if_pos hpoll, Connection.connectCall, hrequest, honConnect]
    refine .connected id ?_
    rw [Context.state?, hconn]
    exact congrArg some hstate
  · have hkept : (conn.stepped poll).onConnect = conn.onConnect := if_neg hpoll
    rw [if_neg hpoll]
    exact .waits id _ hconn (if_neg hpoll) hrequest (hkept.trans honConnect)

theorem filter_isCall_opened {id : ConnId} {target : Target} {conn : Connection ρ κ}
    {poll : PollReport} (enabled : (Act.opened id target conn poll).Enabled v) :
    (Act.opened id target conn poll).events.filter Event.isCall =
      if poll = .ok then conn.connectCall id (.ok ()) else [] := by
  rw [Act.filter_isCall enabled, Act.told]
  split
  · exact filter_isCall_connectCall id conn _
  · rfl

/-- An opening tells its caller what it answers. -/
theorem Opening.telling {target : Target} {membership : Membership}
    {outcome : Except PoolError ConnId} {act : Act ρ κ}
    (h : Opening target request onConnect membership outcome act) (enabled : act.Enabled v)
    (hw : v.ctx.Orderly) :
    Telling request onConnect (act.run v).ctx outcome (act.events.filter Event.isCall) := by
  cases h with
  | opened id conn poll hrequest honConnect hmembership =>
      rw [filter_isCall_opened enabled]
      refine telling_of_stepped conn.overflowOf ?_ hrequest honConnect
      rw [Act.conn?_run enabled hw]
      exact if_pos rfl
  | unstarted reason events hrefused =>
      rw [Act.filter_isCall enabled]
      exact .refused _ rfl
  | spoiled session reason => exact .refused _ rfl
  | failed id conn ending error herror hrequest honConnect hmembership =>
      rw [filter_isCall_openFailed enabled herror, Connection.connectCall, hrequest, honConnect]
      exact .failed id error (Ending.endsHandshake_of_failure herror)
        (Act.conn?_run_openFailed hw enabled)

/-! ## Acquisitions -/

/-- A connection that is lent is connected, and its caller called, or it keeps
    the callback until its handshake ends. -/
theorem telling_of_lent {id : ConnId} {conn : Connection ρ κ} {key : PoolKey} {load : PoolLoad}
    (hlent : Path v [.lent id conn key request onConnect load] v') (hw : v.ctx.Orderly)
    (hc : v.ctx.Coherent) :
    Telling request onConnect v'.ctx (.ok id)
      ((Act.lent id conn key request onConnect load).events.filter Event.isCall) := by
  have enabled := hlent.enabled
  have hlive : v'.ctx.conn? id = some (conn.lentBy key request onConnect) := by
    rw [← hlent.run_eq, Act.conn?_run enabled hw]
    exact if_pos rfl
  rw [Act.filter_isCall enabled, Act.told]
  by_cases hstate : conn.state = .connected
  · rw [if_pos hstate, filter_isCall_connectCall]
    refine .connected id ?_
    rw [Context.state?, hlive]
    exact congrArg some hstate
  · -- no connection that is idle is closed
    have hconnecting : conn.state = .connecting := (hc id conn enabled.1).connecting hstate
    rw [if_neg hstate]
    exact .waits id _ hlive hconnecting rfl (if_neg hstate)

/-- An acquisition tells its caller what it answers; what the pool opens for
    itself meanwhile is told to nobody. -/
theorem Acquisition.telling {key : PoolKey} {outcome : Except PoolError ConnId}
    {acts : List (Act ρ κ)} (h : Acquisition key request onConnect outcome acts)
    (hpath : Path v acts v') (hw : v.ctx.Orderly) (hc : v.ctx.Coherent) :
    Telling request onConnect v'.ctx outcome
      ((acts.flatMap Act.events).filter Event.isCall) := by
  -- the idle acts come first, and call nobody
  have hsplit : ∀ {first rest : List (Act ρ κ)}, (∀ act ∈ first, act.Idle key) →
      Path v (first ++ rest) v' → ∃ v₁, v₁.ctx.Orderly ∧ v₁.ctx.Coherent ∧ Path v₁ rest v' ∧
        ((first ++ rest).flatMap Act.events).filter Event.isCall =
          (rest.flatMap Act.events).filter Event.isCall := by
    intro first rest hidle hpath
    obtain ⟨v₁, hfirst, hrest⟩ := hpath.of_append
    refine ⟨v₁, hfirst.orderly hw, hfirst.coherent hw hc, hrest, ?_⟩
    rw [List.flatMap_append, List.filter_append, hfirst.not_isCall_of_idle hidle, List.nil_append]
  cases h with
  | unregistered => exact .refused _ rfl
  | exhausted acts hidle =>
      rw [hpath.not_isCall_of_idle hidle]
      exact .refused _ rfl
  | lent acts hidle id conn load =>
      obtain ⟨v₁, hw₁, hc₁, hlent, hcalls⟩ := hsplit hidle hpath
      rw [hcalls, List.flatMap_singleton]
      exact telling_of_lent hlent hw₁ hc₁
  | direct acts hidle id target conn poll hopening =>
      obtain ⟨v₁, hw₁, -, hrest, hcalls⟩ := hsplit hidle hpath
      obtain ⟨v₂, hopen, htag⟩ := Path.of_append (show Path v₁ ([_] ++ [_]) v' from hrest)
      have hlive : v'.ctx.conn? id = some { conn.stepped poll with overflowOf := some key } := by
        rw [← htag.run_eq, Act.conn?_run htag.enabled (hopen.orderly hw₁)]
        exact if_pos rfl
      have hquiet : (Act.tagged id (conn.stepped poll) key).events = [] := rfl
      rw [hcalls, List.flatMap_cons, List.flatMap_singleton, hquiet, List.append_nil,
        filter_isCall_opened hopen.enabled]
      cases hopening with
      | opened _ _ _ hrequest honConnect _ => exact telling_of_stepped (some key) hlive hrequest honConnect
  | failed acts hidle target error act hopening =>
      obtain ⟨v₁, hw₁, -, hfailed, hcalls⟩ := hsplit hidle hpath
      rw [hcalls, List.flatMap_singleton, ← hfailed.run_eq]
      exact hopening.telling hfailed.enabled hw₁

/-- Whoever comes with a connect callback is answered with an outcome. -/
theorem Course.exists_outcome {operation : Operation ρ κ} {answer : Answer} {acts : List (Act ρ κ)}
    (h : Course operation answer acts) {callback : κ}
    (honConnect : operation.onConnect? = some callback) :
    ∃ outcome, answer = .opened outcome := by
  cases h with
  | misdirected _ _ _ _ _ _ | connect _ _ _ _ _ _ _ | connectUri _ _ _ _ | acquire _ =>
      exact ⟨_, rfl⟩
  | spawn _ _ _ _ _ | reclaim _ | unknown _ _ | deferred _ _ _ | disconnected _ _ _
  | advance _ _ _ | stale _ _ | asked _ _ _ _ _ | shutdown _ _ _ => cases honConnect

/-- Every operation that answers a caller with a connection, or with an error
    instead, tells it what it answers. -/
theorem Course.telling {operation : Operation ρ κ} {outcome : Except PoolError ConnId}
    {acts : List (Act ρ κ)} (h : Course operation (.opened outcome) acts) (hpath : Path v acts v')
    (hw : v.ctx.Orderly) (hc : v.ctx.Coherent) :
    Telling operation.request? operation.onConnect? v'.ctx outcome
      ((acts.flatMap Act.events).filter Event.isCall) := by
  cases h with
  | misdirected _ _ _ _ _ _ => exact .refused _ rfl
  | connect _ _ _ _ _ _ hopening | connectUri _ _ _ hopening =>
      rw [← hpath.run_eq, List.flatMap_singleton]
      exact hopening.telling hpath.enabled hw
  | acquire hacquisition => exact hacquisition.telling hpath hw hc

end

/-! ## The way of an error -/

namespace Worker

variable [Environment ω]

/-- An acquisition that ends with a handshake has found its pool full, and has
    opened a direct connection in its stead. -/
theorem acquire_of_endsHandshake {w w' : Worker ω ρ κ} {key : PoolKey} {request : Option ρ}
    {onConnect : Option κ} {error : PoolError} (hw : w.ctx.Orderly)
    (h : w.acquire key request onConnect = (.error error, w')) (ha : w'.view.slotCount ≤ 2 ^ 32)
    (herror : error.EndsHandshake) :
    ∃ pool w₁, w.poolAt key = (.ok pool, w₁) ∧ pool.free = [] ∧
      pool.size = pool.config.maxSize ∧
      w₁.lendDirect key request onConnect = (.error error, w') := by
  rcases hlook : w.poolAt key with ⟨result, w₁⟩
  rcases poolAt_cases hlook with
    ⟨rfl, -, -, -⟩ | ⟨pool, first, rfl, hget, hfinding, hfirst⟩
  · rw [acquire, hlook] at h
    cases congrArg Prod.fst h
    exact herror.elim
  · have hw₁ : w₁.ctx.Orderly := hfirst.orderly hw
    rw [acquire_of_poolAt hlook hget] at h
    -- a pool with something idle answers an id
    have hfree : pool.free = [] := by
      by_contra hfree
      obtain ⟨id, conn, load, hok, -⟩ := acquire_of_free hw₁ hget hfree h
      cases hok
    -- a pool with room answers an id, or that it is exhausted
    have hfull : ¬pool.size < pool.config.maxSize := by
      intro hroom
      obtain ⟨ids, acts, record, -, hends⟩ := acquire_of_room hw₁ hget hfree hroom h ha
      rcases hends with ⟨-, hexhausted, -⟩ | ⟨-, id, conn, load, pool₁, v₁, hok, -⟩
      · cases hexhausted
        exact herror
      · cases hok
    have hsize := hw₁.size_le_of_get? hget
    rw [acquire_of_full hget hfree hfull] at h
    exact ⟨pool, w₁, rfl, hfree, by omega, h⟩

end Worker
end ConnPool
