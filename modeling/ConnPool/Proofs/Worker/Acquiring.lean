/-
  ConnPool.Proofs.Worker.Acquiring

  What acquiring a connection comes to.

  Of the idle connections of a pool the first connected one is lent, or else the
  oldest.  Where none is idle, sessions are asked for, each with the target of
  the pool: one for each connection that is opened and one for the opening that
  fails, if one does (`dials`).  What is opened stands at the end of the queue
  in the order in which its sessions were started, and no caller hears of it.
-/

import ConnPool.Proofs.Worker.Frame

namespace ConnPool

variable {ω ρ κ : Type}

/-! ## Sessions that are asked for -/

/-- The target that a session is asked for, be it started or refused. -/
def Event.dial? : Event ρ κ → Option Target
  | started _ target | startRefused target => some target
  | nonblocking .. | polled .. | tornDown _ | registered .. | deregistered _ | connectCalled ..
  | disconnectCalled .. | logged _ => none

/-- The targets of the sessions that are asked for, in order. -/
def dials (events : List (Event ρ κ)) : List Target :=
  events.filterMap Event.dial?

theorem dials_append (first second : List (Event ρ κ)) :
    dials (first ++ second) = dials first ++ dials second :=
  List.filterMap_append

theorem dials_eq_nil {events : List (Event ρ κ)} (h : ∀ event ∈ events, event.dial? = none) :
    dials events = [] :=
  List.filterMap_eq_nil_iff.2 h

theorem Event.dial?_of_isCall {event : Event ρ κ} (h : event.isCall = true) :
    event.dial? = none := by
  cases event with
  | connectCalled _ _ _ _ | disconnectCalled _ _ _ _ => rfl
  | startRefused _ | started _ _ | nonblocking _ _ | polled _ _ | tornDown _ | registered _ _ _ _
  | deregistered _ | logged _ => cases h

section

variable (id : ConnId) (conn : Connection ρ κ)

theorem dial?_of_mem_connectCall (status : Status) :
    ∀ event ∈ conn.connectCall id status, event.dial? = none :=
  fun event hmem => Event.dial?_of_isCall (isCall_of_mem_connectCall event hmem)

/-- While a connection ends, no session is asked for. -/
theorem Ending.dial?_of_mem_events (ending : Ending κ) :
    ∀ event ∈ ending.events id conn, event.dial? = none := by
  have hheralds : ∀ event ∈ ending.heralds id conn, event.dial? = none := by
    cases ending with
    | bad _ _ | abandoned _ _ | lost _ _ | shrunk _ _ | dismissed _ =>
        exact List.forall_mem_singleton.2 rfl
    | disconnected _ | shutDown => exact List.forall_mem_nil _
    | pollFailed _ | deferred | refused _ _ =>
        simp [heralds, Connection.pollEvents, Event.dial?]
  have hunwatching : ∀ event ∈ conn.unwatching, event.dial? = none := by
    rw [Connection.unwatching]
    split
    · exact List.forall_mem_singleton.2 rfl
    · exact List.forall_mem_nil _
  have hcalls : ∀ event ∈ ending.calls id conn, event.dial? = none := by
    intro event hmem
    rcases ending.of_mem_calls conn id hmem with hcall | ⟨record, rfl⟩
    · exact Event.dial?_of_isCall hcall
    · rfl
  rw [Ending.events]
  exact List.forall_mem_append.2 ⟨List.forall_mem_append.2
    ⟨List.forall_mem_append.2 ⟨hheralds, hunwatching⟩, hcalls⟩, List.forall_mem_singleton.2 rfl⟩

theorem dial?_of_mem_stepEvents (poll : PollReport) :
    ∀ event ∈ conn.stepEvents id poll, event.dial? = none := by
  have hpolled : ∀ event ∈ conn.pollEvents id poll, event.dial? = none := by
    simp [Connection.pollEvents, Event.dial?]
  rw [Connection.stepEvents]
  refine List.forall_mem_append.2
    ⟨List.forall_mem_append.2 ⟨hpolled, List.forall_mem_singleton.2 rfl⟩, ?_⟩
  split
  · exact List.forall_mem_cons.2 ⟨rfl, dial?_of_mem_connectCall id conn _⟩
  · exact List.forall_mem_nil _

end

/-- An opening asks for one session, with the target that it is for. -/
theorem Opening.dials_eq {target : Target} {request : Option ρ} {onConnect : Option κ}
    {membership : Membership} {outcome : Except PoolError ConnId} {act : Act ρ κ}
    (h : Opening target request onConnect membership outcome act) :
    dials act.events = [target] := by
  have hquiet : ∀ {events : List (Event ρ κ)}, (∀ event ∈ events, event.dial? = none) →
      target :: dials events = [target] := fun hevents => by rw [dials_eq_nil hevents]
  cases h with
  | opened id conn poll _ _ _ =>
      exact hquiet (List.forall_mem_cons.2 ⟨rfl, List.forall_mem_append.2
        ⟨dial?_of_mem_stepEvents id conn poll, List.forall_mem_singleton.2 rfl⟩⟩)
  | unstarted reason events hrefused =>
      obtain ⟨records, rfl⟩ := hrefused
      exact hquiet (List.forall_mem_map.2 fun _ _ => rfl)
  | spoiled session reason => rfl
  | failed id conn ending error _ _ _ _ =>
      have hends := ending.dial?_of_mem_events id conn
      cases ending with
      | bad _ _ => exact hquiet hends
      | pollFailed _ | refused _ _ | abandoned _ _ | deferred | disconnected _ | lost _ _
      | shrunk _ _ | dismissed _ | shutDown => exact hquiet (List.forall_mem_cons.2 ⟨rfl, hends⟩)

/-! ## Callbacks that are called -/

theorem Event.matters_of_isCall {event : Event ρ κ} (h : event.isCall = true) :
    event.matters = true := by
  cases event with
  | connectCalled _ _ _ _ | disconnectCalled _ _ _ _ => rfl
  | startRefused _ | started _ _ | nonblocking _ _ | polled _ _ | tornDown _ | registered _ _ _ _
  | deregistered _ | logged _ => cases h

/-- The calls that an act makes are among what it tells. -/
theorem Act.filter_isCall {v : View ρ κ} {act : Act ρ κ} (enabled : act.Enabled v) :
    act.events.filter Event.isCall = act.told.filter Event.isCall := by
  rw [← filter_events enabled, List.filter_filter]
  refine List.filter_congr fun event _ => ?_
  cases hcall : event.isCall with
  | false => rfl
  | true => rw [Event.matters_of_isCall hcall, Bool.and_self]

theorem filter_isCall_connectCall (id : ConnId) (conn : Connection ρ κ) (status : Status) :
    (conn.connectCall id status).filter Event.isCall = conn.connectCall id status :=
  List.filter_eq_self.2 isCall_of_mem_connectCall

/-- The calls of an opening that fails: its connect callback, with the
    failure, if it came to have a connection. -/
theorem filter_isCall_openFailed {v : View ρ κ} {id : ConnId} {target : Target}
    {conn : Connection ρ κ} {ending : Ending κ}
    (enabled : (Act.openFailed id target conn ending).Enabled v) {error : PoolError}
    (herror : ending.failure? = some error) :
    (Act.openFailed id target conn ending).events.filter Event.isCall =
      conn.connectCall id (.error error) := by
  have hpending : conn.disconnectPending = false := by
    rw [enabled.1]
  have htold : ending.told id conn = conn.failureCalls id error := by
    cases ending with
    | bad _ _ | pollFailed _ | abandoned _ _ | refused _ _ =>
        obtain rfl := Option.some.inj herror
        rfl
    | deferred | shrunk _ _ | lost _ _ | disconnected _ | dismissed _ | shutDown => cases herror
  have hlast : [Event.tornDown conn.session].filter (Event.isCall : Event ρ κ → Bool) = [] := rfl
  rw [Act.filter_isCall enabled, Act.told, htold, List.filter_append, hlast, List.append_nil,
    Connection.failureCalls, hpending, if_neg Bool.false_ne_true, List.append_nil,
    filter_isCall_connectCall]

/-- A failed opening tells its caller so if it came to have a connection: else no
    session was started, or its socket was not made non-blocking. -/
theorem Opening.filter_isCall_of_error {target : Target} {request : Option ρ}
    {onConnect : Option κ} {membership : Membership} {error : PoolError} {act : Act ρ κ}
    {v : View ρ κ} (h : Opening target request onConnect membership (.error error) act)
    (enabled : act.Enabled v) :
    (act.events.filter Event.isCall = [] ∧
        ∃ reason, error = .allocation reason ∨ error = .socketMode reason) ∨
      ∃ id, act.events.filter Event.isCall =
        onConnect.toList.map (.connectCalled · id (.error error) request) := by
  cases h with
  | unstarted reason events hrefused =>
      rw [Act.filter_isCall enabled]
      exact .inl ⟨rfl, reason, .inl rfl⟩
  | spoiled session reason => exact .inl ⟨rfl, reason, .inr rfl⟩
  | failed id conn ending error herror hrequest honConnect hmembership =>
      rw [filter_isCall_openFailed enabled herror, Connection.connectCall, hrequest, honConnect]
      exact .inr ⟨id, rfl⟩

/-- Nobody is called when a pool is prepared. -/
theorem Act.Idle.not_isCall {v : View ρ κ} {key : PoolKey} {act : Act ρ κ} (h : act.Idle key)
    (enabled : act.Enabled v) : act.events.filter Event.isCall = [] := by
  cases act with
  | noted _ | poolCreated _ _ | openSpoiled _ _ _ =>
      rw [filter_isCall enabled]
      rfl
  | opened id target conn poll =>
      rw [filter_isCall enabled, told, Connection.connectCall, h.2.2]
      split <;> rfl
  | openFailed id target conn ending =>
      obtain ⟨error, herror⟩ : ∃ error, ending.failure? = some error := by
        have hends := enabled.2.2.1
        cases ending with
        | bad _ _ | pollFailed _ | refused _ _ => exact ⟨_, rfl⟩
        | abandoned _ _ | deferred | disconnected _ | lost _ _ | shrunk _ _ | dismissed _
        | shutDown => exact hends.elim
      rw [filter_isCall_openFailed enabled herror, Connection.connectCall, h.2.2]
      rfl
  | asked _ _ _ | stepped _ _ _ | lent _ _ _ _ _ _ | takenBack _ _ _ _ | adopted _ _ _ _
  | tagged _ _ _ | deferred _ _ _ | finished _ _ _ | poolsDropped => exact h.elim

theorem Path.not_isCall_of_idle {v v' : View ρ κ} {acts : List (Act ρ κ)} (h : Path v acts v')
    {key : PoolKey} (hidle : ∀ act ∈ acts, act.Idle key) :
    (acts.flatMap Act.events).filter Event.isCall = [] := by
  induction h with
  | nil => rfl
  | cons enabled _ ih =>
      obtain ⟨hact, hrest⟩ := List.forall_mem_cons.1 hidle
      rw [List.flatMap_cons, List.filter_append, hact.not_isCall enabled, ih hrest, List.append_nil]

/-! ## Growing -/

theorem Act.Idle.not_ends {key : PoolKey} {act : Act ρ κ} (h : act.Idle key) (id : ConnId) :
    ¬act.Ends id := by
  cases act with
  | noted _ | poolCreated _ _ | opened _ _ _ _ | openFailed _ _ _ _ | openSpoiled _ _ _ =>
      exact fun hends => hends
  | asked _ _ _ | stepped _ _ _ | lent _ _ _ _ _ _ | takenBack _ _ _ _ | adopted _ _ _ _
  | tagged _ _ _ | deferred _ _ _ | finished _ _ _ | poolsDropped => exact h.elim

/-- An idle connection that is opened joins the back of the queue. -/
theorem Act.get?_run_opened {v : View ρ κ} {id : ConnId} {target : Target} {conn : Connection ρ κ}
    {poll : PollReport} {key : PoolKey} {pool : Pool}
    (enabled : (Act.opened id target conn poll).Enabled v) (hfree : conn.membership = .free key)
    (hpool : v.ctx.pools.get? key = some pool) :
    ((Act.opened id target conn poll).run v).ctx.pools.get? key =
      some { pool with free := pool.free ++ [id] } := by
  have hid : v.ctx.nextId (conn.stepped poll) = id := by
    rw [enabled.2.2.2.1]
    exact Context.nextId_congr v.ctx _ _
  show (v.ctx.takeIn (conn.stepped poll)).pools.get? key = _
  rw [Context.takeIn, hid]
  show (Context.enlist _ id conn.membership).pools.get? key = _
  rw [hfree]
  show ((v.ctx.pools.modify key (·.pushFree id)).get? key) = _
  rw [KeyMap.get?_modify, if_pos rfl, hpool]
  rfl

/-- A direct connection that is opened joins the registry list. -/
theorem Act.registry_run_opened {v : View ρ κ} {id : ConnId} {target : Target}
    {conn : Connection ρ κ} {poll : PollReport}
    (enabled : (Act.opened id target conn poll).Enabled v) (hregistry : conn.membership = .registry) :
    ((Act.opened id target conn poll).run v).ctx.registry = v.ctx.registry ++ [id] := by
  have hid : v.ctx.nextId (conn.stepped poll) = id := by
    rw [enabled.2.2.2.1]
    exact Context.nextId_congr v.ctx _ _
  show (v.ctx.takeIn (conn.stepped poll)).registry = _
  rw [Context.takeIn, hid]
  show (Context.enlist _ id conn.membership).registry = _
  rw [hregistry]
  rfl

namespace Growing

variable {key : PoolKey} {target : Target} {count : Nat} {ids : List ConnId}
  {acts : List (Act ρ κ)} {v v' : View ρ κ}

theorem length_le (h : Growing key target count ids acts) : ids.length ≤ count := by
  induction h with
  | done => exact Nat.le_refl _
  | opened id conn poll hidle hrest ih => exact Nat.succ_le_succ ih
  | stopped count error act hopening record => exact Nat.zero_le _

/-- One session is asked for for each connection that is opened, and one more if
    that are fewer than are asked for. -/
theorem dials_eq (h : Growing key target count ids acts) :
    dials (acts.flatMap Act.events) =
      List.replicate ids.length target ++ if ids.length < count then [target] else [] := by
  induction h with
  | done => rfl
  | @opened count ids acts id conn poll hidle hrest ih =>
      have hopening : Opening target none none (.free key) (.ok id) (.opened id target conn poll) :=
        .opened id conn poll hidle.2.1 hidle.2.2 hidle.1
      rw [List.flatMap_cons, dials_append, hopening.dials_eq, ih, List.length_cons,
        List.replicate_succ]
      simp only [Nat.add_lt_add_iff_right]
      rfl
  | stopped count error act hopening record =>
      rw [List.flatMap_cons, dials_append, hopening.dials_eq]
      rfl

/-- What is opened joins the back of the idle queue, and nothing else of the
    pool changes. -/
theorem get?_eq (h : Growing key target count ids acts) (hpath : Path v acts v') {pool : Pool}
    (hpool : v.ctx.pools.get? key = some pool) :
    v'.ctx.pools.get? key = some { pool with free := pool.free ++ ids } := by
  induction h generalizing v pool with
  | done =>
      cases hpath
      rw [List.append_nil]
      exact hpool
  | opened id conn poll hidle hrest ih =>
      cases hpath with
      | cons enabled hlater =>
          rw [ih hlater (Act.get?_run_opened enabled hidle.1 hpool), List.append_assoc]
          rfl
  | stopped count error act hopening record =>
      rw [List.append_nil]
      refine (hpath.get?_eq fun act' hmem => ?_).trans hpool
      rcases List.mem_cons.1 hmem with rfl | hmem
      · exact hopening.leavesNothing.not_touches key
      · obtain rfl := List.mem_singleton.1 hmem
        exact fun htouches => htouches

/-- The connections that are opened are new, and have the sessions that are
    started, in order. -/
theorem held?_eq (h : Growing key target count ids acts) (hpath : Path v acts v')
    (hw : v.ctx.Orderly) {i : Nat} {id : ConnId} (hid : ids[i]? = some id) :
    v.ctx.conn? id = none ∧ ∃ socket, v'.ctx.held? id = some (v.started + i, socket) := by
  -- over the openings: the first one is behind the rest, which leave it as it is
  induction h generalizing v i with
  | done => cases hid
  | @opened count ids acts first conn poll hidle hrest ih =>
      cases hpath with
      | cons enabled hlater =>
          have hw₁ := Act.orderly_run enabled hw
          cases i with
          | zero =>
              obtain rfl : first = id := Option.some.inj hid
              have hlive : ((Act.opened first target conn poll).run v).ctx.conn? first =
                  some (conn.stepped poll) := by
                rw [Act.conn?_run enabled hw]
                exact if_pos rfl
              refine ⟨?_, conn.socket, ?_⟩
              · obtain ⟨-, -, -, heq, -, -, ha⟩ := enabled
                rw [heq]
                exact Context.conn?_nextId hw.arena ha
              · have hends : ∀ act ∈ acts, ¬act.Ends first := fun act hmem =>
                  (hrest.idle act hmem).not_ends first
                rw [hlater.held?_of_live hw₁ (Option.isSome_of_eq_some hlive) hends,
                  Context.held?_of_conn? hlive, Nat.add_zero]
                exact congrArg (fun session => some (session, conn.socket)) enabled.2.1
          | succ i =>
              obtain ⟨hnone, socket, hheld⟩ := ih hlater hw₁ hid
              refine ⟨?_, socket, ?_⟩
              · -- what was live before the first opening is live after it
                rw [← Option.not_isSome_iff_eq_none]
                intro hlive
                have hstays := Act.held?_run enabled hw (Act.not_opens_of_live enabled hw hlive)
                  fun hends => hends
                rw [← Context.isSome_held?, ← hstays, Context.isSome_held?, hnone] at hlive
                cases hlive
              · rw [hheld]
                have hstarted : ((Act.opened first target conn poll).run v).started + i =
                    v.started + (i + 1) := by
                  show v.started + 1 + i = _
                  omega
                rw [hstarted]
  | stopped count error act hopening record => cases hid

end Growing

/-! ## Lending -/

/-- Which of the idle connections in a queue is lent first, and what is left of
    the queue then. -/
inductive Context.Prefers (ctx : Context ρ κ) : List ConnId → ConnId → List ConnId → Prop
  /-- The first one that is connected. -/
  | connected (front : List ConnId) (id : ConnId) (back : List ConnId)
      (hfront : ∀ other ∈ front, ctx.state? other ≠ some .connected)
      (hid : ctx.state? id = some .connected) : Prefers ctx (front ++ id :: back) id (front ++ back)
  /-- The oldest, where none is connected. -/
  | oldest (id : ConnId) (back : List ConnId)
      (hnone : ∀ other ∈ id :: back, ctx.state? other ≠ some .connected) :
      Prefers ctx (id :: back) id back

theorem Context.Prefers.mem {ctx : Context ρ κ} {queue rest : List ConnId} {id : ConnId}
    (h : ctx.Prefers queue id rest) : id ∈ queue := by
  cases h with
  | connected front _ back _ _ => exact List.mem_append_cons_self
  | oldest _ _ _ => exact List.mem_cons_self

/-- What is preferred depends on the states of the connections only. -/
theorem Context.Prefers.congr {ctx ctx' : Context ρ κ} {queue rest : List ConnId} {id : ConnId}
    (h : ctx.Prefers queue id rest) (hstate : ∀ other, ctx'.state? other = ctx.state? other) :
    ctx'.Prefers queue id rest := by
  cases h with
  | connected front _ back hfront hid =>
      exact .connected front id back (fun other hmem => hstate other ▸ hfront other hmem)
        ((hstate id).trans hid)
  | oldest _ _ hnone =>
      exact .oldest id rest fun other hmem => hstate other ▸ hnone other hmem

theorem Worker.prefers_of_pickFree? {ctx : Context ρ κ} {pool : Pool} {id : ConnId}
    (h : pickFree? ctx pool = some id) : ctx.Prefers pool.free id (pool.free.erase id) := by
  rw [pickFree?] at h
  cases hfind : pool.free.find? fun id => ctx.state? id = some .connected with
  | some found =>
      rw [hfind] at h
      obtain rfl : found = id := Option.some.inj h
      obtain ⟨hfound, front, back, hfree, hfront⟩ := List.find?_eq_some_iff_append.1 hfind
      have hconnected : ctx.state? found = some .connected := of_decide_eq_true hfound
      have hnone : ∀ other ∈ front, ctx.state? other ≠ some .connected := fun other hmem => by
        simpa using hfront other hmem
      have hnot : found ∉ front := fun hmem => hnone found hmem hconnected
      rw [hfree, List.erase_append_right _ hnot, List.erase_cons_head]
      exact .connected front found back hnone hconnected
  | none =>
      rw [hfind] at h
      obtain ⟨back, hfree⟩ := List.head?_eq_some_iff.1 h
      rw [hfree, List.erase_cons_head]
      refine .oldest id back fun other hmem => ?_
      rw [← hfree] at hmem
      simpa using List.find?_eq_none.1 hfind other hmem

/-- A pool after it has lent one of its idle connections. -/
theorem Context.Orderly.get?_transfer_lentBy {ctx : Context ρ κ} (hw : ctx.Orderly) {id : ConnId}
    {conn : Connection ρ κ} {key : PoolKey} {pool : Pool}
    (hpool : ctx.pools.get? key = some pool) (hold : conn.membership = .free key)
    (request : Option ρ) (onConnect : Option κ) :
    (ctx.transfer id conn (·.lentBy key request onConnect)).pools.get? key =
      some { pool with free := pool.free.erase id, busy := pool.busy ++ [id] } := by
  rw [← hw.transfer_of_lend hpool hold rfl]
  show (ctx.pools.modify key _).get? key = _
  rw [KeyMap.get?_modify, if_pos rfl, hpool]
  rfl

/-- Lending asks for no session. -/
theorem dials_lent (id : ConnId) (conn : Connection ρ κ) (key : PoolKey) (request : Option ρ)
    (onConnect : Option κ) (load : PoolLoad) :
    dials (Act.lent id conn key request onConnect load).events = [] := by
  refine dials_eq_nil (List.forall_mem_cons.2 ⟨rfl, ?_⟩)
  split
  · exact dial?_of_mem_connectCall id _ _
  · exact List.forall_mem_nil _

/-- Lending leaves the states of all connections as they are. -/
theorem Path.state?_of_lent {v v' : View ρ κ} {id : ConnId} {conn : Connection ρ κ} {key : PoolKey}
    {request : Option ρ} {onConnect : Option κ} {load : PoolLoad}
    (h : Path v [.lent id conn key request onConnect load] v') (hw : v.ctx.Orderly)
    (other : ConnId) : v'.ctx.state? other = v.ctx.state? other := by
  rw [← h.run_eq, Context.state?, Act.conn?_run h.enabled hw other, Context.state?]
  simp only [Act.change]
  split
  · rename_i hid
    rw [hid, h.enabled.1]
    rfl
  · rfl

/-- Writing a record down changes nothing. -/
theorem Path.of_noted {v v' : View ρ κ} {acts : List (Act ρ κ)} {events : List (Event ρ κ)}
    (h : Path v (acts ++ [.noted events]) v') : ∃ v₁, Path v acts v₁ ∧ v'.ctx = v₁.ctx := by
  obtain ⟨v₁, hfirst, hnoted⟩ := h.of_append
  refine ⟨v₁, hfirst, ?_⟩
  rw [← hnoted.run_eq]
  rfl

end ConnPool
