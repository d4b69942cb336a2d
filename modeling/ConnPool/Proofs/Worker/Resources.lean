/-
  ConnPool.Proofs.Worker.Resources

  What acts take hold of and let go of.

  Sessions are started and torn down, and their sockets are watched and watched
  no longer.  Of each act's events, `resources` are those of these four kinds,
  in order; a socket that the event loop refuses is not taken hold of.

  The socket of a live connection is always watched, and from its opening to
  its end a connection has one session and one socket.
-/

import ConnPool.Proofs.Worker.Removals

namespace ConnPool

variable {ρ κ : Type}

/-- Whether an event takes hold of a session or a socket, or lets it go. -/
def Event.isResource : Event ρ κ → Bool
  | started .. | tornDown _ | registered _ _ _ none | deregistered _ => true
  | startRefused _ | nonblocking .. | polled .. | registered _ _ _ (some _) | connectCalled ..
  | disconnectCalled .. | logged _ => false

/-- What an act takes hold of and lets go of. -/
def Act.resources : Act ρ κ → List (Event ρ κ)
  | opened id target conn poll =>
    [.started conn.session target, .registered conn.socket poll.interest id none]
  | openFailed _ target conn _ => [.started conn.session target, .tornDown conn.session]
  | openSpoiled session target _ => [.started session target, .tornDown session]
  | stepped id conn poll => [.registered conn.socket poll.interest id none]
  | finished _ conn _ => [.deregistered conn.socket, .tornDown conn.session]
  | noted _ | asked .. | poolCreated .. | lent .. | takenBack .. | adopted .. | tagged ..
  | deferred .. | poolsDropped => []

/-! ## Watched sockets -/

/-- A connection as its latest handshake step left it: the socket is watched,
    and the state says whether the handshake is complete. -/
structure Connection.Watched (conn : Connection ρ κ) : Prop where
  registered : conn.registered = true
  polled : ∃ poll : PollReport, poll ≠ .failed ∧ conn.lastPoll = some poll ∧
    conn.state = if poll = .ok then .connected else .connecting

/-- The sockets of all live connections are watched. -/
def Context.Watched (ctx : Context ρ κ) : Prop :=
  ∀ id conn, ctx.conn? id = some conn → conn.Watched

theorem Connection.watched_stepped (conn : Connection ρ κ) {poll : PollReport}
    (hpoll : poll ≠ .failed) : (conn.stepped poll).Watched where
  registered := rfl
  polled := ⟨poll, hpoll, rfl, rfl⟩

/-- Every act keeps the sockets of live connections watched. -/
theorem Act.watched_run {v : View ρ κ} {act : Act ρ κ} (enabled : act.Enabled v)
    (hw : v.ctx.Orderly) (h : v.ctx.Watched) : (act.run v).ctx.Watched := by
  intro other conn' hconn'
  rcases conn?_of_run enabled hw hconn' with hold | hchange
  · exact h other conn' hold
  · cases act with
    | noted _ | asked _ _ _ | poolCreated _ _ | openFailed _ _ _ _ | openSpoiled _ _ _
    | poolsDropped | finished _ _ _ => cases hchange
    | opened id target conn poll =>
        cases hchange
        exact conn.watched_stepped enabled.2.2.1
    | stepped id conn poll =>
        cases hchange
        exact conn.watched_stepped enabled.2.2.1
    -- the caller's part of a record has nothing to do with its socket
    | lent id conn _ _ _ _ | takenBack id conn _ _ | adopted id conn _ _ | tagged id conn _
    | deferred id conn _ =>
        cases hchange
        have hwatched := h _ conn enabled.1
        exact ⟨hwatched.registered, hwatched.polled⟩

theorem Path.watched {v v' : View ρ κ} {acts : List (Act ρ κ)} (h : Path v acts v')
    (hw : v.ctx.Orderly) (hv : v.ctx.Watched) : v'.ctx.Watched := by
  induction h with
  | nil => exact hv
  | cons enabled _ ih => exact ih (Act.orderly_run enabled hw) (Act.watched_run enabled hw hv)

/-! ## Events -/

theorem Event.isResource_of_isCall {event : Event ρ κ} (h : event.isCall = true) :
    event.isResource = false := by
  cases event with
  | connectCalled _ _ _ _ | disconnectCalled _ _ _ _ => rfl
  | startRefused _ | started _ _ | nonblocking _ _ | polled _ _ | tornDown _ | registered _ _ _ _
  | deregistered _ | logged _ => cases h

theorem Event.IsNote.isResource_eq_false {event : Event ρ κ} (h : event.IsNote) :
    event.isResource = false := by
  cases event with
  | startRefused _ | logged _ => rfl
  | nonblocking _ _ | tornDown _ | started _ _ | polled _ _ | registered _ _ _ _ | deregistered _
  | connectCalled _ _ _ _ | disconnectCalled _ _ _ _ => exact h.elim

theorem Event.IsReply.isResource_eq_false {session : SessionNo} {event : Event ρ κ}
    (h : event.IsReply session) : event.isResource = false := by
  cases event with
  | nonblocking _ _ | polled _ _ => rfl
  | startRefused _ | logged _ | tornDown _ | started _ _ | registered _ _ _ _ | deregistered _
  | connectCalled _ _ _ _ | disconnectCalled _ _ _ _ => exact h.elim

theorem filter_events_eq_nil {p : Event ρ κ → Bool} {events : List (Event ρ κ)}
    (h : ∀ event ∈ events, p event = false) : events.filter p = [] := by
  refine List.filter_eq_nil_iff.2 fun event hmem => ?_
  rw [h event hmem]
  exact Bool.false_ne_true

section

variable (conn : Connection ρ κ) (id : ConnId)

theorem isResource_of_mem_connectCall {status : Status} :
    ∀ event ∈ conn.connectCall id status, event.isResource = false :=
  fun event hmem => Event.isResource_of_isCall (isCall_of_mem_connectCall event hmem)

theorem of_mem_releaseCalls {status : Status} {event : Event ρ κ}
    (hmem : event ∈ conn.releaseCalls id status) :
    event.isCall = true ∨ ∃ record, event = .logged record := by
  rcases List.mem_cons.1 hmem with rfl | hmem
  · exact .inr ⟨_, rfl⟩
  · exact .inl (isCall_of_mem_disconnectCall event hmem)

/-- At its end the callbacks of a connection and the log are told, and nobody
    else. -/
theorem Ending.of_mem_calls (ending : Ending κ) {event : Event ρ κ}
    (hmem : event ∈ ending.calls id conn) :
    event.isCall = true ∨ ∃ record, event = .logged record := by
  cases ending with
  | bad _ _ | pollFailed _ | abandoned _ _ | refused _ _ =>
      exact .inl (isCall_of_mem_failureCalls event hmem)
  | deferred | shrunk _ _ | lost _ _ => exact of_mem_releaseCalls conn id hmem
  | disconnected onDisconnect => exact of_mem_releaseCalls { conn with onDisconnect } id hmem
  | dismissed key => exact of_mem_releaseCalls conn.withoutCaller id hmem
  | shutDown =>
      rcases List.mem_append.1 hmem with hconnect | hdisconnect
      · exact .inl (isCall_of_mem_connectCall event hconnect)
      · exact .inl (isCall_of_mem_disconnectCall event hdisconnect)

/-- The callbacks of a connection are told while nothing is taken hold of or
    let go. -/
theorem Ending.isResource_of_mem_calls (ending : Ending κ) :
    ∀ event ∈ ending.calls id conn, event.isResource = false := by
  intro event hmem
  rcases ending.of_mem_calls conn id hmem with hcall | ⟨record, rfl⟩
  · exact Event.isResource_of_isCall hcall
  · rfl

theorem Ending.isResource_of_mem_heralds (ending : Ending κ) :
    ∀ event ∈ ending.heralds id conn, event.isResource = false := by
  cases ending with
  | bad _ _ | abandoned _ _ | lost _ _ | shrunk _ _ | dismissed _ =>
      exact List.forall_mem_singleton.2 rfl
  | disconnected _ | shutDown => exact List.forall_mem_nil _
  | pollFailed _ | deferred | refused _ _ =>
      simp [heralds, Connection.pollEvents, Event.isResource]

theorem filter_resources_unwatching :
    conn.unwatching.filter Event.isResource = conn.unwatching := by
  rw [Connection.unwatching]
  split
  · rfl
  · rfl

theorem Ending.filter_resources (ending : Ending κ) :
    (ending.events id conn).filter Event.isResource =
      conn.unwatching ++ [.tornDown conn.session] := by
  rw [Ending.events, List.filter_append, List.filter_append, List.filter_append,
    filter_events_eq_nil (ending.isResource_of_mem_heralds conn id),
    filter_events_eq_nil (ending.isResource_of_mem_calls conn id), filter_resources_unwatching,
    List.nil_append, List.append_nil]
  rfl

theorem filter_resources_stepEvents (poll : PollReport) :
    (conn.stepEvents id poll).filter Event.isResource =
      [.registered conn.socket poll.interest id none] := by
  have hpolled : (conn.pollEvents id poll).filter Event.isResource = [] := rfl
  -- what comes after the registration tells the log and the caller
  have hcalls : (if poll = .ok then
      .logged (.handshakeComplete id conn.socket) :: conn.connectCall id (.ok ())
      else []).filter Event.isResource = [] := by
    refine filter_events_eq_nil ?_
    split
    · exact List.forall_mem_cons.2 ⟨rfl, isResource_of_mem_connectCall conn id⟩
    · exact List.forall_mem_nil _
  rw [Connection.stepEvents, List.filter_append, List.filter_append, hpolled, hcalls]
  rfl

end

theorem Connection.IsNew.unwatching_eq_nil {conn : Connection ρ κ} (hnew : conn.IsNew) :
    conn.unwatching = [] := by
  rw [hnew, unwatching]
  rfl

theorem Connection.Watched.unwatching_eq {conn : Connection ρ κ} (h : conn.Watched) :
    conn.unwatching = [.deregistered conn.socket] := by
  rw [unwatching, if_pos h.registered]

/-- Among the events of an act, its resources are those that take hold of
    something or let it go. -/
theorem Act.filter_resources {v : View ρ κ} {act : Act ρ κ} (enabled : act.Enabled v)
    (hv : v.ctx.Watched) : act.events.filter Event.isResource = act.resources := by
  cases act with
  | noted events =>
      exact filter_events_eq_nil fun event hmem => (enabled event hmem).isResource_eq_false
  | asked id conn events =>
      exact filter_events_eq_nil fun event hmem => (enabled.2 event hmem).isResource_eq_false
  | poolCreated _ _ | openSpoiled _ _ _ | takenBack _ _ _ _ | adopted _ _ _ _ | tagged _ _ _
  | deferred _ _ _ | poolsDropped => rfl
  | opened id target conn poll =>
      have hstep := filter_resources_stepEvents conn id poll
      rw [events, List.filter_append, List.filter_cons_of_pos, List.filter_cons_of_neg, hstep]
      · rfl
      · exact Bool.false_ne_true
      · rfl
  | openFailed id target conn ending =>
      -- a connection that is gone at once was never watched
      have hends := ending.filter_resources conn id
      rw [enabled.1.unwatching_eq_nil, List.nil_append] at hends
      cases ending with
      | bad _ _ | pollFailed _ | refused _ _ | abandoned _ _ | deferred | disconnected _ | lost _ _
      | shrunk _ _ | dismissed _ | shutDown => exact congrArg (List.cons _) hends
  | stepped id conn poll => exact filter_resources_stepEvents conn id poll
  | lent id conn key request onConnect load =>
      refine filter_events_eq_nil (List.forall_mem_cons.2 ⟨rfl, ?_⟩)
      split
      · exact isResource_of_mem_connectCall { conn with request, onConnect } id
      · exact List.forall_mem_nil _
  | finished id conn ending =>
      have hends := ending.filter_resources conn id
      rw [(hv id conn enabled.1).unwatching_eq] at hends
      exact hends

/-- What is only read off resources, is read off the resources of an act. -/
theorem Act.filterMap_resources {β : Type} {v : View ρ κ} {act : Act ρ κ}
    (enabled : act.Enabled v) (hv : v.ctx.Watched) {f : Event ρ κ → Option β}
    (hf : ∀ event, event.isResource = false → f event = none) :
    act.events.filterMap f = act.resources.filterMap f := by
  rw [← filter_resources enabled hv, List.filterMap_filter]
  refine congrArg (List.filterMap · act.events) (funext fun event => ?_)
  split
  · rfl
  · rename_i hnot
    exact hf event (Bool.eq_false_iff.2 hnot)

theorem Act.mem_resources {v : View ρ κ} {act : Act ρ κ} (enabled : act.Enabled v)
    (hv : v.ctx.Watched) {event : Event ρ κ} (hresource : event.isResource = true) :
    event ∈ act.events ↔ event ∈ act.resources := by
  rw [← filter_resources enabled hv, List.mem_filter, and_iff_left hresource]

/-! ## One session and one socket -/

/-- The session and the socket of a live connection. -/
def Context.held? (ctx : Context ρ κ) (id : ConnId) : Option (SessionNo × Int) :=
  (ctx.conn? id).map fun conn => (conn.session, conn.socket)

theorem Context.held?_of_conn? {ctx : Context ρ κ} {id : ConnId} {conn : Connection ρ κ}
    (h : ctx.conn? id = some conn) : ctx.held? id = some (conn.session, conn.socket) := by
  rw [held?, h]
  rfl

theorem Context.isSome_held? (ctx : Context ρ κ) (id : ConnId) :
    (ctx.held? id).isSome = (ctx.conn? id).isSome := by
  rw [held?, Option.isSome_map]

theorem Context.socket?_eq_held? (ctx : Context ρ κ) (id : ConnId) :
    ctx.socket? id = (ctx.held? id).map Prod.snd := by
  rw [socket?, held?, Option.map_map]
  rfl

theorem Act.held?_run {v : View ρ κ} {act : Act ρ κ} (enabled : act.Enabled v)
    (hw : v.ctx.Orderly) {id : ConnId} (hopens : ¬act.Opens id) (hends : ¬act.Ends id) :
    (act.run v).ctx.held? id = v.ctx.held? id := by
  rw [Context.held?, conn?_run enabled hw]
  cases act with
  | noted _ | asked _ _ _ | poolCreated _ _ | openFailed _ _ _ _ | openSpoiled _ _ _
  | poolsDropped => rfl
  | opened i target conn poll =>
      simp only [change, if_neg (Ne.symm hopens)]
      rfl
  | finished i conn ending =>
      simp only [change, if_neg (Ne.symm hends)]
      rfl
  | stepped i conn _ | lent i conn _ _ _ _ | takenBack i conn _ _ | adopted i conn _ _
  | tagged i conn _ | deferred i conn _ =>
      by_cases hid : id = i
      · subst hid
        simp only [change, if_pos, Context.held?, enabled.1]
        rfl
      · simp only [change, if_neg hid]
        rfl

/-- A connection that is not ended lives on, with the session and the socket
    that it had. -/
theorem Path.held?_of_live {v v' : View ρ κ} {acts : List (Act ρ κ)} (h : Path v acts v')
    (hw : v.ctx.Orderly) {id : ConnId} (hlive : (v.ctx.conn? id).isSome)
    (hends : ∀ act ∈ acts, ¬act.Ends id) : v'.ctx.held? id = v.ctx.held? id := by
  induction h with
  | nil => rfl
  | @cons v v' act acts enabled _ ih =>
      obtain ⟨hact, hrest⟩ := List.forall_mem_cons.1 hends
      have hsame := Act.held?_run enabled hw (Act.not_opens_of_live enabled hw hlive) hact
      have hlater : ((act.run v).ctx.conn? id).isSome := by
        rw [← Context.isSome_held?, hsame, Context.isSome_held?]
        exact hlive
      rw [ih (Act.orderly_run enabled hw) hlater hrest, hsame]

/-- What lives on is not opened anew. -/
theorem Path.not_opens_of_live {v v' : View ρ κ} {acts : List (Act ρ κ)} (h : Path v acts v')
    (hw : v.ctx.Orderly) {id : ConnId} (hlive : (v.ctx.conn? id).isSome)
    (hends : ∀ act ∈ acts, ¬act.Ends id) : ∀ act ∈ acts, ¬act.Opens id := by
  intro act hmem
  obtain ⟨earlier, later, v₁, rfl, first, enabled, -⟩ := h.of_mem hmem
  have hsame := first.held?_of_live hw hlive fun act hmem =>
    hends act (List.mem_append_left _ hmem)
  refine Act.not_opens_of_live enabled (first.orderly hw) ?_
  rw [← Context.isSome_held?, hsame, Context.isSome_held?]
  exact hlive

/-- A connection that is gone was ended. -/
theorem Path.exists_ends {v v' : View ρ κ} {acts : List (Act ρ κ)} (h : Path v acts v')
    (hw : v.ctx.Orderly) {id : ConnId} (hlive : (v.ctx.conn? id).isSome)
    (hgone : v'.ctx.conn? id = none) : ∃ act ∈ acts, act.Ends id := by
  by_cases hends : ∃ act ∈ acts, act.Ends id
  · exact hends
  · have hsame := h.held?_of_live hw hlive fun act hmem hact => hends ⟨act, hmem, hact⟩
    rw [← Context.isSome_held?, ← hsame, Context.isSome_held?, hgone] at hlive
    cases hlive

end ConnPool
