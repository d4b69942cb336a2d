/-
  ConnPool.Proofs.Worker.Polling

  Handshake steps as the outside sees them.

  Read off a trace, a `Polling` is one poll of a session together with the
  sockets that the event loop is asked to watch after it and before the next
  poll.  An act makes one polling at most, and asks for nothing before it, so
  that the pollings of a path are those of its acts.

      opened, stepped     the socket is watched for what the poll reported
      poll failed         nothing is asked for
      refused             the event loop was asked, and refused
      deferred            nothing is asked for, the connection is released
-/

import ConnPool.Proofs.Worker.Resources

namespace ConnPool

variable {ρ κ : Type}

/-! ## Traces -/

/-- One poll of a session, and what the event loop is asked for after it. -/
structure Polling where
  session : SessionNo
  report : PollReport
  /-- The sockets to be watched, for what, and for which connection. -/
  attempts : List (Int × Interest × ConnId)
  deriving DecidableEq

/-- What the event loop is asked for before the first poll. -/
def leadingAttempts : List (Event ρ κ) → List (Int × Interest × ConnId)
  | [] => []
  | event :: events =>
    match event with
    | .polled _ _ => []
    | .registered socket interest id _ => (socket, interest, id) :: leadingAttempts events
    | _ => leadingAttempts events

/-- The polls, in order, each with what comes of it. -/
def pollings : List (Event ρ κ) → List Polling
  | [] => []
  | event :: events =>
    match event with
    | .polled session report => ⟨session, report, leadingAttempts events⟩ :: pollings events
    | _ => pollings events

/-- What the polls of a session report, in order. -/
def reportsOf (session : SessionNo) (events : List (Event ρ κ)) : List PollReport :=
  ((pollings events).filter (·.session = session)).map Polling.report

section

variable {first second : List (Event ρ κ)}

theorem leadingAttempts_append (h : leadingAttempts second = []) :
    leadingAttempts (first ++ second) = leadingAttempts first := by
  induction first with
  | nil => exact h
  | cons event events ih =>
      cases event with
      | polled session report => rfl
      | registered socket interest id refusal => exact congrArg (List.cons _) ih
      | startRefused _ | started _ _ | nonblocking _ _ | tornDown _ | deregistered _
      | connectCalled _ _ _ _ | disconnectCalled _ _ _ _ | logged _ => exact ih

/-- What comes after a stretch of a trace does not change its pollings, if a
    poll comes first. -/
theorem pollings_append (h : leadingAttempts second = []) :
    pollings (first ++ second) = pollings first ++ pollings second := by
  induction first with
  | nil => rfl
  | cons event events ih =>
      cases event with
      | polled session report =>
          rw [List.cons_append, pollings, pollings, ih, leadingAttempts_append h]
          rfl
      | startRefused _ | started _ _ | nonblocking _ _ | tornDown _ | registered _ _ _ _
      | deregistered _ | connectCalled _ _ _ _ | disconnectCalled _ _ _ _ | logged _ => exact ih

theorem reportsOf_append (session : SessionNo) (h : leadingAttempts second = []) :
    reportsOf session (first ++ second) = reportsOf session first ++ reportsOf session second := by
  rw [reportsOf, pollings_append h, List.filter_append, List.map_append]
  rfl

end

/-! ## Acts -/

/-- Whether an event belongs to a handshake step or prepares for the first
    one. -/
def Event.isDriving : Event ρ κ → Bool
  | nonblocking .. | polled .. | registered .. => true
  | startRefused _ | started .. | tornDown _ | deregistered _ | connectCalled ..
  | disconnectCalled .. | logged _ => false

theorem Event.isDriving_of_isCall {event : Event ρ κ} (h : event.isCall = true) :
    event.isDriving = false := by
  cases event with
  | connectCalled _ _ _ _ | disconnectCalled _ _ _ _ => rfl
  | startRefused _ | started _ _ | nonblocking _ _ | polled _ _ | tornDown _ | registered _ _ _ _
  | deregistered _ | logged _ => cases h

theorem Event.IsNote.isDriving_eq_false {event : Event ρ κ} (h : event.IsNote) :
    event.isDriving = false := by
  cases event with
  | startRefused _ | logged _ => rfl
  | nonblocking _ _ | tornDown _ | started _ _ | polled _ _ | registered _ _ _ _ | deregistered _
  | connectCalled _ _ _ _ | disconnectCalled _ _ _ _ => exact h.elim

theorem leadingAttempts_filter (events : List (Event ρ κ)) :
    leadingAttempts (events.filter Event.isDriving) = leadingAttempts events := by
  induction events with
  | nil => rfl
  | cons event events ih =>
      cases event with
      | polled session report => rfl
      | registered socket interest id refusal => exact congrArg (List.cons _) ih
      | startRefused _ | started _ _ | nonblocking _ _ | tornDown _ | deregistered _
      | connectCalled _ _ _ _ | disconnectCalled _ _ _ _ | logged _ => exact ih

theorem pollings_filter (events : List (Event ρ κ)) :
    pollings (events.filter Event.isDriving) = pollings events := by
  induction events with
  | nil => rfl
  | cons event events ih =>
      cases event with
      | polled session report =>
          rw [List.filter_cons_of_pos (by rfl), pollings, pollings, ih, leadingAttempts_filter]
      | startRefused _ | started _ _ | nonblocking _ _ | tornDown _ | registered _ _ _ _
      | deregistered _ | connectCalled _ _ _ _ | disconnectCalled _ _ _ _ | logged _ => exact ih

/-- The handshake step that leads to the end of a connection, if one does. -/
def Ending.driving (id : ConnId) (conn : Connection ρ κ) : Ending κ → List (Event ρ κ)
  | pollFailed _ => [.polled conn.session .failed]
  | refused poll reason =>
    [.polled conn.session poll, .registered conn.socket poll.interest id (some reason)]
  | deferred => [.polled conn.session .ok]
  | bad .. | abandoned .. | disconnected _ | lost .. | shrunk .. | dismissed _ | shutDown => []

/-- The handshake step of an act, if it takes one, and what prepares for it. -/
def Act.driving : Act ρ κ → List (Event ρ κ)
  | opened id _ conn poll =>
    [.nonblocking conn.session none, .polled conn.session poll,
      .registered conn.socket poll.interest id none]
  | openFailed _ _ _ (.bad ..) => []
  | openFailed id _ conn ending => .nonblocking conn.session none :: ending.driving id conn
  | openSpoiled session _ reason => [.nonblocking session (some reason)]
  | stepped id conn poll =>
    [.polled conn.session poll, .registered conn.socket poll.interest id none]
  | finished id conn ending => ending.driving id conn
  | noted _ | asked .. | poolCreated .. | lent .. | takenBack .. | adopted .. | tagged ..
  | deferred .. | poolsDropped => []

section

variable (conn : Connection ρ κ) (id : ConnId)

theorem filter_driving_connectCall (status : Status) :
    (conn.connectCall id status).filter Event.isDriving = [] :=
  filter_events_eq_nil fun event hmem =>
    Event.isDriving_of_isCall (isCall_of_mem_connectCall event hmem)

theorem Ending.filter_driving (ending : Ending κ) :
    (ending.events id conn).filter Event.isDriving = ending.driving id conn := by
  have hunwatching : (conn.unwatching : List (Event ρ κ)).filter Event.isDriving = [] := by
    rw [Connection.unwatching]
    split
    · rfl
    · rfl
  have hcalls : (ending.calls id conn).filter Event.isDriving = [] := by
    refine filter_events_eq_nil fun event hmem => ?_
    rcases ending.of_mem_calls conn id hmem with hcall | ⟨record, rfl⟩
    · exact Event.isDriving_of_isCall hcall
    · rfl
  have hheralds : (ending.heralds id conn).filter Event.isDriving = ending.driving id conn := by
    cases ending with
    | bad _ _ | pollFailed _ | refused _ _ | abandoned _ _ | deferred | disconnected _ | lost _ _
    | shrunk _ _ | dismissed _ | shutDown => rfl
  rw [events, List.filter_append, List.filter_append, List.filter_append, hunwatching, hcalls,
    hheralds, List.append_nil, List.append_nil]
  exact List.append_nil _

theorem filter_driving_stepEvents (poll : PollReport) :
    (conn.stepEvents id poll).filter Event.isDriving =
      [.polled conn.session poll, .registered conn.socket poll.interest id none] := by
  -- what comes after the registration tells the log and the caller
  have hcalls : (if poll = .ok then
      .logged (.handshakeComplete id conn.socket) :: conn.connectCall id (.ok ())
      else []).filter Event.isDriving = [] := by
    split
    · exact filter_driving_connectCall conn id (.ok ())
    · rfl
  rw [Connection.stepEvents, List.filter_append, List.filter_append, hcalls, List.append_nil]
  rfl

end

/-- Among the events of an act, those that drive a handshake are its own. -/
theorem Act.filter_driving {v : View ρ κ} {act : Act ρ κ} (enabled : act.Enabled v)
    (hasks : ¬act.Asks) : act.events.filter Event.isDriving = act.driving := by
  cases act with
  | asked _ _ _ => exact absurd trivial hasks
  | noted events =>
      exact filter_events_eq_nil fun event hmem => (enabled event hmem).isDriving_eq_false
  | poolCreated _ _ | openSpoiled _ _ _ | takenBack _ _ _ _ | adopted _ _ _ _ | tagged _ _ _
  | deferred _ _ _ | poolsDropped => rfl
  | opened id target conn poll =>
      have hstep := filter_driving_stepEvents conn id poll
      show (.nonblocking conn.session none ::
        (conn.stepEvents id poll ++ [_]).filter Event.isDriving : List (Event ρ κ)) = _
      rw [List.filter_append, hstep]
      rfl
  | openFailed id target conn ending =>
      have hends := ending.filter_driving conn id
      cases ending with
      | bad _ _ => exact hends
      | pollFailed _ | refused _ _ | abandoned _ _ | deferred | disconnected _ | lost _ _
      | shrunk _ _ | dismissed _ | shutDown => exact congrArg (List.cons _) hends
  | stepped id conn poll => exact filter_driving_stepEvents conn id poll
  | lent id conn key request onConnect load =>
      rw [events]
      split
      · exact filter_driving_connectCall { conn with request, onConnect } id (.ok ())
      · rfl
  | finished id conn ending => exact ending.filter_driving conn id

/-- The polling of the handshake step that ends a connection, if one does. -/
def Ending.polling? (id : ConnId) (conn : Connection ρ κ) : Ending κ → Option Polling
  | pollFailed _ => some ⟨conn.session, .failed, []⟩
  | refused poll _ => some ⟨conn.session, poll, [(conn.socket, poll.interest, id)]⟩
  | deferred => some ⟨conn.session, .ok, []⟩
  | bad .. | abandoned .. | disconnected _ | lost .. | shrunk .. | dismissed _ | shutDown => none

/-- The polling that an act makes, if it makes one. -/
def Act.polling? : Act ρ κ → Option Polling
  | opened id _ conn poll | stepped id conn poll =>
    some ⟨conn.session, poll, [(conn.socket, poll.interest, id)]⟩
  | openFailed id _ conn ending | finished id conn ending => ending.polling? id conn
  | noted _ | asked .. | poolCreated .. | openSpoiled .. | lent .. | takenBack .. | adopted ..
  | tagged .. | deferred .. | poolsDropped => none

section

variable {v v' : View ρ κ} {act : Act ρ κ} {acts : List (Act ρ κ)}

theorem Act.leadingAttempts_events (enabled : act.Enabled v) (hasks : ¬act.Asks) :
    leadingAttempts act.events = [] := by
  rw [← leadingAttempts_filter, filter_driving enabled hasks]
  cases act with
  | openFailed id target conn ending | finished id conn ending => cases ending <;> rfl
  | noted _ | asked _ _ _ | poolCreated _ _ | opened _ _ _ _ | openSpoiled _ _ _ | stepped _ _ _
  | lent _ _ _ _ _ _ | takenBack _ _ _ _ | adopted _ _ _ _ | tagged _ _ _ | deferred _ _ _
  | poolsDropped => rfl

theorem Act.pollings_events (enabled : act.Enabled v) (hasks : ¬act.Asks) :
    pollings act.events = act.polling?.toList := by
  rw [← pollings_filter, filter_driving enabled hasks]
  cases act with
  | openFailed id target conn ending | finished id conn ending => cases ending <;> rfl
  | noted _ | asked _ _ _ | poolCreated _ _ | opened _ _ _ _ | openSpoiled _ _ _ | stepped _ _ _
  | lent _ _ _ _ _ _ | takenBack _ _ _ _ | adopted _ _ _ _ | tagged _ _ _ | deferred _ _ _
  | poolsDropped => rfl

/-- The pollings of a path are those of its acts. -/
theorem Path.pollings_eq (h : Path v acts v') (hasks : ∀ act ∈ acts, ¬act.Asks) :
    leadingAttempts (acts.flatMap Act.events) = [] ∧
      pollings (acts.flatMap Act.events) = acts.filterMap Act.polling? := by
  induction h with
  | nil => exact ⟨rfl, rfl⟩
  | cons enabled _ ih =>
      obtain ⟨hact, hrest⟩ := List.forall_mem_cons.1 hasks
      obtain ⟨hleading, hpollings⟩ := ih hrest
      rw [List.flatMap_cons, leadingAttempts_append hleading, pollings_append hleading, hpollings,
        Act.pollings_events enabled hact]
      refine ⟨Act.leadingAttempts_events enabled hact, ?_⟩
      rw [List.filterMap_cons]
      split
      · rename_i hnone
        rw [hnone]
        rfl
      · rename_i hsome
        rw [hsome]
        rfl

end
end ConnPool
