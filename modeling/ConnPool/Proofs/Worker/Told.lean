/-
  ConnPool.Proofs.Worker.Told

  What matters among the events of an act.

  Most of what happens around a connection is incidental: it is logged, polled,
  watched.  What matters is which callbacks are called and which sessions end.
  Of each act's events, `told` is what matters, in order; so to look for a call
  among the events of an act, or to count calls, is to do so in a short list.
-/

import ConnPool.Proofs.Worker.Act

namespace ConnPool

variable {ρ κ : Type}

/-- Whether an event calls a callback, ends a session or refuses one. -/
def Event.matters : Event ρ κ → Bool
  | nonblocking _ (some _) | tornDown _ | connectCalled .. | disconnectCalled .. => true
  | nonblocking _ none | startRefused _ | started .. | polled .. | registered .. | deregistered _
  | logged _ => false

theorem Event.IsNote.matters_eq_false {event : Event ρ κ} (h : event.IsNote) :
    event.matters = false := by
  cases event with
  | startRefused _ | logged _ => rfl
  | nonblocking _ _ | tornDown _ | started _ _ | polled _ _ | registered _ _ _ _ | deregistered _
  | connectCalled _ _ _ _ | disconnectCalled _ _ _ _ => exact h.elim

/-- What a connection's callbacks are told at its end. -/
def Ending.told (id : ConnId) (conn : Connection ρ κ) : Ending κ → List (Event ρ κ)
  | bad _ reason | pollFailed reason | abandoned _ reason =>
    conn.failureCalls id (.handshake reason)
  | refused _ reason => conn.failureCalls id (.registration reason)
  | deferred | shrunk .. => conn.disconnectCall id (.ok ())
  | disconnected onDisconnect => { conn with onDisconnect }.disconnectCall id (.ok ())
  | lost _ reason => conn.disconnectCall id (.error (.connectionLost reason))
  | dismissed _ => []
  | shutDown => conn.connectCall id (.error .shutdown) ++ conn.disconnectCall id (.ok ())

/-- What matters of an act. -/
def Act.told : Act ρ κ → List (Event ρ κ)
  | opened id _ conn poll | stepped id conn poll =>
    if poll = .ok then conn.connectCall id (.ok ()) else []
  | openFailed id _ conn ending | finished id conn ending =>
    ending.told id conn ++ [.tornDown conn.session]
  | openSpoiled session _ reason => [.nonblocking session (some reason), .tornDown session]
  | lent id conn _ request onConnect _ =>
    if conn.state = .connected then { conn with request, onConnect }.connectCall id (.ok ()) else []
  | asked _ _ events => events.filter Event.matters
  | noted _ | poolCreated .. | takenBack .. | adopted .. | tagged .. | deferred .. | poolsDropped =>
    []

/-! ## Callbacks -/

section

variable (conn : Connection ρ κ) (id : ConnId)

@[simp] theorem filter_connectCall (status : Status) :
    (conn.connectCall id status).filter Event.matters = conn.connectCall id status := by
  refine List.filter_eq_self.2 fun event hmem => ?_
  obtain ⟨callback, -, rfl⟩ := List.mem_map.1 hmem
  rfl

@[simp] theorem filter_disconnectCall (status : Status) :
    (conn.disconnectCall id status).filter Event.matters = conn.disconnectCall id status := by
  refine List.filter_eq_self.2 fun event hmem => ?_
  obtain ⟨callback, -, rfl⟩ := List.mem_map.1 hmem
  rfl

@[simp] theorem filter_failureCalls (error : PoolError) :
    (conn.failureCalls id error).filter Event.matters = conn.failureCalls id error := by
  rw [Connection.failureCalls, List.filter_append, filter_connectCall]
  split
  · rw [filter_disconnectCall]
  · rfl

@[simp] theorem filter_releaseCalls (status : Status) :
    (conn.releaseCalls id status).filter Event.matters = conn.disconnectCall id status := by
  rw [Connection.releaseCalls]
  exact filter_disconnectCall conn id status

@[simp] theorem filter_unwatching : conn.unwatching.filter Event.matters = [] := by
  rw [Connection.unwatching]
  split
  · rfl
  · rfl

@[simp] theorem filter_pollEvents (poll : PollReport) :
    (conn.pollEvents id poll).filter Event.matters = [] := rfl

@[simp] theorem filter_stepEvents (poll : PollReport) :
    (conn.stepEvents id poll).filter Event.matters =
      if poll = .ok then conn.connectCall id (.ok ()) else [] := by
  have hwatched : [Event.registered conn.socket poll.interest id none].filter
    (Event.matters : Event ρ κ → Bool) = [] := rfl
  rw [Connection.stepEvents, List.filter_append, List.filter_append, filter_pollEvents, hwatched,
    List.nil_append, List.nil_append]
  split
  · exact filter_connectCall conn id (.ok ())
  · rfl

/-! ## Ends -/

theorem Ending.filter_heralds (ending : Ending κ) :
    (ending.heralds id conn).filter Event.matters = [] := by
  cases ending with
  | bad _ _ | abandoned _ _ | lost _ _ | shrunk _ _ | dismissed _ | disconnected _ | shutDown => rfl
  | pollFailed _ | deferred | refused _ _ =>
      rw [Ending.heralds, List.filter_append, filter_pollEvents]
      rfl

theorem Ending.filter_calls (ending : Ending κ) :
    (ending.calls id conn).filter Event.matters = ending.told id conn := by
  cases ending with
  | bad _ _ | pollFailed _ | abandoned _ _ | refused _ _ => exact filter_failureCalls conn id _
  | deferred | shrunk _ _ | lost _ _ => exact filter_releaseCalls conn id _
  | disconnected onDisconnect => exact filter_releaseCalls { conn with onDisconnect } id _
  | dismissed key => exact filter_releaseCalls conn.withoutCaller id _
  | shutDown =>
      rw [Ending.calls, List.filter_append, filter_connectCall, filter_disconnectCall]
      rfl

theorem Ending.filter_events (ending : Ending κ) :
    (ending.events id conn).filter Event.matters =
      ending.told id conn ++ [.tornDown conn.session] := by
  rw [Ending.events, List.filter_append, List.filter_append, List.filter_append, filter_heralds,
    filter_unwatching, filter_calls]
  rfl

end

/-! ## Acts -/

/-- What matters among the events of an act is what it tells. -/
theorem Act.filter_events {v : View ρ κ} {act : Act ρ κ} (enabled : act.Enabled v) :
    act.events.filter Event.matters = act.told := by
  cases act with
  | noted events =>
      refine List.filter_eq_nil_iff.2 fun event hmem => ?_
      rw [(enabled event hmem).matters_eq_false]
      exact Bool.false_ne_true
  | asked _ _ _ | poolCreated _ _ | openSpoiled _ _ _ | takenBack _ _ _ _ | adopted _ _ _ _
  | tagged _ _ _ | deferred _ _ _ | poolsDropped => rfl
  | opened id target conn poll =>
      -- starting a session and making its socket non-blocking go unnoticed
      rw [events, List.filter_append, List.filter_cons_of_neg, List.filter_cons_of_neg,
        filter_stepEvents]
      · exact List.append_nil _
      · exact Bool.false_ne_true
      · exact Bool.false_ne_true
  | openFailed id target conn ending =>
      cases ending with
      | bad _ _ | pollFailed _ | refused _ _ | abandoned _ _ | deferred | disconnected _ | lost _ _
      | shrunk _ _ | dismissed _ | shutDown => exact Ending.filter_events conn id _
  | stepped id conn poll => exact filter_stepEvents conn id poll
  | lent id conn key request onConnect load =>
      rw [events, List.filter_cons_of_neg, told]
      · split
        · exact filter_connectCall { conn with request, onConnect } id (.ok ())
        · rfl
      · exact Bool.false_ne_true
  | finished id conn ending => exact Ending.filter_events conn id ending

/-- What an act does that matters, it tells. -/
theorem Act.mem_told {v : View ρ κ} {act : Act ρ κ} (enabled : act.Enabled v) {event : Event ρ κ}
    (hmem : event ∈ act.events) (hmatters : event.matters = true) : event ∈ act.told := by
  rw [← filter_events enabled]
  exact List.mem_filter.2 ⟨hmem, hmatters⟩

theorem Act.mem_of_told {v : View ρ κ} {act : Act ρ κ} (enabled : act.Enabled v) {event : Event ρ κ}
    (hmem : event ∈ act.told) : event ∈ act.events := by
  rw [← filter_events enabled] at hmem
  exact (List.mem_filter.1 hmem).1

/-- Counting among those that can count. -/
theorem countP_filter_of_imp {α : Type} {p q : α → Bool} (h : ∀ x, p x = true → q x = true)
    (l : List α) : (l.filter q).countP p = l.countP p := by
  rw [List.countP_filter]
  refine List.countP_congr fun x _ => ?_
  rw [Bool.and_eq_true]
  exact ⟨And.left, fun hx => ⟨hx, h x hx⟩⟩

/-- Counting what matters in an act. -/
theorem Act.countP_events {v : View ρ κ} {act : Act ρ κ} (enabled : act.Enabled v)
    {p : Event ρ κ → Bool} (hp : ∀ event, p event = true → event.matters = true) :
    act.events.countP p = act.told.countP p := by
  rw [← filter_events enabled, countP_filter_of_imp hp]

/-! ## Whom a call concerns -/

/-- The connection whose callback an event calls, if it calls one. -/
def Event.addressee? : Event ρ κ → Option ConnId
  | connectCalled _ id _ _ | disconnectCalled _ id _ _ => some id
  | startRefused _ | started .. | nonblocking .. | polled .. | tornDown _ | registered ..
  | deregistered _ | logged _ => none

/-- The connection whose callbacks an act may call. -/
def Act.addressee? : Act ρ κ → Option ConnId
  | opened id _ _ _ | openFailed id _ _ _ | stepped id _ _ | lent id _ _ _ _ _ | finished id _ _ =>
    some id
  | noted _ | asked .. | poolCreated .. | openSpoiled .. | takenBack .. | adopted .. | tagged ..
  | deferred .. | poolsDropped => none

theorem Event.IsReply.addressee?_eq_none {session : SessionNo} {event : Event ρ κ}
    (h : event.IsReply session) : event.addressee? = none := by
  cases event with
  | nonblocking _ _ | polled _ _ => rfl
  | startRefused _ | logged _ | tornDown _ | started _ _ | registered _ _ _ _ | deregistered _
  | connectCalled _ _ _ _ | disconnectCalled _ _ _ _ => exact h.elim

section

variable {conn : Connection ρ κ} {id : ConnId}

theorem addressee?_of_mem_connectCall {status : Status} :
    ∀ event ∈ conn.connectCall id status, event.addressee? = some id := by
  intro event hmem
  obtain ⟨callback, -, rfl⟩ := List.mem_map.1 hmem
  rfl

theorem addressee?_of_mem_disconnectCall {status : Status} :
    ∀ event ∈ conn.disconnectCall id status, event.addressee? = some id := by
  intro event hmem
  obtain ⟨callback, -, rfl⟩ := List.mem_map.1 hmem
  rfl

theorem addressee?_of_mem_failureCalls {error : PoolError} :
    ∀ event ∈ conn.failureCalls id error, event.addressee? = some id := by
  rw [Connection.failureCalls]
  refine List.forall_mem_append.2 ⟨addressee?_of_mem_connectCall, ?_⟩
  split
  · exact addressee?_of_mem_disconnectCall
  · exact List.forall_mem_nil _

theorem Ending.addressee?_of_mem_told (ending : Ending κ) :
    ∀ event ∈ ending.told id conn, event.addressee? = some id := by
  cases ending with
  | bad _ _ | pollFailed _ | abandoned _ _ | refused _ _ => exact addressee?_of_mem_failureCalls
  | deferred | shrunk _ _ | disconnected _ | lost _ _ => exact addressee?_of_mem_disconnectCall
  | dismissed _ => exact List.forall_mem_nil _
  | shutDown =>
      exact List.forall_mem_append.2
        ⟨addressee?_of_mem_connectCall, addressee?_of_mem_disconnectCall⟩

end

/-- An act only calls the callbacks of the connection that it concerns. -/
theorem Act.addressee?_of_mem {v : View ρ κ} {act : Act ρ κ} (enabled : act.Enabled v)
    {event : Event ρ κ} (hmem : event ∈ act.events) {id : ConnId}
    (hevent : event.addressee? = some id) : act.addressee? = some id := by
  have hmatters : event.matters = true := by
    cases event with
    | connectCalled _ _ _ _ | disconnectCalled _ _ _ _ => rfl
    | startRefused _ | started _ _ | nonblocking _ _ | polled _ _ | tornDown _ | registered _ _ _ _
    | deregistered _ | logged _ => cases hevent
  have htold := mem_told enabled hmem hmatters
  cases act with
  | noted _ | poolCreated _ _ | takenBack _ _ _ _ | adopted _ _ _ _ | tagged _ _ _
  | deferred _ _ _ | poolsDropped => cases htold
  | asked i conn events =>
      rw [(enabled.2 _ (List.mem_filter.1 htold).1).addressee?_eq_none] at hevent
      cases hevent
  | openSpoiled session target reason =>
      rcases List.mem_cons.1 htold with rfl | htold
      · cases hevent
      · obtain rfl := List.mem_singleton.1 htold
        cases hevent
  | opened i target conn poll | stepped i conn poll =>
      rw [told] at htold
      split at htold
      · rw [addressee?_of_mem_connectCall event htold] at hevent
        exact hevent
      · cases htold
  | lent i conn key request onConnect load =>
      rw [told] at htold
      split at htold
      · rw [addressee?_of_mem_connectCall event htold] at hevent
        exact hevent
      · cases htold
  | openFailed i target conn ending | finished i conn ending =>
      rcases List.mem_append.1 htold with hcall | htorn
      · rw [ending.addressee?_of_mem_told event hcall] at hevent
        exact hevent
      · obtain rfl := List.mem_singleton.1 htorn
        cases hevent

end ConnPool
