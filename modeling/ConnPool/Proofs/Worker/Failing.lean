/-
  ConnPool.Proofs.Worker.Failing

  All the ways in which a handshake fails.

  A handshake is given up when its time is over, the server hangs up or the
  socket breaks; or it is driven on, and the poll fails or the event loop
  refuses the socket.  On the way to these ends a connection may be polled, its
  record changed, its state even set to connected.  None of this is left in the
  end: whichever way a handshake fails, the context is the one without the
  connection, and what is done to the outside is the same but for the error
  that is told, and for what was asked, and logged, on the way (`Event.isTransit`).
-/

import ConnPool.Proofs.Worker.Leaving
import ConnPool.Scripted

namespace ConnPool

variable {ω ρ κ : Type}

/-! ## What is done on the way -/

/-- Polls, refused registrations and log records: what leads to the end of a
    handshake, but is not part of it. -/
def Event.isTransit : Event ρ κ → Bool
  | polled .. | registered _ _ _ (some _) | logged _ => true
  | startRefused _ | started .. | nonblocking .. | tornDown _ | registered _ _ _ none
  | deregistered _ | connectCalled .. | disconnectCalled .. => false

/-- The events that are more than a step on the way. -/
def outcomes (events : List (Event ρ κ)) : List (Event ρ κ) :=
  events.filter (!·.isTransit)

theorem outcomes_append (first second : List (Event ρ κ)) :
    outcomes (first ++ second) = outcomes first ++ outcomes second :=
  List.filter_append first second

theorem outcomes_eq_nil {events : List (Event ρ κ)}
    (h : ∀ event ∈ events, event.isTransit = true) : outcomes events = [] :=
  List.filter_eq_nil_iff.2 fun event hmem => by simp [h event hmem]

theorem outcomes_eq_self {events : List (Event ρ κ)}
    (h : ∀ event ∈ events, event.isTransit = false) : outcomes events = events :=
  List.filter_eq_self.2 fun event hmem => by simp [h event hmem]

theorem Event.isTransit_of_addressee? {event : Event ρ κ} {id : ConnId}
    (h : event.addressee? = some id) : event.isTransit = false := by
  cases event with
  | connectCalled _ _ _ _ | disconnectCalled _ _ _ _ => rfl
  | startRefused _ | started _ _ | nonblocking _ _ | polled _ _ | tornDown _ | registered _ _ _ _
  | deregistered _ | logged _ => cases h

/-- What is left to do for a connection whose handshake failed: the event loop
    forgets the socket, the callbacks are told, and the session ends. -/
def Connection.failure (conn : Connection ρ κ) (id : ConnId) (error : PoolError) :
    List (Event ρ κ) :=
  conn.unwatching ++ conn.failureCalls id error ++ [.tornDown conn.session]

/-- Whatever leads to the failure of a handshake, the same comes of it. -/
theorem Ending.outcomes_events {ending : Ending κ} {error : PoolError}
    (h : ending.failure? = some error) (id : ConnId) (conn : Connection ρ κ) :
    outcomes (ending.events id conn) = conn.failure id error := by
  have hheralds : outcomes (ending.heralds id conn) = [] := by
    apply outcomes_eq_nil
    cases ending with
    | bad _ _ | abandoned _ _ => exact List.forall_mem_singleton.2 rfl
    | pollFailed _ | refused _ _ => simp [heralds, Connection.pollEvents, Event.isTransit]
    | deferred | disconnected _ | lost _ _ | shrunk _ _ | dismissed _ | shutDown => cases h
  have hcalls : ending.calls id conn = conn.failureCalls id error := by
    cases ending with
    | bad _ _ | pollFailed _ | refused _ _ | abandoned _ _ =>
        obtain rfl := Option.some.inj h
        rfl
    | deferred | disconnected _ | lost _ _ | shrunk _ _ | dismissed _ | shutDown => cases h
  have hunwatching : outcomes conn.unwatching = conn.unwatching := by
    apply outcomes_eq_self
    rw [Connection.unwatching]
    split
    · exact List.forall_mem_singleton.2 rfl
    · exact List.forall_mem_nil _
  have htold : outcomes (conn.failureCalls id error) = conn.failureCalls id error := by
    apply outcomes_eq_self
    exact fun event hmem => Event.isTransit_of_addressee? (addressee?_of_mem_failureCalls event hmem)
  have htorn : outcomes [Event.tornDown conn.session] = [(.tornDown conn.session : Event ρ κ)] := rfl
  rw [Ending.events, outcomes_append, outcomes_append, outcomes_append, hheralds, hunwatching, hcalls,
    htold, htorn, List.nil_append]
  rfl

namespace Worker

/-! ## What comes of a failure -/

section

variable {w w' : Worker ω ρ κ} {id : ConnId} {conn : Connection ρ κ} {error : PoolError}

/-- Whether a worker has gone on to give up the handshake of the connection under
    `id`: the context is the one without the connection, and its failure is all
    that was done to the outside, but for what was done on the way. -/
structure GivesUp (w w' : Worker ω ρ κ) (id : ConnId) (conn : Connection ρ κ)
    (error : PoolError) : Prop where
  ctx : w'.ctx = w.ctx.without id conn
  started : w'.started = w.started
  trace : ∃ events, w'.trace = w.trace ++ events ∧ outcomes events = conn.failure id error

theorem GivesUp.of_view {ending : Ending κ} (herror : ending.failure? = some error)
    (hview : w'.view = (w.view.withCtx (·.without id conn)).tell (ending.events id conn)) :
    w.GivesUp w' id conn error where
  ctx := congrArg View.ctx hview
  started := congrArg View.started hview
  trace := ⟨_, congrArg View.trace hview, ending.outcomes_events herror id conn⟩

/-- Logging is not part of a failure. -/
theorem GivesUp.log (h : w.GivesUp w' id conn error) (record : LogRecord) :
    w.GivesUp (w'.log record) id conn error where
  ctx := h.ctx
  started := h.started
  trace := by
    obtain ⟨events, htrace, houtcomes⟩ := h.trace
    refine ⟨events ++ [.logged record], ?_, ?_⟩
    · show w'.trace ++ _ = _
      rw [htrace, List.append_assoc]
    · rw [outcomes_append, houtcomes]
      exact List.append_nil _

/-- The connection that is given up is no longer live. -/
theorem GivesUp.state?_eq_none (h : w.GivesUp w' id conn error) : w'.ctx.state? id = none := by
  rw [h.ctx, Context.state?, Context.conn?_without, if_pos rfl]
  rfl

end

variable [Environment ω]

/-! ## Ways of failing -/

/-- Whether the handshake of the connection under `id` fails with an error on a
    report, as the environment answers. -/
inductive FailsBy (w : Worker ω ρ κ) (id : ConnId) (conn : Connection ρ κ) :
    Readiness → PoolError → Prop
  | timedOut : FailsBy w id conn .timeout (.handshake "handshake timed out")
  | hungUp : FailsBy w id conn .closed (.handshake "server closed the connection during handshake")
  | broken (text : String) (htext : ((Environment.errorText conn.session).run w.env).1 = text) :
      FailsBy w id conn .error
        (.handshake (if text = "" then "socket error during handshake" else text))
  | pollFailed (event : Readiness) (hdrives : event.Drives) (env : ω)
      (hpoll : (Environment.poll conn.session).run w.env = (.failed, env)) (text : String)
      (htext : ((Environment.errorText conn.session).run env).1 = text) :
      FailsBy w id conn event (.handshake text)
  /-- Where a disconnect waits, a completed handshake is not registered. -/
  | refused (event : Readiness) (hdrives : event.Drives) (poll : PollReport) (env : ω)
      (hpoll : (Environment.poll conn.session).run w.env = (poll, env)) (hnot : poll ≠ .failed)
      (hpending : poll = .ok → conn.disconnectPending = false) (reason : String)
      (hrefused : ((Environment.register conn.socket poll.interest id).run env).1 = some reason) :
      FailsBy w id conn event (.registration reason)

section

variable {w : Worker ω ρ κ} {id : ConnId} {conn : Connection ρ κ}

theorem fst_watchConn_of_refused {socket : Int} {interest : Interest} {reason : String}
    (h : ((Environment.register socket interest id).run w.env).1 = some reason) :
    (w.watchConn id socket interest).1 = .error (.registration reason) := by
  have hanswer : (w.registerSocket socket interest id).1 = some reason := h
  rw [watchConn]
  rcases hregister : w.registerSocket socket interest id with ⟨refusal, w₁⟩
  rw [hregister] at hanswer
  obtain rfl : refusal = some reason := hanswer
  rfl

/-- A step whose poll fails answers the latest error text of the session. -/
theorem fst_stepHandshake_of_failed (hconn : w.ctx.conn? id = some conn) {env : ω}
    (hpoll : (Environment.poll conn.session).run w.env = (.failed, env)) {text : String}
    (htext : ((Environment.errorText conn.session).run env).1 = text) :
    (w.stepHandshake id).1 = .error (.handshake text) := by
  have hasked : w.pollSession conn.session =
      (.failed, { w with env }.emit (.polled conn.session .failed)) := by
    rw [pollSession, ask, hpoll]
  rw [stepHandshake, hconn]
  simp only [hasked]
  rw [← htext]
  rfl

/-- A step whose poll does not fail answers that the socket is refused. -/
theorem fst_stepHandshake_of_refused (hconn : w.ctx.conn? id = some conn) {poll : PollReport}
    {env : ω} (hpoll : (Environment.poll conn.session).run w.env = (poll, env))
    (hnot : poll ≠ .failed) (hpending : poll = .ok → conn.disconnectPending = false)
    {reason : String}
    (hrefused : ((Environment.register conn.socket poll.interest id).run env).1 = some reason) :
    (w.stepHandshake id).1 = .error (.registration reason) := by
  have hasked : w.pollSession conn.session =
      (poll, { w with env }.emit (.polled conn.session poll)) := by
    rw [pollSession, ask, hpoll]
  -- what is recorded between the poll and the registration is not asked for
  rw [stepHandshake, hconn]
  simp only [hasked]
  cases poll with
  | failed => exact absurd rfl hnot
  | ok =>
      simp only [hpending rfl, Bool.false_eq_true, if_false]
      generalize hready : Worker.modifyConn _ id ({ · with state := .connected }) = w₁
      have hrefused₁ : ((Environment.register conn.socket .none id).run w₁.env).1 = some reason := by
        rw [← hready]
        exact hrefused
      have hstatus := fst_watchConn_of_refused hrefused₁
      rcases hwatch : w₁.watchConn id conn.socket .none with ⟨status, w₂⟩
      rw [hwatch] at hstatus
      obtain rfl : status = .error (.registration reason) := hstatus
      rfl
  | reading | writing => exact fst_watchConn_of_refused hrefused

/-! ## Reports that end a handshake -/

/-- A handshake step that answers an error has given up the handshake. -/
theorem givesUp_of_stepHandshake (hconn : w.ctx.conn? id = some conn) {error : PoolError}
    (hfails : (w.stepHandshake id).1 = .error error) :
    w.GivesUp (w.stepHandshake id).2 id conn error := by
  rcases stepHandshake_cases hconn with ⟨poll, -, -, hfst, -⟩ | ⟨ending, -, hfst, hview⟩
  · rw [hfails] at hfst
    cases hfst
  · have herror : ending.failure? = some error := by
      rw [hfails, Ending.status] at hfst
      split at hfst
      · rename_i e hfailure
        cases hfst
        exact hfailure
      · cases hfst
    exact .of_view herror hview

/-- A report on which the step of a handshake fails. -/
theorem advance_of_step_fails (hconn : w.ctx.conn? id = some conn)
    (hstate : conn.state = .connecting) {event : Readiness} (hdrives : event.Drives)
    {error : PoolError} (hfails : (w.stepHandshake id).1 = .error error) :
    (w.advance id event).1 = none ∧ w.GivesUp (w.advance id event).2 id conn error := by
  have hgives := givesUp_of_stepHandshake hconn hfails
  rcases hstep : w.stepHandshake id with ⟨status, w₁⟩
  rw [hstep] at hfails hgives
  obtain rfl : status = .error error := hfails
  have hadvance : w.advance id event =
      ((w₁.log (.stepEndedConnection id error)).ctx.state? id,
        w₁.log (.stepEndedConnection id error)) := by
    cases event with
    | readable | writable => simp only [advance, hconn, hstate, hstep]
    | timeout | closed | error => exact hdrives.elim
  have hlogged := hgives.log (.stepEndedConnection id error)
  rw [hadvance]
  exact ⟨hlogged.state?_eq_none, hlogged⟩

/-- A report on which a handshake is given up without a step. -/
theorem advance_of_abandoned (hconn : w.ctx.conn? id = some conn)
    (hstate : conn.state = .connecting) {event : Readiness} (hdrives : ¬event.Drives)
    {reason : String} (hreason : (w.abortReason conn.session event).1 = reason) :
    (w.advance id event).1 = none ∧
      w.GivesUp (w.advance id event).2 id conn (.handshake reason) := by
  have hview := view_abandoned hconn (view_abortReason w conn.session event) event reason
  rcases habort : w.abortReason conn.session event with ⟨reason', w₁⟩
  rw [habort] at hreason hview
  obtain rfl : reason' = reason := hreason
  have hadvance : w.advance id event =
      (((w₁.log (.handshakeAborted id event reason')).abort id (.handshake reason')).ctx.state? id,
        (w₁.log (.handshakeAborted id event reason')).abort id (.handshake reason')) := by
    cases event with
    | readable | writable => exact absurd trivial hdrives
    | timeout | closed | error => simp only [advance, hconn, hstate, habort]
  have hgives : w.GivesUp _ id conn (.handshake reason') := .of_view rfl hview
  rw [hadvance]
  exact ⟨hgives.state?_eq_none, hgives⟩

/-- Whichever way a handshake fails, it is given up. -/
theorem advance_of_failsBy (hconn : w.ctx.conn? id = some conn) (hstate : conn.state = .connecting)
    {event : Readiness} {error : PoolError} (h : w.FailsBy id conn event error) :
    (w.advance id event).1 = none ∧ w.GivesUp (w.advance id event).2 id conn error := by
  cases h with
  | timedOut =>
      have hnot : ¬Readiness.timeout.Drives := fun hdrives => hdrives
      exact advance_of_abandoned hconn hstate hnot rfl
  | hungUp =>
      have hnot : ¬Readiness.closed.Drives := fun hdrives => hdrives
      exact advance_of_abandoned hconn hstate hnot rfl
  | broken text htext =>
      have hnot : ¬Readiness.error.Drives := fun hdrives => hdrives
      subst htext
      exact advance_of_abandoned hconn hstate hnot rfl
  | pollFailed event hdrives env hpoll text htext =>
      exact advance_of_step_fails hconn hstate hdrives
        (fst_stepHandshake_of_failed hconn hpoll htext)
  | refused event hdrives poll env hpoll hnot hpending reason hrefused =>
      exact advance_of_step_fails hconn hstate hdrives
        (fst_stepHandshake_of_refused hconn hpoll hnot hpending hrefused)

end

/-- All ways for a handshake to fail are one way.  From the same context, two
    reports on which the handshake of a connection fails, whatever the
    environment answers on the way, both end the connection, lead to the same
    context, down to its slots and its vacant slots, and are followed by the same
    failure, but for the error that is told. -/
theorem failures_agree {ω₁ ω₂ : Type} [Environment ω₁] [Environment ω₂] {w₁ : Worker ω₁ ρ κ}
    {w₂ : Worker ω₂ ρ κ} (hctx : w₂.ctx = w₁.ctx) {id : ConnId} {conn : Connection ρ κ}
    (hconn : w₁.ctx.conn? id = some conn) (hstate : conn.state = .connecting)
    {event₁ event₂ : Readiness} {error₁ error₂ : PoolError}
    (h₁ : w₁.FailsBy id conn event₁ error₁) (h₂ : w₂.FailsBy id conn event₂ error₂) :
    (w₁.advance id event₁).1 = none ∧ (w₂.advance id event₂).1 = none ∧
      (w₂.advance id event₂).2.ctx = (w₁.advance id event₁).2.ctx ∧
      w₁.GivesUp (w₁.advance id event₁).2 id conn error₁ ∧
      w₂.GivesUp (w₂.advance id event₂).2 id conn error₂ := by
  have hconn₂ : w₂.ctx.conn? id = some conn := by
    rw [hctx]
    exact hconn
  obtain ⟨hnone₁, hgives₁⟩ := advance_of_failsBy hconn hstate h₁
  obtain ⟨hnone₂, hgives₂⟩ := advance_of_failsBy hconn₂ hstate h₂
  refine ⟨hnone₁, hnone₂, ?_, hgives₁, hgives₂⟩
  rw [hgives₁.ctx, hgives₂.ctx, hctx]

/-- A connection that waits for its server, and is to be closed then. -/
def waitingWorker : Worker Scripted.Stage String String :=
  ((fresh .empty { scripts := [{ polls := [(.reading, none), (.reading, none)] }] }).performAll
    [.connectUri (some "request") (some "opened") "u", .disconnect ⟨0, 0⟩ (some "closed")]).2

/-- The same worker, with an event loop that refuses all sockets. -/
def refusingWorker : Worker Scripted.Stage String String :=
  { waitingWorker with env := { waitingWorker.env with refuseRegistrations := some "full" } }

/-- The connection that waits. -/
def waitingConn : Connection String String where
  session := 0
  socket := 10
  state := .connecting
  lastPoll := some .reading
  request := some "request"
  onConnect := some "opened"
  onDisconnect := some "closed"
  disconnectPending := true
  membership := .registry
  registered := true

theorem failures_agree_of_timedOut_of_refused :
    refusingWorker.ctx = waitingWorker.ctx ∧
      waitingWorker.ctx.conn? ⟨0, 0⟩ = some waitingConn ∧ waitingConn.state = .connecting ∧
      waitingWorker.FailsBy ⟨0, 0⟩ waitingConn .timeout (.handshake "handshake timed out") ∧
      refusingWorker.FailsBy ⟨0, 0⟩ waitingConn .readable (.registration "full") ∧
      (refusingWorker.advance ⟨0, 0⟩ .readable).2.ctx =
        (waitingWorker.advance ⟨0, 0⟩ .timeout).2.ctx := by
  have hconn : waitingWorker.ctx.conn? ⟨0, 0⟩ = some waitingConn := rfl
  have hrefused : refusingWorker.FailsBy ⟨0, 0⟩ waitingConn .readable (.registration "full") :=
    .refused .readable trivial .reading _ rfl (by decide) (fun hok => nomatch hok) "full" rfl
  have hctx : refusingWorker.ctx = waitingWorker.ctx := rfl
  obtain ⟨-, -, hsame, -⟩ := failures_agree hctx hconn rfl .timedOut hrefused
  exact ⟨hctx, hconn, rfl, .timedOut, hrefused, hsame⟩

end Worker
end ConnPool
