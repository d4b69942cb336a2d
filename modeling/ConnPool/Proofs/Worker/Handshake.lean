/-
  ConnPool.Proofs.Worker.Handshake

  Handshake steps and openings as acts.

  A handshake step either keeps its connection, whose record it changes, or
  ends it in one of three ways (`Ending.EndsStep`).  An opening puts a new
  connection in and steps it once, so its first step decides whether the
  connection is taken in or was only attempted.
-/

import ConnPool.Proofs.Worker.Release

namespace ConnPool

variable {ω ρ κ : Type}

/-- The ways in which a handshake step can end its connection. -/
def Ending.EndsStep (conn : Connection ρ κ) : Ending κ → Prop
  | pollFailed _ => True
  | refused poll _ => poll ≠ .failed ∧ ¬(poll = .ok ∧ conn.disconnectPending = true)
  | deferred => conn.disconnectPending = true
  | bad .. | abandoned .. | disconnected _ | lost .. | shrunk .. | dismissed _ | shutDown => False

/-- What a step that ends its connection answers. -/
def Ending.status (ending : Ending κ) : Status :=
  match ending.failure? with
  | some error => .error error
  | none => .ok ()

namespace Worker

section

variable {w : Worker ω ρ κ} {id : ConnId} {conn : Connection ρ κ}

theorem conn?_of_view_modifyConn {w₁ : Worker ω ρ κ} {f : Connection ρ κ → Connection ρ κ}
    {events : List (Event ρ κ)} (h : w.ctx.conn? id = some conn)
    (hview : w₁.view = (w.view.withCtx (·.modifyConn id f)).tell events) :
    w₁.ctx.conn? id = some (f conn) := by
  rw [ctx_of_view hview]
  show (w.ctx.modifyConn id f).conn? id = some (f conn)
  rw [Context.conn?_modifyConn, if_pos rfl, h]
  rfl

/-- What a connection is changed into before it ends matters only for what it
    is told. -/
theorem withCtx_modifyConn_without {f : Connection ρ κ → Connection ρ κ}
    (hf : (f conn).membership = conn.membership) (v : View ρ κ) (id : ConnId) :
    (v.withCtx (·.modifyConn id f)).withCtx (·.without id (f conn)) =
      v.withCtx (·.without id conn) :=
  congrArg (fun ctx => { v with ctx }) (Context.without_modifyConn v.ctx id f hf)

theorem withCtx_modifyConn_modifyConn (v : View ρ κ) (id : ConnId)
    (f g : Connection ρ κ → Connection ρ κ) :
    (v.withCtx (·.modifyConn id f)).withCtx (·.modifyConn id g) =
      v.withCtx (·.modifyConn id fun conn => g (f conn)) :=
  congrArg (fun ctx => { v with ctx }) (Context.modifyConn_modifyConn v.ctx id f g)

theorem view_confirmConnect (h : w.ctx.conn? id = some conn) :
    (w.confirmConnect id).view =
      (w.view.withCtx (·.modifyConn id ({ · with onConnect := none }))).tell
        (conn.connectCall id (.ok ())) := by
  rw [confirmConnect, h]
  exact view_tellConnect _ id conn (.ok ())

variable [Environment ω]

theorem view_abort_modified {w₁ : Worker ω ρ κ} {f : Connection ρ κ → Connection ρ κ}
    {events : List (Event ρ κ)} (h : w.ctx.conn? id = some conn)
    (hview : w₁.view = (w.view.withCtx (·.modifyConn id f)).tell events)
    (hf : (f conn).membership = conn.membership) (error : PoolError) :
    (w₁.abort id error).view =
      (w.view.withCtx (·.without id conn)).tell
        (events ++ ((f conn).unwatching ++ (f conn).failureCalls id error ++
          [.tornDown (f conn).session])) := by
  rw [view_abort (conn?_of_view_modifyConn h hview), hview, View.withCtx_tell,
    withCtx_modifyConn_without hf, View.tell_tell]

theorem view_release_modified {w₁ : Worker ω ρ κ} {f : Connection ρ κ → Connection ρ κ}
    {events : List (Event ρ κ)} (h : w.ctx.conn? id = some conn)
    (hview : w₁.view = (w.view.withCtx (·.modifyConn id f)).tell events)
    (hf : (f conn).membership = conn.membership) (status : Status) :
    (w₁.release id status).2.view =
      (w.view.withCtx (·.without id conn)).tell
        (events ++ ((f conn).unwatching ++ (f conn).releaseCalls id status ++
          [.tornDown (f conn).session])) := by
  rw [(view_release (conn?_of_view_modifyConn h hview) status).2, hview, View.withCtx_tell,
    withCtx_modifyConn_without hf, View.tell_tell]

/-- Watching the socket of a connection that was changed from `conn` by `f`. -/
theorem view_watchConn {w₁ : Worker ω ρ κ} {f : Connection ρ κ → Connection ρ κ}
    {events : List (Event ρ κ)} (h : w.ctx.conn? id = some conn)
    (hview : w₁.view = (w.view.withCtx (·.modifyConn id f)).tell events)
    (hf : (f conn).membership = conn.membership) (socket : Int) (interest : Interest) :
    ((w₁.watchConn id socket interest).1 = .ok () ∧
      (w₁.watchConn id socket interest).2.view =
        (w.view.withCtx (·.modifyConn id fun conn => { f conn with registered := true })).tell
          (events ++ [.registered socket interest id none])) ∨
    ∃ reason, (w₁.watchConn id socket interest).1 = .error (.registration reason) ∧
      (w₁.watchConn id socket interest).2.view =
        (w.view.withCtx (·.without id conn)).tell
          (events ++ [.registered socket interest id (some reason),
              .logged (.registrationRefused id socket reason)] ++
            ((f conn).unwatching ++ (f conn).failureCalls id (.registration reason) ++
              [.tornDown (f conn).session])) := by
  have hview₂ := view_registerSocket w₁ socket interest id
  rw [watchConn]
  -- the event loop takes the socket, or the connection ends
  rcases hregister : w₁.registerSocket socket interest id with ⟨refusal, w₂⟩
  simp only [hregister, hview, View.tell_tell] at hview₂
  cases refusal with
  | none =>
      refine .inl ⟨rfl, ?_⟩
      rw [view_modifyConn, hview₂, View.withCtx_tell, withCtx_modifyConn_modifyConn]
  | some reason =>
      refine .inr ⟨reason, rfl, ?_⟩
      refine view_abort_modified h ?_ hf (.registration reason)
      rw [view_log, hview₂, View.tell_tell, List.append_assoc]
      rfl

end

/-! ## One step -/

section

variable [Environment ω] {w : Worker ω ρ κ} {id : ConnId} {conn : Connection ρ κ}

/-- A refused socket ends the connection, however far the step has come. -/
theorem refused_events {f : Connection ρ κ → Connection ρ κ} (poll : PollReport) (reason : String)
    (hunwatching : (f conn).unwatching = conn.unwatching)
    (hcalls : (f conn).failureCalls id (.registration reason) =
      conn.failureCalls id (.registration reason))
    (hsession : (f conn).session = conn.session) :
    conn.pollEvents id poll ++ [.registered conn.socket poll.interest id (some reason),
        .logged (.registrationRefused id conn.socket reason)] ++
      ((f conn).unwatching ++ (f conn).failureCalls id (.registration reason) ++
        [.tornDown (f conn).session]) =
      (Ending.refused poll reason).events id conn := by
  rw [hunwatching, hcalls, hsession]
  simp only [Ending.events, Ending.heralds, Ending.calls, List.append_assoc]

/-- A step that does not end the handshake. -/
theorem step_waits {w₂ : Worker ω ρ κ} {poll : PollReport} (h : w.ctx.conn? id = some conn)
    (hview : w₂.view = (w.view.withCtx (·.modifyConn id ({ · with lastPoll := some poll }))).tell
      (conn.pollEvents id poll)) (hok : poll ≠ .ok) {outcome : Status × Worker ω ρ κ}
    (houtcome : (w₂.modifyConn id ({ · with state := .connecting })).watchConn id conn.socket
      poll.interest = outcome) :
    (outcome.1 = .ok () ∧ outcome.2.view =
      (w.view.withCtx (·.modifyConn id (·.stepped poll))).tell (conn.stepEvents id poll)) ∨
    ∃ reason, outcome.1 = .error (.registration reason) ∧ outcome.2.view =
      (w.view.withCtx (·.without id conn)).tell ((Ending.refused poll reason).events id conn) := by
  have hview₃ : (w₂.modifyConn id ({ · with state := .connecting })).view =
      (w.view.withCtx (·.modifyConn id
        ({ · with lastPoll := some poll, state := .connecting }))).tell
        (conn.pollEvents id poll) := by
    rw [view_modifyConn, hview, View.withCtx_tell, withCtx_modifyConn_modifyConn]
  subst houtcome
  rcases view_watchConn h hview₃ rfl conn.socket poll.interest with
    ⟨hfst, hwatch⟩ | ⟨reason, hfst, hwatch⟩
  · refine .inl ⟨hfst, hwatch.trans ?_⟩
    -- the three changes of the record together are the step
    have hstepped : (fun conn : Connection ρ κ =>
        { conn with lastPoll := some poll, state := .connecting, registered := true }) =
        (·.stepped poll) := by
      funext conn
      simp only [Connection.stepped, if_neg hok]
    rw [hstepped, Connection.stepEvents, if_neg hok, List.append_nil]
  · refine .inr ⟨reason, hfst, hwatch.trans ?_⟩
    rw [refused_events (f := ({ · with lastPoll := some poll, state := .connecting })) poll reason
      rfl rfl rfl]

/-- A step that completes the handshake while no disconnect waits for it. -/
theorem step_completes {w₂ : Worker ω ρ κ} (h : w.ctx.conn? id = some conn)
    (hview : w₂.view = (w.view.withCtx (·.modifyConn id
      ({ · with lastPoll := some .ok, state := .connected }))).tell (conn.pollEvents id .ok))
    {outcome : Status × Worker ω ρ κ} (houtcome : w₂.watchConn id conn.socket .none = outcome) :
    (outcome.1 = .ok () ∧
      ((outcome.2.log (.handshakeComplete id conn.socket)).confirmConnect id).view =
        (w.view.withCtx (·.modifyConn id (·.stepped .ok))).tell (conn.stepEvents id .ok)) ∨
    ∃ reason, outcome.1 = .error (.registration reason) ∧ outcome.2.view =
      (w.view.withCtx (·.without id conn)).tell ((Ending.refused .ok reason).events id conn) := by
  subst houtcome
  rcases view_watchConn h hview rfl conn.socket .none with ⟨hfst, hwatch⟩ | ⟨reason, hfst, hwatch⟩
  · refine .inl ⟨hfst, ?_⟩
    -- the connect callback is taken out of the record after the log has told
    generalize hw₃ : Worker.log _ (.handshakeComplete id conn.socket) = w₃
    have hlogged : w₃.view =
        (w.view.withCtx (·.modifyConn id
          ({ · with lastPoll := some .ok, state := .connected, registered := true }))).tell
          (conn.pollEvents id .ok ++ [.registered conn.socket .none id none] ++
            [.logged (.handshakeComplete id conn.socket)]) := by
      rw [← hw₃, view_log, hwatch, View.tell_tell]
    rw [view_confirmConnect (conn?_of_view_modifyConn h hlogged), hlogged,
      View.withCtx_tell, withCtx_modifyConn_modifyConn, View.tell_tell]
    simp only [Connection.stepEvents, List.append_assoc]
    rfl
  · refine .inr ⟨reason, hfst, hwatch.trans ?_⟩
    rw [← refused_events (f := ({ · with lastPoll := some .ok, state := .connected })) .ok reason
      rfl rfl rfl]
    rfl

/-- A step whose poll fails. -/
theorem step_fails {w₂ w₃ : Worker ω ρ κ} {reason : String} (h : w.ctx.conn? id = some conn)
    (hview : w₂.view = (w.view.withCtx (·.modifyConn id ({ · with lastPoll := some .failed }))).tell
      (conn.pollEvents id .failed)) (herror : w₂.errorText conn.session = (reason, w₃)) :
    ((w₃.log (.handshakeFailed id reason)).abort id (.handshake reason)).view =
      (w.view.withCtx (·.without id conn)).tell ((Ending.pollFailed reason).events id conn) := by
  have hsame : w₃.view = w₂.view := by
    rw [← view_errorText w₂ conn.session, herror]
  have hlogged : (w₃.log (.handshakeFailed id reason)).view =
      (w.view.withCtx (·.modifyConn id ({ · with lastPoll := some .failed }))).tell
        (conn.pollEvents id .failed ++ [.logged (.handshakeFailed id reason)]) := by
    rw [view_log, hsame, hview, View.tell_tell]
  rw [Ending.events, List.append_assoc, List.append_assoc, ← List.append_assoc conn.unwatching]
  exact view_abort_modified h hlogged rfl (.handshake reason)

/-- A step that completes the handshake for which a disconnect waited. -/
theorem step_defers {w₂ : Worker ω ρ κ} (h : w.ctx.conn? id = some conn)
    (hview : w₂.view = (w.view.withCtx (·.modifyConn id
      ({ · with lastPoll := some .ok, state := .connected }))).tell (conn.pollEvents id .ok)) :
    ((w₂.log (.deferredRelease id)).release id (.ok ())).2.view =
      (w.view.withCtx (·.without id conn)).tell (Ending.deferred.events id conn) := by
  have hlogged : (w₂.log (.deferredRelease id)).view =
      (w.view.withCtx (·.modifyConn id
        ({ · with lastPoll := some .ok, state := .connected }))).tell
        (conn.pollEvents id .ok ++ [.logged (.deferredRelease id)]) := by
    rw [view_log, hview, View.tell_tell]
  rw [Ending.events, List.append_assoc, List.append_assoc, ← List.append_assoc conn.unwatching]
  exact view_release_modified h hlogged rfl (.ok ())

/-- A handshake step keeps its connection or ends it. -/
theorem stepHandshake_cases (h : w.ctx.conn? id = some conn) :
    (∃ poll, poll ≠ .failed ∧ ¬(poll = .ok ∧ conn.disconnectPending = true) ∧
      (w.stepHandshake id).1 = .ok () ∧
      (w.stepHandshake id).2.view =
        (w.view.withCtx (·.modifyConn id (·.stepped poll))).tell (conn.stepEvents id poll)) ∨
    ∃ ending : Ending κ, ending.EndsStep conn ∧ (w.stepHandshake id).1 = ending.status ∧
      (w.stepHandshake id).2.view =
        (w.view.withCtx (·.without id conn)).tell (ending.events id conn) := by
  have hview := view_pollSession w conn.session
  rw [stepHandshake, h]
  rcases hpoll : w.pollSession conn.session with ⟨poll, w₁⟩
  simp only [hpoll] at hview ⊢
  -- the report is recorded whatever it is
  generalize hw₂ : (w₁.modifyConn id _).log _ = w₂
  have hview₂ : w₂.view = (w.view.withCtx (·.modifyConn id ({ · with lastPoll := some poll }))).tell
      (conn.pollEvents id poll) := by
    rw [← hw₂]
    simp [hview, Connection.pollEvents]
  have hwaits := fun hok : poll ≠ .ok => step_waits h hview₂ hok rfl
  cases poll with
  | failed =>
      rcases herror : w₂.errorText conn.session with ⟨reason, w₃⟩
      exact .inr ⟨.pollFailed reason, trivial, rfl, step_fails h hview₂ herror⟩
  | ok =>
      have hview₃ : (w₂.modifyConn id ({ · with state := .connected })).view =
          (w.view.withCtx (·.modifyConn id
            ({ · with lastPoll := some .ok, state := .connected }))).tell
            (conn.pollEvents id .ok) := by
        rw [view_modifyConn, hview₂, View.withCtx_tell, withCtx_modifyConn_modifyConn]
      simp only
      split
      · -- a disconnect waited for the handshake
        rename_i hpending
        exact .inr ⟨.deferred, hpending, rfl, step_defers h hview₃⟩
      · rename_i hpending
        rcases hwatch : (w₂.modifyConn id ({ · with state := .connected })).watchConn id conn.socket
          .none with ⟨status, w₃⟩
        rcases step_completes h hview₃ hwatch with ⟨rfl, hdone⟩ | ⟨reason, rfl, hdone⟩
        · exact .inl ⟨.ok, by decide, fun hboth => hpending hboth.2, rfl, hdone⟩
        · exact .inr ⟨.refused .ok reason, ⟨by decide, fun hboth => hpending hboth.2⟩, rfl, hdone⟩
  | reading =>
      have hkeeps : ¬(PollReport.reading = .ok ∧ conn.disconnectPending = true) := by simp
      rcases hwaits (by decide) with ⟨hfst, hdone⟩ | ⟨reason, hfst, hdone⟩
      · exact .inl ⟨.reading, by decide, hkeeps, hfst, hdone⟩
      · exact .inr ⟨.refused .reading reason, ⟨by decide, hkeeps⟩, hfst, hdone⟩
  | writing =>
      have hkeeps : ¬(PollReport.writing = .ok ∧ conn.disconnectPending = true) := by simp
      rcases hwaits (by decide) with ⟨hfst, hdone⟩ | ⟨reason, hfst, hdone⟩
      · exact .inl ⟨.writing, by decide, hkeeps, hfst, hdone⟩
      · exact .inr ⟨.refused .writing reason, ⟨by decide, hkeeps⟩, hfst, hdone⟩

end

end Worker

/-! ## Openings -/

/-- How an opening goes: what it answers, and the act that it is. -/
inductive Opening (target : Target) (request : Option ρ) (onConnect : Option κ)
    (membership : Membership) : Except PoolError ConnId → Act ρ κ → Prop
  | opened (id : ConnId) (conn : Connection ρ κ) (poll : PollReport)
      (hrequest : conn.request = request) (honConnect : conn.onConnect = onConnect)
      (hmembership : conn.membership = membership) :
      Opening target request onConnect membership (.ok id) (.opened id target conn poll)
  | unstarted (reason : String) (events : List (Event ρ κ))
      (hrefused : ∃ records : List LogRecord,
        events = .startRefused target :: records.map .logged) :
      Opening target request onConnect membership (.error (.allocation reason)) (.noted events)
  | spoiled (session : SessionNo) (reason : String) :
      Opening target request onConnect membership (.error (.socketMode reason))
        (.openSpoiled session target reason)
  | failed (id : ConnId) (conn : Connection ρ κ) (ending : Ending κ) (error : PoolError)
      (herror : ending.failure? = some error) (hrequest : conn.request = request)
      (honConnect : conn.onConnect = onConnect) (hmembership : conn.membership = membership) :
      Opening target request onConnect membership (.error error)
        (.openFailed id target conn ending)

/-- Whether an act is an opening that comes to its first handshake step. -/
def Act.Readied : Act ρ κ → Prop
  | opened .. => True
  | openFailed _ _ conn ending => ending.EndsStep conn
  | noted _ | asked .. | poolCreated .. | openSpoiled .. | stepped .. | lent .. | takenBack ..
  | adopted .. | tagged .. | deferred .. | finished .. | poolsDropped => False

namespace Worker

variable [Environment ω]

/-- Whether a session towards `target` is started that fares well, and whose
    socket can be made non-blocking. -/
def Readies (w : Worker ω ρ κ) (target : Target) : Prop :=
  match w.startSession target with
  | (none, _) => False
  | (some session, w) =>
    match w.sessionHealth session with
    | (.bad, _) => False
    | (.ok, w) => (w.setNonblocking session).1 = none

/-- A worker that has started a session towards `target`, and told `events`
    since. -/
def HasStarted (w w₁ : Worker ω ρ κ) (target : Target) (events : List (Event ρ κ)) : Prop :=
  w₁.view = ⟨w.ctx, w.started + 1, w.trace ++ .started w.started target :: events, w.missed⟩

section

omit [Environment ω]

variable {w w₁ w₂ : Worker ω ρ κ} {target : Target} {events : List (Event ρ κ)}
  {conn : Connection ρ κ}

theorem HasStarted.tell (h : HasStarted w w₁ target events) {more : List (Event ρ κ)}
    (hview : w₂.view = w₁.view.tell more) : HasStarted w w₂ target (events ++ more) := by
  rw [HasStarted, hview, h, View.tell, List.append_assoc]
  rfl

theorem HasStarted.addressable (h : HasStarted w w₁ target events)
    (ha : (w₁.addConn conn).2.view.slotCount ≤ 2 ^ 32) :
    (w.ctx.conns.insert conn).2.Addressable := by
  rw [view_addConn, h] at ha
  exact ha

/-- A connection that is put in gets the next id of the context before. -/
theorem HasStarted.fst_addConn (h : HasStarted w w₁ target events) :
    (w₁.addConn conn).1 = w.ctx.nextId conn := by
  rw [Worker.fst_addConn, ctx_of_view h]
  rfl

theorem HasStarted.conn?_addConn (h : HasStarted w w₁ target events) (hw : w.ctx.Orderly)
    (ha : (w.ctx.conns.insert conn).2.Addressable) :
    (w₁.addConn conn).2.ctx.conn? (w₁.addConn conn).1 = some conn := by
  have hctx : w₁.ctx = w.ctx := ctx_of_view h
  show (w₁.ctx.conns.insert conn).2.get? (w₁.ctx.conns.insert conn).1 = some conn
  rw [hctx, Arena.get?_insert hw.arena ha, if_pos rfl]

end

/-- An opening of a session that is bad from its start. -/
theorem abort_addConn {w w₁ : Worker ω ρ κ} {target : Target} {conn : Connection ρ κ}
    {kind reason : String} (hw : w.ctx.Orderly)
    (h : HasStarted w w₁ target [.logged (.connectError kind reason)])
    (ha : (w.ctx.conns.insert conn).2.Addressable) (hsession : conn.session = w.started) :
    ((w₁.addConn conn).2.abort (w₁.addConn conn).1 (.handshake reason)).view =
      (Act.openFailed (w.ctx.nextId conn) target conn (.bad kind reason)).run w.view := by
  rw [view_abort (h.conn?_addConn hw ha), h.fst_addConn, view_addConn, h]
  refine View.ext (hw.without_insert ha) rfl ?_ rfl
  simp [Act.run, Act.events, Ending.events, Ending.heralds, Ending.calls, hsession]

/-- An opening that comes to its first handshake step. -/
theorem stepHandshake_addConn {w w₁ : Worker ω ρ κ} {target : Target} {conn : Connection ρ κ}
    (hw : w.ctx.Orderly)
    (h : HasStarted w w₁ target [.nonblocking w.started none])
    (ha : (w.ctx.conns.insert conn).2.Addressable) (hnew : conn.IsNew)
    (hsession : conn.session = w.started) {outcome : Status × Worker ω ρ κ}
    (houtcome : (w₁.addConn conn).2.stepHandshake (w.ctx.nextId conn) = outcome) :
    (∃ poll, poll ≠ .failed ∧ outcome.1 = .ok () ∧
      outcome.2.ctx.conn? (w.ctx.nextId conn) = some (conn.stepped poll) ∧
      outcome.2.ctx.pools = w.ctx.pools ∧
      ((outcome.2.withCtx (·.enlist (w.ctx.nextId conn) conn.membership)).log
        (.opened (w.ctx.nextId conn) conn.socket (some (conn.stepped poll).state))).view =
        (Act.opened (w.ctx.nextId conn) target conn poll).run w.view) ∨
    ∃ (ending : Ending κ) (error : PoolError), ending.EndsOpening ∧ ending.EndsStep conn ∧
      ending.failure? = some error ∧ outcome.1 = .error error ∧
      outcome.2.view = (Act.openFailed (w.ctx.nextId conn) target conn ending).run w.view := by
  subst houtcome
  have hconn := h.conn?_addConn hw ha
  rw [h.fst_addConn] at hconn
  -- nobody can have asked a new connection to end
  have hpending : conn.disconnectPending = false := by
    rw [hnew]
  rcases stepHandshake_cases hconn with ⟨poll, hpoll, -, hfst, hview⟩ | ⟨ending, hends, hfst, hview⟩
  · refine .inl ⟨poll, hpoll, hfst, conn?_of_view_modifyConn hconn hview, ?_, ?_⟩
    · rw [ctx_of_view hview, view_addConn, h]
      rfl
    · rw [view_log, view_withCtx, hview, view_addConn, h]
      refine View.ext (hw.enlist_insert ha rfl) rfl ?_ rfl
      simp [Act.run, Act.events, ← hsession]
  · refine .inr ?_
    rw [hview, view_addConn, h]
    cases ending with
    | pollFailed reason =>
        refine ⟨.pollFailed reason, _, trivial, hends, rfl, hfst,
          View.ext (hw.without_insert ha) rfl ?_ rfl⟩
        simp [Act.run, Act.events, ← hsession]
    | refused poll reason =>
        refine ⟨.refused poll reason, _, hends.1, hends, rfl, hfst,
          View.ext (hw.without_insert ha) rfl ?_ rfl⟩
        simp [Act.run, Act.events, ← hsession]
    | deferred =>
        rw [Ending.EndsStep, hpending] at hends
        cases hends
    | bad _ _ | abandoned _ _ | disconnected _ | lost _ _ | shrunk _ _ | dismissed _ | shutDown =>
        exact absurd hends id

omit [Environment ω] in
/-- An opening for which no session is started. -/
theorem opening_of_refused {w w₁ : Worker ω ρ κ} {target : Target} {records : List LogRecord}
    (hview : w₁.view = w.view.tell (.startRefused target :: records.map .logged)) (reason : String)
    (request : Option ρ) (onConnect : Option κ) (membership : Membership) :
    ∃ act, Opening target request onConnect membership (.error (.allocation reason)) act ∧
      act.Enabled w.view ∧ act.run w.view = (w₁.log (.sessionRefused target.kind)).view ∧
      ¬act.Readied := by
  refine ⟨_, .unstarted _ _ ⟨records ++ [.sessionRefused target.kind], rfl⟩, ?_, ?_, fun h => h⟩
  · intro event hmem
    rcases List.mem_cons.1 hmem with rfl | hmem
    · trivial
    · obtain ⟨record, -, rfl⟩ := List.mem_map.1 hmem
      trivial
  · simp [hview, Act.run, Act.apply, Act.starts, Act.events, View.tell]

/-- An opening whose session is bad from its start. -/
theorem opening_of_bad {w w₁ : Worker ω ρ κ} (hw : w.ctx.Orderly) {target : Target}
    (h : HasStarted w w₁ target []) (conn : Connection ρ κ) (hnew : conn.IsNew)
    (hsession : conn.session = w.started) {reason : String} {w' : Worker ω ρ κ}
    (heq : ((w₁.log (.connectError target.kind reason)).addConn conn).2.abort
      ((w₁.log (.connectError target.kind reason)).addConn conn).1 (.handshake reason) = w')
    (ha : w'.view.slotCount ≤ 2 ^ 32) :
    ∃ act, Opening target conn.request conn.onConnect conn.membership
        (.error (.handshake reason)) act ∧
      act.Enabled w.view ∧ act.run w.view = w'.view ∧ ¬act.Readied := by
  subst heq
  have hlogged : HasStarted w (w₁.log (.connectError target.kind reason)) target
      [.logged (.connectError target.kind reason)] := h.tell (view_log w₁ _)
  rw [slotCount_abort] at ha
  have haddressable := hlogged.addressable ha
  have hrun := abort_addConn hw hlogged haddressable hsession
  exact ⟨_, .failed _ conn (.bad target.kind reason) _ rfl rfl rfl rfl,
    ⟨hnew, hsession, trivial, rfl, haddressable⟩, hrun.symm, fun hends => hends⟩

omit [Environment ω] in
theorem state?_enlist {w : Worker ω ρ κ} {id : ConnId} {conn : Connection ρ κ}
    (h : w.ctx.conn? id = some conn) (membership : Membership) :
    (w.withCtx (·.enlist id membership)).ctx.state? id = some conn.state := by
  have hsame : (w.withCtx (·.enlist id membership)).ctx.conn? id = some conn := by
    rw [← h]
    simp only [Context.conn?, withCtx, Context.conns_enlist]
  rw [Context.state?, hsame]
  rfl

omit [Environment ω] in
/-- Listing a live connection whose collection exists misses nothing. -/
theorem link_of_live {w : Worker ω ρ κ} {id : ConnId} {conn : Connection ρ κ}
    (hconn : w.ctx.conn? id = some conn) (hcollection : w.ctx.HasCollection conn.membership) :
    w.link id = w.withCtx (·.enlist id conn.membership) := by
  have hexpected : w.expectPool conn.membership = w := by
    rw [expectPool]
    cases hkey : conn.membership.pool? with
    | none => rfl
    | some key =>
        obtain ⟨pool, hpool⟩ := Context.exists_pool_of_poolConfig? (hcollection key hkey)
        simp only [hpool]
  rw [link, hconn]
  simp only [hexpected]

/-- An opening that comes to its first handshake step. -/
theorem opening_of_ready {w w₁ : Worker ω ρ κ} (hw : w.ctx.Orderly) {target : Target}
    (h : HasStarted w w₁ target [.nonblocking w.started none]) (conn : Connection ρ κ)
    (hnew : conn.IsNew) (hsession : conn.session = w.started)
    (hopen : conn.membership.CanOpen conn.request conn.onConnect)
    (hroom : w.ctx.HasRoom conn.membership) {outcome : Except PoolError ConnId}
    {w' : Worker ω ρ κ} {id : ConnId} (hid : (w₁.addConn conn).1 = id)
    (heq : (w₁.addConn conn).2.finishOpening id conn.socket = (outcome, w'))
    (ha : w'.view.slotCount ≤ 2 ^ 32) :
    ∃ act, Opening target conn.request conn.onConnect conn.membership outcome act ∧
      act.Enabled w.view ∧ act.run w.view = w'.view ∧ act.Readied := by
  obtain rfl : id = w.ctx.nextId conn := hid.symm.trans h.fst_addConn
  have hslots := slotCount_finishOpening (w₁.addConn conn).2 (w.ctx.nextId conn) conn.socket
  rw [heq] at hslots
  have haddressable := h.addressable (hslots ▸ ha)
  rw [finishOpening] at heq
  rcases hstep : (w₁.addConn conn).2.stepHandshake (w.ctx.nextId conn) with ⟨status, w₂⟩
  rw [hstep] at heq
  rcases stepHandshake_addConn hw h haddressable hnew hsession hstep with
    ⟨poll, hpoll, rfl, hlive, hpools, hrun⟩ | ⟨ending, error, hends, hreadied, herror, rfl, hrun⟩
  · have hcollection : w₂.ctx.HasCollection (conn.stepped poll).membership := by
      intro key hkey
      rw [Context.poolConfig?, hpools]
      exact hroom.hasCollection key hkey
    simp only [link_of_live hlive hcollection] at heq
    obtain ⟨rfl, rfl⟩ := Prod.mk.inj heq
    refine ⟨_, .opened _ conn poll rfl rfl rfl,
      ⟨hnew, hsession, hpoll, rfl, hopen, hroom, haddressable⟩, ?_, trivial⟩
    have hstate : (w₂.withCtx (·.enlist (w.ctx.nextId conn) conn.membership)).ctx.state?
        (w.ctx.nextId conn) = some (conn.stepped poll).state := state?_enlist hlive conn.membership
    rw [← hrun, ← hstate]
    rfl
  · obtain ⟨rfl, rfl⟩ := Prod.mk.inj heq
    exact ⟨_, .failed _ conn ending error herror rfl rfl rfl,
      ⟨hnew, hsession, hends, rfl, haddressable⟩, hrun.symm, hreadied⟩

/-- An opening is one act, which tells whether it came to a handshake step. -/
theorem establish_cases {w : Worker ω ρ κ} (hw : w.ctx.Orderly) {target : Target}
    {request : Option ρ} {onConnect : Option κ} {membership : Membership}
    (hopen : membership.CanOpen request onConnect) (hroom : w.ctx.HasRoom membership)
    {outcome : Except PoolError ConnId} {w' : Worker ω ρ κ}
    (h : w.establish target request onConnect membership = (outcome, w'))
    (ha : w'.view.slotCount ≤ 2 ^ 32) :
    ∃ act, Opening target request onConnect membership outcome act ∧ act.Enabled w.view ∧
      act.run w.view = w'.view ∧ (act.Readied ↔ w.Readies target) := by
  rw [establish] at h
  rw [Readies]
  rcases hstart : w.startSession target with ⟨session?, w₁⟩
  have hview := view_startSession w target
  rw [hstart] at h hview
  rcases hview with ⟨rfl, hview⟩ | ⟨rfl, records, hview⟩
  · -- a session was started; what follows is told after that event
    have hstarted : HasStarted w w₁ target [] := hview
    simp only at h
    rcases hhealth : w₁.sessionHealth w.started with ⟨health, w₂⟩
    have hview₂ : w₂.view = w₁.view := by
      rw [← view_sessionHealth w₁ w.started, hhealth]
    simp only [hhealth] at h ⊢
    cases health with
    | bad =>
        rcases herror : w₂.errorText w.started with ⟨reason, w₃⟩
        have hview₃ : w₃.view = w₁.view := by
          rw [← hview₂, ← view_errorText w₂ w.started, herror]
        have hstarted₃ : HasStarted w w₃ target [] := by
          rw [HasStarted, hview₃, hstarted]
        simp only [herror] at h
        obtain ⟨rfl, hend⟩ := Prod.mk.inj h
        obtain ⟨act, hopening, henabled, hrun, hnot⟩ := opening_of_bad hw hstarted₃
          { session := w.started, request, onConnect, membership } rfl rfl hend ha
        exact ⟨act, hopening, henabled, hrun, iff_of_false hnot fun hready => hready⟩
    | ok =>
        rcases hmode : w₂.setNonblocking w.started with ⟨refusal, w₃⟩
        have hview₃ := view_setNonblocking w₂ w.started
        simp only [hmode] at h hview₃ ⊢
        have hasked : HasStarted w w₃ target [.nonblocking w.started refusal] :=
          hstarted.tell (by rw [hview₃, hview₂])
        cases refusal with
        | some reason =>
            obtain ⟨rfl, rfl⟩ := Prod.mk.inj h
            refine ⟨_, .spoiled w.started reason, rfl, ?_,
              iff_of_false (fun hready => hready) (Option.some_ne_none reason)⟩
            rw [view_tearDown, view_log, hasked]
            simp [View.tell, Act.run, Act.apply, Act.starts, Act.events]
        | none =>
            rcases hsocket : w₃.sessionSocket w.started with ⟨socket, w₄⟩
            have hview₄ : w₄.view = w₃.view := by
              rw [← view_sessionSocket w₃ w.started, hsocket]
            have hlast : HasStarted w w₄ target [.nonblocking w.started none] := by
              rw [HasStarted, hview₄, hasked]
            simp only [hsocket] at h
            obtain ⟨act, hopening, henabled, hrun, hreadied⟩ := opening_of_ready hw hlast
              { session := w.started, socket, request, onConnect, membership } rfl rfl hopen hroom
              rfl h ha
            exact ⟨act, hopening, henabled, hrun, iff_of_true hreadied rfl⟩
  · obtain ⟨rfl, rfl⟩ := Prod.mk.inj h
    obtain ⟨act, hopening, henabled, hrun, hnot⟩ :=
      opening_of_refused hview _ request onConnect membership
    exact ⟨act, hopening, henabled, hrun, iff_of_false hnot fun hready => hready⟩

theorem establish_opening {w : Worker ω ρ κ} (hw : w.ctx.Orderly) {target : Target}
    {request : Option ρ} {onConnect : Option κ} {membership : Membership}
    (hopen : membership.CanOpen request onConnect) (hroom : w.ctx.HasRoom membership)
    {outcome : Except PoolError ConnId} {w' : Worker ω ρ κ}
    (h : w.establish target request onConnect membership = (outcome, w'))
    (ha : w'.view.slotCount ≤ 2 ^ 32) :
    ∃ act, Opening target request onConnect membership outcome act ∧ act.Enabled w.view ∧
      act.run w.view = w'.view := by
  obtain ⟨act, hopening, henabled, hrun, -⟩ := establish_cases hw hopen hroom h ha
  exact ⟨act, hopening, henabled, hrun⟩

end Worker
end ConnPool
