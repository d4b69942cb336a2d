/-
  ConnPool.Proofs.Worker.Leaving

  Connections that are to leave when their handshake ends.

  A disconnect that comes during a handshake for a caller stays with the
  connection.  Operations on anything else pass the connection by, and a
  readiness report either keeps it waiting or makes it leave:

      the session reads or writes on     it waits on, watched for that
      poll ok                            the disconnect callback is told
      any failure                        both callbacks are told of it

  `HandshakeEnd` lists how it can come to leave.
-/

import ConnPool.Proofs.Worker.Dismantling
import ConnPool.Proofs.Worker.Waiting

namespace ConnPool

variable {ω ρ κ : Type}

/-- A connection in its handshake for a caller who wants it to end. -/
structure Connection.Leaving (conn : Connection ρ κ) : Prop where
  connecting : conn.state = .connecting
  pending : conn.disconnectPending = true
  not_free : conn.membership.isFree = false
  registered : conn.registered = true

namespace Connection

variable {conn : Connection ρ κ}

theorem leaving_awaiting (hstate : conn.state = .connecting)
    (hfree : conn.membership.isFree = false) (hwatched : conn.Watched) (onDisconnect : Option κ) :
    (conn.awaiting onDisconnect).Leaving where
  connecting := hstate
  pending := rfl
  not_free := hfree
  registered := hwatched.registered

theorem Leaving.polled (h : conn.Leaving) (lastPoll : Option PollReport) :
    { conn with lastPoll }.Leaving where
  connecting := h.connecting
  pending := h.pending
  not_free := h.not_free
  registered := h.registered

/-- A step that does not end the handshake changes the latest report only. -/
theorem Leaving.stepped_eq (h : conn.Leaving) {poll : PollReport} (hpoll : poll ≠ .ok) :
    conn.stepped poll = { conn with lastPoll := some poll } := by
  rw [stepped, if_neg hpoll, if_neg hpoll, ← h.connecting, ← h.registered]

theorem not_free_of_isFree (h : conn.membership.isFree = false) (key : PoolKey) :
    conn.membership ≠ .free key := by
  intro hfree
  rw [hfree] at h
  cases h

end Connection

/-! ## Passing by -/

/-- Whether an act is one of those that an operation on the connection under
    `id` can consist of.  What a pool does with its idle connections is not. -/
def Act.Handles (id : ConnId) : Act ρ κ → Prop
  | stepped i .. | takenBack i .. | adopted i .. | tagged i .. | deferred i .. => i = id
  | finished _ _ (.shrunk ..) => False
  | finished i _ _ => i = id
  | noted _ | asked .. | poolCreated .. | opened .. | openFailed .. | openSpoiled .. | lent ..
  | poolsDropped => False

section

variable {v v' : View ρ κ} {id : ConnId} {conn : Connection ρ κ}

/-- A connection that is not idle is passed by, unless it is handled. -/
theorem Act.not_concerns {act : Act ρ κ} (enabled : act.Enabled v) (hw : v.ctx.Orderly)
    (hconn : v.ctx.conn? id = some conn) (hfree : conn.membership.isFree = false)
    (hhandles : ¬act.Handles id) :
    act.change.map Prod.fst ≠ some id ∧ act.addressee? ≠ some id := by
  -- what is changed or told is another connection, since this one is not idle
  have hnot : ∀ {i : ConnId} {c : Connection ρ κ} {key : PoolKey}, v.ctx.conn? i = some c →
      c.membership = .free key → i ≠ id := by
    rintro i c key hc hmembership rfl
    rw [hconn] at hc
    obtain rfl := Option.some.inj hc
    exact Connection.not_free_of_isFree hfree key hmembership
  have hne : ∀ {i : ConnId}, i ≠ id → some i ≠ some id := fun h heq => h (Option.some.inj heq)
  have hnone : none ≠ some id := (Option.some_ne_none id).symm
  cases act with
  | noted _ | asked _ _ _ | poolCreated _ _ | openSpoiled _ _ _ | poolsDropped =>
      exact ⟨hnone, hnone⟩
  | opened i target c poll =>
      have hi : i ≠ id := fun h =>
        not_opens_of_live enabled hw (Option.isSome_of_eq_some hconn) h
      exact ⟨hne hi, hne hi⟩
  | openFailed i target c ending =>
      obtain ⟨-, -, -, rfl, ha⟩ := enabled
      refine ⟨hnone, hne ?_⟩
      rintro rfl
      rw [Context.conn?_nextId hw.arena ha] at hconn
      cases hconn
  | lent i c key request onConnect load =>
      have hi := hnot enabled.1 enabled.2
      exact ⟨hne hi, hne hi⟩
  | stepped i c poll => exact ⟨hne hhandles, hne hhandles⟩
  | takenBack i c _ _ | adopted i c _ _ | tagged i c _ | deferred i c _ =>
      exact ⟨hne hhandles, hnone⟩
  | finished i c ending =>
      have hi : i ≠ id := by
        cases ending with
        | shrunk key load => exact hnot enabled.1 enabled.2
        | bad _ _ | pollFailed _ | refused _ _ | abandoned _ _ | deferred | disconnected _
        | lost _ _ | dismissed _ | shutDown => exact hhandles
      exact ⟨hne hi, hne hi⟩

/-- Along acts that do not handle it, a connection that is not idle stays as it
    is, and its callbacks are not called. -/
theorem Path.passes {acts : List (Act ρ κ)} (h : Path v acts v') (hw : v.ctx.Orderly)
    (hconn : v.ctx.conn? id = some conn) (hfree : conn.membership.isFree = false)
    (hhandles : ∀ act ∈ acts, ¬act.Handles id) :
    v'.ctx.conn? id = some conn ∧
      ∀ event ∈ acts.flatMap Act.events, event.addressee? ≠ some id := by
  induction h with
  | nil => exact ⟨hconn, List.forall_mem_nil _⟩
  | @cons v v' act acts enabled hrest ih =>
      obtain ⟨hact, hlater⟩ := List.forall_mem_cons.1 hhandles
      obtain ⟨hchange, haddressee⟩ := Act.not_concerns enabled hw hconn hfree hact
      have hsame : (act.run v).ctx.conn? id = some conn := by
        rw [Act.conn?_run enabled hw]
        split
        · rename_i i conn? heq
          have hne : id ≠ i := by
            rintro rfl
            rw [heq] at hchange
            exact hchange rfl
          rw [if_neg hne]
          exact hconn
        · exact hconn
      obtain ⟨hend, hcalls⟩ := ih (Act.orderly_run enabled hw) hsame hlater
      refine ⟨hend, ?_⟩
      rw [List.flatMap_cons]
      refine List.forall_mem_append.2 ⟨fun event hmem hevent => ?_, hcalls⟩
      exact haddressee (Act.addressee?_of_mem enabled hmem hevent)

variable {operation : Operation ρ κ} {answer : Answer} {acts : List (Act ρ κ)}

/-- An operation that lends a direct connection in a pool's stead has just
    opened it. -/
theorem Course.not_tagged (h : Course operation answer acts) (hpath : Path v acts v')
    (hw : v.ctx.Orderly) (hlive : (v.ctx.conn? id).isSome) (c : Connection ρ κ) (key : PoolKey) :
    .tagged id c key ∉ acts := by
  intro hmem
  obtain ⟨request, onConnect, rfl, rfl⟩ := h.belongsTo _ hmem
  have hopened : ∃ target c' poll, .opened id target c' poll ∈ acts := by
    cases h with
    | acquire hacquisition =>
        cases hacquisition with
        | lent acts hidle i c' load =>
            rcases List.mem_append.1 hmem with hmem | hmem
            · exact (hidle _ hmem).elim
            · simp at hmem
        | direct acts hidle i target c' poll hopening =>
            exact ⟨target, c', poll, List.mem_append_right _ List.mem_cons_self⟩
  -- but what is opened is not there, and an acquire ends nothing
  obtain ⟨target, c', poll, hopened⟩ := hopened
  have hends := fun act hmem => (h.belongsTo act hmem).not_ends (by trivial) id
  exact hpath.not_opens_of_live hw hlive hends _ hopened (rfl : id = id)

/-- Which operations handle a connection. -/
theorem Act.BelongsTo.not_handles {act : Act ρ κ} (h : act.BelongsTo operation answer)
    (hback : ¬operation.TakesBack answer id)
    (hagain : ∀ onDisconnect, ¬operation.Disconnects answer id onDisconnect)
    (hshutdown : operation ≠ .shutdown) (hadvance : ∀ event, operation ≠ .advance id event)
    (htagged : ∀ c key, act ≠ .tagged id c key) : ¬act.Handles id := by
  cases act with
  | noted _ | asked _ _ _ | poolCreated _ _ | opened _ _ _ _ | openFailed _ _ _ _
  | openSpoiled _ _ _ | lent _ _ _ _ _ _ | poolsDropped => exact fun h => h
  | stepped i c poll =>
      rintro rfl
      obtain ⟨event, heq⟩ := h
      exact hadvance event heq
  | takenBack i c _ _ | adopted i c _ _ =>
      rintro rfl
      exact hback h
  | tagged i c key =>
      rintro rfl
      exact htagged c key rfl
  | deferred i c onDisconnect =>
      rintro rfl
      exact hagain onDisconnect h
  | finished i c ending =>
      cases ending with
      | shrunk _ _ => exact fun h => h
      | bad _ _ => exact h.elim
      | dismissed _ =>
          rintro rfl
          exact hback h
      | disconnected onDisconnect =>
          rintro rfl
          exact hagain onDisconnect h
      | shutDown => exact absurd h hshutdown
      | pollFailed _ | refused _ _ | abandoned _ _ | deferred | lost _ _ =>
          rintro rfl
          obtain ⟨event, heq⟩ := h
          exact hadvance event heq

/-- An operation on anything else passes a connection by that is not idle. -/
theorem Course.passes (h : Course operation answer acts) (hpath : Path v acts v')
    (hw : v.ctx.Orderly) (hconn : v.ctx.conn? id = some conn)
    (hfree : conn.membership.isFree = false) (hback : ¬operation.TakesBack answer id)
    (hagain : ∀ onDisconnect, ¬operation.Disconnects answer id onDisconnect)
    (hshutdown : operation ≠ .shutdown) (hadvance : ∀ event, operation ≠ .advance id event) :
    v'.ctx.conn? id = some conn ∧
      ∀ event ∈ acts.flatMap Act.events, event.addressee? ≠ some id := by
  refine hpath.passes hw hconn hfree fun act hmem => ?_
  refine (h.belongsTo act hmem).not_handles hback hagain hshutdown hadvance ?_
  rintro c key rfl
  exact h.not_tagged hpath hw (Option.isSome_of_eq_some hconn) c key hmem

end

/-! ## Leaving -/

/-- Whether an event is more than a log record. -/
def Event.isDeed : Event ρ κ → Bool
  | logged _ => false
  | startRefused _ | started .. | nonblocking .. | polled .. | tornDown _ | registered ..
  | deregistered _ | connectCalled .. | disconnectCalled .. => true

theorem Event.isDeed_of_addressee? {event : Event ρ κ} {id : ConnId}
    (h : event.addressee? = some id) : event.isDeed = true := by
  cases event with
  | logged _ => cases h
  | startRefused _ | started _ _ | nonblocking _ _ | polled _ _ | tornDown _ | registered _ _ _ _
  | deregistered _ | connectCalled _ _ _ _ | disconnectCalled _ _ _ _ => rfl

theorem filter_isDeed_of_addressee? {events : List (Event ρ κ)} {id : ConnId}
    (h : ∀ event ∈ events, event.addressee? = some id) : events.filter Event.isDeed = events :=
  List.filter_eq_self.2 fun event hmem => Event.isDeed_of_addressee? (h event hmem)

/-- How a readiness report ends the handshake of a connection that is to leave:
    with which status, and what is done before it is withdrawn. -/
inductive HandshakeEnd (id : ConnId) (conn : Connection ρ κ) :
    Readiness → Status → List (Event ρ κ) → Prop
  | succeeded {event : Readiness} (hevent : event = .readable ∨ event = .writable) :
      HandshakeEnd id conn event (.ok ()) [.polled conn.session .ok]
  | failed {event : Readiness} (hevent : event = .readable ∨ event = .writable)
      (reason : String) :
      HandshakeEnd id conn event (.error (.handshake reason)) [.polled conn.session .failed]
  | refused {event : Readiness} (hevent : event = .readable ∨ event = .writable)
      {poll : PollReport} (hpoll : poll = .reading ∨ poll = .writing) (reason : String) :
      HandshakeEnd id conn event (.error (.registration reason))
        [.polled conn.session poll, .registered conn.socket poll.interest id (some reason)]
  | abandoned {event : Readiness} (hreadable : event ≠ .readable) (hwritable : event ≠ .writable)
      (reason : String) : HandshakeEnd id conn event (.error (.handshake reason)) []

namespace Connection

/-- What the callbacks of a connection that leaves are told: of a success the
    disconnect callback only, of a failure first the connect callback. -/
def farewell (conn : Connection ρ κ) (id : ConnId) : Status → List (Event ρ κ)
  | .ok () => conn.disconnectCall id (.ok ())
  | .error error => conn.connectCall id (.error error) ++ conn.disconnectCall id (.error error)

/-- All that is done when a connection leaves, `cause` being what leads to
    it. -/
def departure (conn : Connection ρ κ) (id : ConnId) (status : Status)
    (cause : List (Event ρ κ)) : List (Event ρ κ) :=
  cause ++ .deregistered conn.socket :: (conn.farewell id status ++ [.tornDown conn.session])

variable {conn : Connection ρ κ} {id : ConnId}

theorem Leaving.filter_isDeed_failureCalls (h : conn.Leaving) (error : PoolError) :
    (conn.failureCalls id error).filter Event.isDeed = conn.farewell id (.error error) := by
  rw [filter_isDeed_of_addressee? addressee?_of_mem_failureCalls, failureCalls, if_pos h.pending]
  rfl

theorem filter_isDeed_releaseCalls :
    (conn.releaseCalls id (.ok ())).filter Event.isDeed = conn.farewell id (.ok ()) := by
  rw [releaseCalls, List.filter_cons_of_neg Bool.false_ne_true]
  exact filter_isDeed_of_addressee? addressee?_of_mem_disconnectCall

end Connection

namespace Ending

variable {ending : Ending κ} {conn : Connection ρ κ} {id : ConnId}

/-- The deeds of an ending, from those that lead to it and those that tell of
    it. -/
theorem filter_isDeed_events (hleaving : conn.Leaving) {status : Status}
    {cause : List (Event ρ κ)} (hheralds : (ending.heralds id conn).filter Event.isDeed = cause)
    (hcalls : (ending.calls id conn).filter Event.isDeed = conn.farewell id status) :
    (ending.events id conn).filter Event.isDeed = conn.departure id status cause := by
  rw [events, Connection.unwatching, if_pos hleaving.registered, List.filter_append,
    List.filter_append, List.filter_append, hheralds, hcalls, List.append_assoc, List.append_assoc]
  rfl

/-- How a handshake step makes a connection leave. -/
theorem EndsStep.handshakeEnd (h : ending.EndsStep conn) (hleaving : conn.Leaving)
    {event : Readiness} (hevent : event = .readable ∨ event = .writable) :
    ∃ cause, HandshakeEnd id conn event ending.status cause ∧
      (ending.events id conn).filter Event.isDeed = conn.departure id ending.status cause := by
  cases ending with
  | pollFailed reason =>
      exact ⟨_, .failed hevent reason, filter_isDeed_events hleaving rfl
        (hleaving.filter_isDeed_failureCalls _)⟩
  | refused poll reason =>
      have hpoll : poll = .reading ∨ poll = .writing := by
        cases poll with
        | failed => exact absurd rfl h.1
        | ok => exact absurd ⟨rfl, hleaving.pending⟩ h.2
        | reading => exact .inl rfl
        | writing => exact .inr rfl
      exact ⟨_, .refused hevent hpoll reason, filter_isDeed_events hleaving rfl
        (hleaving.filter_isDeed_failureCalls _)⟩
  | deferred =>
      exact ⟨_, .succeeded hevent, filter_isDeed_events hleaving rfl
        Connection.filter_isDeed_releaseCalls⟩
  | bad _ _ | abandoned _ _ | disconnected _ | lost _ _ | shrunk _ _ | dismissed _ | shutDown =>
      exact h.elim

end Ending

/-- What the latest poll was before does not matter. -/
theorem HandshakeEnd.polled {id : ConnId} {conn : Connection ρ κ} {lastPoll : Option PollReport}
    {event : Readiness} {status : Status} {cause : List (Event ρ κ)}
    (h : HandshakeEnd id { conn with lastPoll } event status cause) :
    HandshakeEnd id conn event status cause := by
  cases h with
  | succeeded hevent => exact .succeeded hevent
  | failed hevent reason => exact .failed hevent reason
  | refused hevent hpoll reason => exact .refused hevent hpoll reason
  | abandoned hreadable hwritable reason => exact .abandoned hreadable hwritable reason

/-- A connection is not accepted by the event loop when it leaves. -/
theorem HandshakeEnd.not_registered {id : ConnId} {conn : Connection ρ κ} {event : Readiness}
    {status : Status} {cause : List (Event ρ κ)} (h : HandshakeEnd id conn event status cause)
    (socket : Int) (interest : Interest) :
    .registered socket interest id none ∉ conn.departure id status cause := by
  have hcalls : .registered socket interest id none ∉ conn.farewell id status := by
    cases h with
    | succeeded _ | failed _ _ | refused _ _ _ | abandoned _ _ _ =>
        simp [Connection.farewell, Connection.connectCall, Connection.disconnectCall]
  cases h with
  | succeeded _ | failed _ _ | refused _ _ _ | abandoned _ _ _ =>
      simp [Connection.departure, hcalls]

/-! ## Readiness -/

/-- What a readiness report does to a connection that is to leave, and what is
    left of the connection: it waits on, or it is gone. -/
inductive Departing (id : ConnId) (conn : Connection ρ κ) (event : Readiness) :
    List (Event ρ κ) → Option (Connection ρ κ) → Prop
  | waits (poll : PollReport) (events : List (Event ρ κ))
      (hpoll : poll = .reading ∨ poll = .writing)
      (hdeeds : events.filter Event.isDeed =
        [.polled conn.session poll, .registered conn.socket poll.interest id none]) :
      Departing id conn event events (some { conn with lastPoll := some poll })
  | leaves (status : Status) (cause events : List (Event ρ κ))
      (hend : HandshakeEnd id conn event status cause)
      (hdeeds : events.filter Event.isDeed = conn.departure id status cause) :
      Departing id conn event events none

/-- While it waits on, its callbacks are not called. -/
theorem Departing.silent {id : ConnId} {conn conn' : Connection ρ κ} {event : Readiness}
    {events : List (Event ρ κ)} (h : Departing id conn event events (some conn')) :
    ∀ other ∈ events, other.addressee? ≠ some id := by
  intro other hmem haddressee
  have hfiltered := List.mem_filter.2 ⟨hmem, Event.isDeed_of_addressee? haddressee⟩
  cases h with
  | waits poll _ hpoll hdeeds =>
      rw [hdeeds] at hfiltered
      rcases List.mem_cons.1 hfiltered with rfl | hfiltered
      · cases haddressee
      · obtain rfl := List.mem_singleton.1 hfiltered
        cases haddressee

/-- What is logged afterwards does not matter. -/
theorem Departing.log {id : ConnId} {conn : Connection ρ κ} {event : Readiness}
    {events : List (Event ρ κ)} {conn? : Option (Connection ρ κ)}
    (h : Departing id conn event events conn?) (record : LogRecord) :
    Departing id conn event (events ++ [.logged record]) conn? := by
  have hsame : (events ++ [Event.logged record]).filter Event.isDeed =
      events.filter Event.isDeed := by
    rw [List.filter_append, List.filter_cons_of_neg Bool.false_ne_true]
    exact List.append_nil _
  cases h with
  | waits poll _ hpoll hdeeds => exact .waits poll _ hpoll (hsame.trans hdeeds)
  | leaves status cause _ hend hdeeds => exact .leaves status cause _ hend (hsame.trans hdeeds)

namespace Worker

variable [Environment ω] {w : Worker ω ρ κ} {id : ConnId} {conn : Connection ρ κ}

/-- A disconnect during a handshake for a caller is recorded, and nobody is
    told. -/
theorem disconnect_recorded {w' : Worker ω ρ κ} {onDisconnect : Option κ} {status : Status}
    (hconn : w.ctx.conn? id = some conn) (hstate : conn.state = .connecting)
    (hfree : conn.membership.isFree = false) (h : w.disconnect id onDisconnect = (status, w')) :
    status = .ok () ∧ w'.ctx.conn? id = some (conn.awaiting onDisconnect) ∧
      w'.trace = w.trace ++ [.logged (.disconnectDeferred id conn.state)] := by
  have hbusy : conn.state ≠ .connected ∧ ¬conn.membership.isFree := by
    rw [hstate, hfree]
    decide
  rw [disconnect, hconn] at h
  simp only [if_pos hbusy] at h
  obtain ⟨rfl, rfl⟩ := Prod.mk.inj h
  refine ⟨rfl, ?_, rfl⟩
  show ((w.ctx.modifyConn id _).modifyConn id _).conn? id = some _
  rw [Context.modifyConn_modifyConn, Context.conn?_modifyConn_of_live hconn, if_pos rfl]
  rfl

omit [Environment ω] in
theorem conn?_of_view_without {w₁ : Worker ω ρ κ} {events : List (Event ρ κ)}
    (hview : w₁.view = (w.view.withCtx (·.without id conn)).tell events) :
    w₁.ctx.conn? id = none := by
  rw [ctx_of_view hview]
  show (w.ctx.without id conn).conn? id = none
  rw [Context.conn?_without, if_pos rfl]

/-- A handshake step on a connection that is to leave. -/
theorem stepHandshake_departing (hconn : w.ctx.conn? id = some conn) (h : conn.Leaving)
    {event : Readiness} (hevent : event = .readable ∨ event = .writable) :
    ∃ events, Departing id conn event events ((w.stepHandshake id).2.ctx.conn? id) ∧
      (w.stepHandshake id).2.trace = w.trace ++ events := by
  rcases stepHandshake_cases hconn with ⟨poll, hfailed, hnot, -, hview⟩ | ⟨ending, hends, -, hview⟩
  · have hpoll : poll = .reading ∨ poll = .writing := by
      cases poll with
      | failed => exact absurd rfl hfailed
      | ok => exact absurd ⟨rfl, h.pending⟩ hnot
      | reading => exact .inl rfl
      | writing => exact .inr rfl
    have hok : poll ≠ .ok := by
      rcases hpoll with rfl | rfl
      · decide
      · decide
    refine ⟨conn.stepEvents id poll, ?_, congrArg View.trace hview⟩
    rw [conn?_of_view_modifyConn hconn hview, h.stepped_eq hok]
    refine .waits poll _ hpoll ?_
    rw [Connection.stepEvents, if_neg hok]
    rfl
  · obtain ⟨cause, hend, hdeeds⟩ := hends.handshakeEnd h hevent
    refine ⟨ending.events id conn, ?_, congrArg View.trace hview⟩
    rw [conn?_of_view_without hview]
    exact .leaves _ cause _ hend hdeeds

/-- A report that asks for a handshake step. -/
theorem reportedStep_departing (hconn : w.ctx.conn? id = some conn) (h : conn.Leaving)
    {event : Readiness} (hevent : event = .readable ∨ event = .writable) {w' : Worker ω ρ κ}
    (hw' : w' = match w.stepHandshake id with
      | (.ok (), w) => w
      | (.error e, w) => w.log (.stepEndedConnection id e)) :
    ∃ events, Departing id conn event events (w'.ctx.conn? id) ∧
      w'.trace = w.trace ++ events := by
  obtain ⟨events, hdeparting, htrace⟩ := stepHandshake_departing hconn h hevent
  rcases hstep : w.stepHandshake id with ⟨status, w₁⟩
  rw [hstep] at hw' hdeparting htrace
  cases status with
  | ok _ =>
      subst hw'
      exact ⟨events, hdeparting, htrace⟩
  | error e =>
      subst hw'
      refine ⟨_, hdeparting.log (.stepEndedConnection id e), ?_⟩
      show w₁.trace ++ _ = _
      rw [htrace, List.append_assoc]

/-- A report that gives the handshake up. -/
theorem abandoned_departing {w₁ : Worker ω ρ κ} (hconn : w.ctx.conn? id = some conn)
    (h : conn.Leaving) (hview : w₁.view = w.view) {event : Readiness}
    (hreadable : event ≠ .readable) (hwritable : event ≠ .writable) (reason : String)
    {w' : Worker ω ρ κ}
    (hw' : w' = (w₁.log (.handshakeAborted id event reason)).abort id (.handshake reason)) :
    ∃ events, Departing id conn event events (w'.ctx.conn? id) ∧
      w'.trace = w.trace ++ events := by
  have hview' := view_abandoned hconn hview event reason
  rw [← hw'] at hview'
  refine ⟨_, ?_, congrArg View.trace hview'⟩
  rw [conn?_of_view_without hview']
  exact .leaves _ [] _ (.abandoned hreadable hwritable reason)
    (Ending.filter_isDeed_events h rfl (h.filter_isDeed_failureCalls _))

/-- A connection that is to leave waits on after a readiness report, or is gone
    in one of the ways that there are. -/
theorem advance_departing (hconn : w.ctx.conn? id = some conn) (h : conn.Leaving)
    (event : Readiness) :
    ∃ events, Departing id conn event events ((w.advance id event).2.ctx.conn? id) ∧
      (w.advance id event).2.trace = w.trace ++ events := by
  simp only [advance, hconn, h.connecting]
  cases event with
  | readable => exact reportedStep_departing hconn h (.inl rfl) rfl
  | writable => exact reportedStep_departing hconn h (.inr rfl) rfl
  | error =>
      exact abandoned_departing hconn h (view_abortReason w conn.session .error) (by decide)
        (by decide) _ rfl
  | closed =>
      exact abandoned_departing hconn h (view_abortReason w conn.session .closed) (by decide)
        (by decide) _ rfl
  | timeout =>
      exact abandoned_departing hconn h (view_abortReason w conn.session .timeout) (by decide)
        (by decide) _ rfl

end Worker
end ConnPool
