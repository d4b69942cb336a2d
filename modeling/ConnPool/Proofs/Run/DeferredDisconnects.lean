/-
  ConnPool.Proofs.Run.DeferredDisconnects

  Disconnects that come during a handshake.

  The connection waits, where it is listed and with its callbacks uncalled, for
  as long as its session reads and writes on.  The first report that is
  anything else releases it: once connected it tells its disconnect callback,
  and after a failure both of its callbacks, each once and with one status.
  What operations on other connections do in between makes no difference.
-/

import ConnPool.Proofs.Run.ConnectCallbacks
import ConnPool.Proofs.Run.DisconnectCallbacks
import ConnPool.Proofs.Run.Sessions
import ConnPool.Proofs.Worker.Leaving

namespace ConnPool

variable {ω ρ κ : Type} [Environment ω]

namespace Step

/-- Whether a step disconnects the connection under `id` during a handshake for
    a caller, `conn` being its record. -/
structure Interrupts (step : Step ω ρ κ) (id : ConnId) (conn : Connection ρ κ)
    (onDisconnect : Option κ) : Prop where
  operation : step.operation = .disconnect id onDisconnect
  live : step.before.ctx.conn? id = some conn
  connecting : conn.state = .connecting
  not_free : conn.membership.isFree = false

/-- Whether in a step the session of the connection under `id` is polled, wants
    to read or write on, and has its socket accepted for that. -/
def WaitsOn (step : Step ω ρ κ) (id : ConnId) : Prop :=
  ∃ conn poll, step.before.ctx.conn? id = some conn ∧ (poll = .reading ∨ poll = .writing) ∧
    .polled conn.session poll ∈ step.events ∧
    .registered conn.socket poll.interest id none ∈ step.events

/-- Whether a step lets the connection under `id` wait to be released: it does
    not take it back, disconnect it once more or end the whole context, and a
    report on it finds that it has to wait on. -/
structure LetsWait (step : Step ω ρ κ) (id : ConnId) : Prop where
  not_superseded : ¬step.Supersedes id
  not_shutdown : step.operation ≠ .shutdown
  waitsOn : ∀ event, step.operation = .advance id event → step.WaitsOn id

/-- Whether a report releases `conn` under `id`, whose handshake ends with
    `status`. -/
structure Departs (step : Step ω ρ κ) (id : ConnId) (conn : Connection ρ κ) (event : Readiness)
    (status : Status) : Prop where
  gone : step.after.ctx.conn? id = none
  /-- Apart from what is logged, what leads to the end, the socket given back,
      the callbacks, and the session torn down. -/
  deeds : ∃ cause, HandshakeEnd id conn event status cause ∧
    step.events.filter Event.isDeed = conn.departure id status cause

end Step

/-- A connection that still waits to be released after some steps of a run.
    Its record is `conn` but for the latest poll. -/
structure StillWaits (steps : List (Step ω ρ κ)) (w : Worker ω ρ κ) (id : ConnId)
    (conn : Connection ρ κ) : Prop where
  live : ∃ lastPoll, w.ctx.conn? id = some { conn with lastPoll }
  listed : id ∈ w.ctx.collection conn.membership
  silent : ∀ step ∈ steps, ∀ event ∈ step.events, event.addressee? ≠ some id

/-- How often the callbacks of a connection were called, if they were handed
    over once. -/
structure CallsOf [DecidableEq κ] (history : List (Step ω ρ κ)) (w : Worker ω ρ κ)
    (conn : Connection ρ κ) (connects disconnects : Nat) : Prop where
  connect : ∀ callback, conn.onConnect = some callback →
    handedIn .connect callback history = 1 → w.connectCalls callback = connects
  disconnect : ∀ callback, conn.onDisconnect = some callback →
    handedIn .disconnect callback history = 1 → w.disconnectCalls callback = disconnects

/-! ## Waiting -/

namespace Step

variable {step : Step ω ρ κ} {id : ConnId} {conn : Connection ρ κ}

/-- A report makes a connection that is to leave wait on, or releases it. -/
theorem departing (hconn : step.before.ctx.conn? id = some conn) (h : conn.Leaving)
    {event : Readiness} (hoperation : step.operation = .advance id event) :
    Departing id conn event step.events (step.after.ctx.conn? id) := by
  obtain ⟨w, operation⟩ := step
  obtain rfl : operation = .advance id event := hoperation
  obtain ⟨events, hdeparting, htrace⟩ := Worker.advance_departing hconn h event
  have hevents : (Step.mk w (.advance id event)).events = events := events_of_trace htrace
  rw [hevents]
  exact hdeparting

/-- A connection that is to leave is not accepted by the event loop in the step
    in which it leaves. -/
theorem WaitsOn.live (h : step.WaitsOn id) {event : Readiness} {conn? : Option (Connection ρ κ)}
    (hdeparting : Departing id conn event step.events conn?) : conn?.isSome := by
  obtain ⟨conn', poll, -, -, -, haccepted⟩ := h
  cases hdeparting with
  | waits _ _ _ _ => rfl
  | leaves status cause _ hend hdeeds =>
      have hmem : .registered conn'.socket poll.interest id none ∈
          step.events.filter Event.isDeed := List.mem_filter.2 ⟨haccepted, rfl⟩
      rw [hdeeds] at hmem
      exact absurd hmem (hend.not_registered _ _)

/-- Through a step that lets it wait, a connection that is to leave stays, with
    its callbacks uncalled. -/
theorem LetsWait.stays (h : step.LetsWait id) (hw : step.before.ctx.Orderly)
    (hconn : step.before.ctx.conn? id = some conn) (hleaving : conn.Leaving)
    (hslots : step.after.ctx.conns.slots.length ≤ 2 ^ 32) :
    (∃ lastPoll, step.after.ctx.conn? id = some { conn with lastPoll }) ∧
      ∀ event ∈ step.events, event.addressee? ≠ some id := by
  by_cases hadvance : ∃ event, step.operation = .advance id event
  · obtain ⟨event, hoperation⟩ := hadvance
    have hdeparting := departing hconn hleaving hoperation
    obtain ⟨conn', hlive⟩ := Option.isSome_iff_exists.1
      ((h.waitsOn event hoperation).live hdeparting)
    rw [hlive] at hdeparting ⊢
    refine ⟨?_, hdeparting.silent⟩
    cases hdeparting with
    | waits poll _ hpoll hdeeds => exact ⟨some poll, rfl⟩
  · -- an operation on anything else leaves even the latest poll as it is
    obtain ⟨acts, hcourse, hpath⟩ :=
      Worker.perform_course hw (rfl : step.before.perform step.operation = (_, _)) hslots
    rw [events_eq hpath]
    have hpasses := hcourse.passes hpath hw hconn hleaving.not_free
      (fun hback => h.not_superseded (.inl hback))
      (fun onDisconnect hagain => h.not_superseded (.inr ⟨onDisconnect, hagain⟩))
      h.not_shutdown (fun event hevent => hadvance ⟨event, hevent⟩)
    exact ⟨⟨conn.lastPoll, hpasses.1⟩, hpasses.2⟩

/-- A disconnect during a handshake for a caller is recorded. -/
theorem Interrupts.recorded {onDisconnect : Option κ} (h : step.Interrupts id conn onDisconnect) :
    step.answer = .status (.ok ()) ∧
      step.after.ctx.conn? id = some (conn.awaiting onDisconnect) ∧
      ∀ event ∈ step.events, event.addressee? ≠ some id := by
  obtain ⟨hoperation, hconn, hstate, hfree⟩ := h
  obtain ⟨w, operation⟩ := step
  obtain rfl : operation = .disconnect id onDisconnect := hoperation
  obtain ⟨hstatus, hlive, htrace⟩ := Worker.disconnect_recorded hconn hstate hfree
    (rfl : w.disconnect id onDisconnect = (_, _))
  have hevents : (Step.mk w (.disconnect id onDisconnect)).events =
      [.logged (.disconnectDeferred id conn.state)] := events_of_trace htrace
  refine ⟨congrArg Answer.status hstatus, hlive, ?_⟩
  rw [hevents]
  refine List.forall_mem_singleton.2 fun haddressed => ?_
  cases haddressed

/-- A report on a connection that is to leave, if it does not wait on, releases
    it. -/
theorem departs {lastPoll : Option PollReport} (hleaving : conn.Leaving)
    (hconn : step.before.ctx.conn? id = some { conn with lastPoll }) {event : Readiness}
    (hoperation : step.operation = .advance id event) (hnot : ¬step.WaitsOn id) :
    ∃ status, step.Departs id conn event status := by
  have hdeparting := departing hconn (hleaving.polled lastPoll) hoperation
  generalize hafter : step.after.ctx.conn? id = conn? at hdeparting
  cases hdeparting with
  | waits poll _ hpoll hdeeds =>
      -- what is done is told by the events, so it would wait on
      have hdone : ∀ event ∈ step.events.filter Event.isDeed, event ∈ step.events :=
        fun event hmem => (List.mem_filter.1 hmem).1
      rw [hdeeds] at hdone
      refine absurd ⟨_, poll, hconn, hpoll, ?_, ?_⟩ hnot
      · exact hdone _ List.mem_cons_self
      · exact hdone _ (List.mem_cons_of_mem _ List.mem_cons_self)
  | leaves status cause _ hend hdeeds =>
      exact ⟨status, hafter, cause, hend.polled, hdeeds⟩

end Step

namespace Worker

variable {w : Worker ω ρ κ} {id : ConnId} {conn : Connection ρ κ}

/-- Along steps that let it wait, a connection that is to leave stays. -/
theorem stays_of_letsWait {rest : List (Operation ρ κ)} (hw : w.ctx.Orderly)
    (hconn : w.ctx.conn? id = some conn) (hleaving : conn.Leaving)
    (ha : (w.afterAll rest).ctx.conns.slots.length ≤ 2 ^ 32)
    (hrest : ∀ step ∈ w.steps rest, step.LetsWait id) :
    (∃ lastPoll, (w.afterAll rest).ctx.conn? id = some { conn with lastPoll }) ∧
      ∀ step ∈ w.steps rest, ∀ event ∈ step.events, event.addressee? ≠ some id := by
  -- over the run: each step may change the latest poll
  induction rest generalizing w conn with
  | nil => exact ⟨⟨conn.lastPoll, hconn⟩, List.forall_mem_nil _⟩
  | cons operation rest ih =>
      obtain ⟨hfirst, hlater⟩ := List.forall_mem_cons.1 hrest
      have hslots : (Step.mk w operation).after.ctx.conns.slots.length ≤ 2 ^ 32 :=
        Nat.le_trans (slotCount_le_afterAll _ rest) ha
      obtain ⟨⟨lastPoll, hnext⟩, hsilent⟩ := hfirst.stays hw hconn hleaving hslots
      obtain ⟨acts, -, hpath⟩ := perform_course hw (rfl : w.perform operation = (_, _)) hslots
      obtain ⟨hend, hrest⟩ := ih (hpath.orderly hw) hnext (hleaving.polled lastPoll) ha hlater
      exact ⟨hend, List.forall_mem_cons.2 ⟨hsilent, hrest⟩⟩

end Worker

/-! ## Leaving -/

namespace Step.Departs

variable {step : Step ω ρ κ} {id : ConnId} {conn : Connection ρ κ} {event : Readiness}
  {status : Status} {callback : κ}

theorem mem_events (h : step.Departs id conn event status) {other : Event ρ κ}
    (hmem : other ∈ conn.farewell id status) : other ∈ step.events := by
  obtain ⟨cause, -, hdeeds⟩ := h.deeds
  have hdeparture : other ∈ conn.departure id status cause := by
    rw [Connection.departure, List.mem_append, List.mem_cons, List.mem_append]
    exact .inr (.inr (.inl hmem))
  rw [← hdeeds] at hdeparture
  exact (List.mem_filter.1 hdeparture).1

/-- The disconnect callback is called, whatever the status. -/
theorem disconnectCalled (h : step.Departs id conn event status)
    (hkeeps : conn.onDisconnect = some callback) :
    .disconnectCalled callback id status conn.request ∈ step.events := by
  refine h.mem_events ?_
  cases status with
  | ok _ => simp [Connection.farewell, Connection.disconnectCall, hkeeps]
  | error error => simp [Connection.farewell, Connection.disconnectCall, hkeeps]

/-- The connect callback is called after a failure. -/
theorem connectCalled {error : PoolError} (h : step.Departs id conn event (.error error))
    (hkeeps : conn.onConnect = some callback) :
    .connectCalled callback id (.error error) conn.request ∈ step.events := by
  refine h.mem_events ?_
  simp [Connection.farewell, Connection.connectCall, hkeeps]

/-- The connect callback is discarded after a success. -/
theorem discards (h : step.Departs id conn event (.ok ())) (hleaving : conn.Leaving)
    {lastPoll : Option PollReport}
    (hconn : step.before.ctx.conn? id = some { conn with lastPoll })
    (hoperation : step.operation = .advance id event) (hkeeps : conn.onConnect = some callback) :
    step.Discards .connect callback := by
  have hpolled : .polled conn.session .ok ∈ step.events := by
    obtain ⟨cause, hend, hdeeds⟩ := h.deeds
    cases hend with
    | succeeded hevent =>
        have hmem : .polled conn.session .ok ∈ step.events.filter Event.isDeed := by
          rw [hdeeds]
          exact List.mem_cons_self
        exact (List.mem_filter.1 hmem).1
  refine .inr ⟨id, _, hconn, hleaving.connecting, hkeeps, ?_⟩
  rw [hoperation]
  exact .overtaken event step.answer hleaving.pending hpolled

end Step.Departs

/-- While a connection waits, its callbacks have not been called. -/
theorem CallbackLedger.callsOf_of_live [DecidableEq κ] {history : List (Step ω ρ κ)}
    {w : Worker ω ρ κ} (h : CallbackLedger history w) (ha : w.ctx.conns.Addressable) {id : ConnId}
    {conn : Connection ρ κ} {lastPoll : Option PollReport}
    (hconn : w.ctx.conn? id = some { conn with lastPoll }) : CallsOf history w conn 0 0 where
  connect _ hkeeps honce := h.calls_of_kept ha honce hconn hkeeps
  disconnect _ hkeeps honce := h.calls_of_kept ha honce hconn hkeeps

namespace Worker

section

variable {configs : Registry} {env : ω} {operations : List (Operation ρ κ)} {id : ConnId}
  {conn : Connection ρ κ}

/-- A connection that was disconnected during its handshake waits through all
    steps that let it wait. -/
theorem stillWaits_of_interrupts {earlier later : List (Step ω ρ κ)} {step : Step ω ρ κ}
    {onDisconnect : Option κ}
    (ha : ((fresh configs env).afterAll operations).ctx.conns.slots.length ≤ 2 ^ 32)
    (hsplit : (fresh configs env).steps operations = earlier ++ step :: later)
    (h : step.Interrupts id conn onDisconnect) (hlater : ∀ other ∈ later, other.LetsWait id) :
    (conn.awaiting onDisconnect).Leaving ∧
      StillWaits (step :: later) ((fresh configs env).afterAll operations) id
        (conn.awaiting onDisconnect) := by
  have hwatched := (resourceLedger_of_split ha hsplit).watched id conn h.live
  have hleaving := Connection.leaving_awaiting h.connecting h.not_free hwatched onDisconnect
  obtain ⟨hw, acts, -, hpath⟩ := course_of_split (Context.Orderly.fresh configs) ha hsplit
  obtain ⟨-, hlive, hsilent⟩ := h.recorded
  -- recorded, it stays through the rest of the run
  obtain ⟨first, rest, hoperations, -, hbefore, rfl⟩ := steps_split hsplit
  have hend := afterAll_of_split hoperations hbefore
  have hslots := ha
  rw [hend] at hslots
  obtain ⟨hstays, hrest⟩ := stays_of_letsWait (hpath.orderly hw) hlive hleaving hslots hlater
  rw [← hend] at hstays
  refine ⟨hleaving, hstays, ?_, List.forall_mem_cons.2 ⟨hsilent, hrest⟩⟩
  obtain ⟨lastPoll, hconn⟩ := hstays
  have hlisted := (resourceLedger_of_run configs env operations ha).1.mem_of_conn? hconn
  exact hlisted

/-- Once it is released, the callbacks of a connection have been called as its
    status says, for the rest of the run. -/
theorem callsOf_of_departs [DecidableEq κ] {lastPoll : Option PollReport} {event : Readiness}
    {status : Status} (hleaving : conn.Leaving)
    (hconn : ((fresh configs env).afterAll operations).ctx.conn? id = some { conn with lastPoll })
    (h : (Step.mk ((fresh configs env).afterAll operations) (.advance id event)).Departs id conn
      event status) (last : List (Operation ρ κ))
    (ha : ((fresh configs env).afterAll
      (operations ++ .advance id event :: last)).ctx.conns.slots.length ≤ 2 ^ 32) :
    CallsOf ((fresh configs env).steps (operations ++ .advance id event :: last))
      ((fresh configs env).afterAll (operations ++ .advance id event :: last)) conn
      (if status.isOk then 0 else 1) 1 := by
  obtain ⟨-, hledger⟩ :=
    callbackLedger_of_run configs env (operations ++ .advance id event :: last) ha
  have hmem : Step.mk ((fresh configs env).afterAll operations) (.advance id event) ∈
      (fresh configs env).steps (operations ++ .advance id event :: last) := by
    rw [steps_append]
    exact List.mem_append_right _ List.mem_cons_self
  have hdone := mem_trace_of_mem_events (Context.Orderly.fresh configs) ha _ hmem
  constructor
  case disconnect =>
    intro callback hkeeps honce
    have hcalled := hdone _ (h.disconnectCalled hkeeps)
    exact hledger.calls_of_called honce hcalled (by simp [Event.calls])
  case connect =>
    intro callback hkeeps honce
    cases status with
    | ok _ =>
        exact hledger.calls_of_discarded honce hmem (h.discards hleaving hconn rfl hkeeps)
    | error error =>
        have hcalled := hdone _ (h.connectCalled hkeeps)
        exact hledger.calls_of_called honce hcalled (by simp [Event.calls])

end

/-- A disconnect that comes during a handshake for a caller is answered, and the
    connection waits through all steps that let it wait.  The first report that
    finds that it need not wait on releases it; then its disconnect callback has
    been called once, and its connect callback once or never, for the rest of
    the run. -/
theorem deferredDisconnect_of_run [DecidableEq κ] (configs : Registry) (env : ω)
    (operations : List (Operation ρ κ))
    (ha : ((fresh configs env).afterAll operations).ctx.conns.slots.length ≤ 2 ^ 32)
    {earlier later : List (Step ω ρ κ)} {step : Step ω ρ κ} {id : ConnId} {conn : Connection ρ κ}
    {onDisconnect : Option κ}
    (hsplit : (fresh configs env).steps operations = earlier ++ step :: later)
    (h : step.Interrupts id conn onDisconnect) (hlater : ∀ other ∈ later, other.LetsWait id) :
    step.answer = .status (.ok ()) ∧
      StillWaits (step :: later) ((fresh configs env).afterAll operations) id
        (conn.awaiting onDisconnect) ∧
      CallsOf ((fresh configs env).steps operations) ((fresh configs env).afterAll operations)
        (conn.awaiting onDisconnect) 0 0 ∧
      ∀ event, ¬(Step.mk ((fresh configs env).afterAll operations) (.advance id event)).WaitsOn id →
        ∃ status, (Step.mk ((fresh configs env).afterAll operations) (.advance id event)).Departs id
            (conn.awaiting onDisconnect) event status ∧
          ∀ last : List (Operation ρ κ), ((fresh configs env).afterAll
              (operations ++ .advance id event :: last)).ctx.conns.slots.length ≤ 2 ^ 32 →
            CallsOf ((fresh configs env).steps (operations ++ .advance id event :: last))
              ((fresh configs env).afterAll (operations ++ .advance id event :: last))
              (conn.awaiting onDisconnect) (if status.isOk then 0 else 1) 1 := by
  obtain ⟨-, hledger⟩ := callbackLedger_of_run configs env operations ha
  obtain ⟨hleaving, hwaits⟩ := stillWaits_of_interrupts ha hsplit h hlater
  obtain ⟨lastPoll, hconn⟩ := hwaits.live
  refine ⟨h.recorded.1, hwaits, hledger.callsOf_of_live ha hconn, fun event hnot => ?_⟩
  obtain ⟨status, hdeparts⟩ := Step.departs hleaving hconn rfl hnot
  exact ⟨status, hdeparts, callsOf_of_departs hleaving hconn hdeparts⟩

/-- A client whose first session takes three polls to connect. -/
def patientStage : Scripted.Stage :=
  { scripts := [{ polls := [(.reading, none), (.writing, none)] }] }

/-- A connection is disconnected after its first poll and polled once more,
    while another one is opened. -/
def patientRun : List (Operation String String) :=
  [.connectUri none (some "up") "u", .disconnect ⟨0, 0⟩ (some "down"),
    .connectUri none none "u", .advance ⟨0, 0⟩ .readable]

/-- The connection of `patientRun` that is disconnected. -/
def patientConn : Connection String String :=
  { session := 0, socket := 10, state := .connecting, lastPoll := some .reading,
    onConnect := some "up", membership := .registry, registered := true }

/-- The disconnect of `patientRun`. -/
def patientStep : Step Scripted.Stage String String :=
  ⟨(fresh .empty patientStage).afterAll (patientRun.take 1), .disconnect ⟨0, 0⟩ (some "down")⟩

theorem letsWait_patientRun :
    ∀ step ∈ ((fresh .empty patientStage).steps patientRun).drop 2, step.LetsWait ⟨0, 0⟩ := by
  refine List.forall_mem_cons.2 ⟨?_, List.forall_mem_singleton.2 ?_⟩
  · constructor
    case not_superseded =>
      rintro (⟨hback, -⟩ | ⟨_, hagain, -⟩)
      · cases hback
      · cases hagain
    case not_shutdown =>
      intro hshutdown
      cases hshutdown
    case waitsOn =>
      intro event hadvance
      cases hadvance
  · constructor
    case not_superseded =>
      rintro (⟨hback, -⟩ | ⟨_, hagain, -⟩)
      · cases hback
      · cases hagain
    case not_shutdown =>
      intro hshutdown
      cases hshutdown
    case waitsOn =>
      intro event _
      -- the poll is the first thing done, and the registration the third
      refine ⟨patientConn.awaiting (some "down"), .writing, rfl, .inr rfl, ?_, ?_⟩
      · exact List.mem_of_getElem? (i := 0) rfl
      · exact List.mem_of_getElem? (i := 2) rfl

/-- The third poll completes the handshake. -/
theorem not_waitsOn_patientRun : ¬(Step.mk ((fresh .empty patientStage).afterAll patientRun)
    (.advance ⟨0, 0⟩ .writable)).WaitsOn ⟨0, 0⟩ := by
  rintro ⟨conn, poll, -, hpoll, hpolled, -⟩
  have hevents : (Step.mk ((fresh .empty patientStage).afterAll patientRun)
      (.advance ⟨0, 0⟩ .writable)).events =
      [.polled 0 .ok, .logged (.handshakeStep ⟨0, 0⟩ .ok true), .logged (.deferredRelease ⟨0, 0⟩),
        .deregistered 10, .logged (.released ⟨0, 0⟩ 10 true),
        .disconnectCalled "down" ⟨0, 0⟩ (.ok ()) none, .tornDown 0] := by
    rfl
  have hok : conn.session = 0 ∧ poll = .ok := by
    simpa [hevents] using hpolled
  rcases hpoll with rfl | rfl
  · cases hok.2
  · cases hok.2

theorem deferredDisconnect_of_patientRun :
    ((fresh .empty patientStage).afterAll patientRun).ctx.conns.slots.length ≤ 2 ^ 32 ∧
      patientStep.Interrupts ⟨0, 0⟩ patientConn (some "down") ∧
      (∀ step ∈ ((fresh .empty patientStage).steps patientRun).drop 2, step.LetsWait ⟨0, 0⟩) ∧
      patientStep.answer = .status (.ok ()) ∧
      StillWaits (patientStep :: ((fresh .empty patientStage).steps patientRun).drop 2)
        ((fresh .empty patientStage).afterAll patientRun) ⟨0, 0⟩
        (patientConn.awaiting (some "down")) ∧
      CallsOf ((fresh .empty patientStage).steps patientRun)
        ((fresh .empty patientStage).afterAll patientRun) (patientConn.awaiting (some "down")) 0 0 ∧
      ∃ status, (Step.mk ((fresh .empty patientStage).afterAll patientRun)
        (.advance ⟨0, 0⟩ .writable)).Departs ⟨0, 0⟩ (patientConn.awaiting (some "down")) .writable
          status := by
  have ha : ((fresh .empty patientStage).afterAll patientRun).ctx.conns.slots.length ≤ 2 ^ 32 := by
    decide +kernel
  have h : patientStep.Interrupts ⟨0, 0⟩ patientConn (some "down") := by
    constructor
    case operation => rfl
    case live => rfl
    case connecting => rfl
    case not_free => rfl
  have hsplit : (fresh .empty patientStage).steps patientRun =
      ((fresh .empty patientStage).steps patientRun).take 1 ++ patientStep ::
        ((fresh .empty patientStage).steps patientRun).drop 2 := rfl
  obtain ⟨hanswer, hwaits, hcalls, hleaves⟩ :=
    deferredDisconnect_of_run .empty patientStage patientRun ha hsplit h letsWait_patientRun
  obtain ⟨status, hdeparts, -⟩ := hleaves .writable not_waitsOn_patientRun
  exact ⟨ha, h, letsWait_patientRun, hanswer, hwaits, hcalls, status, hdeparts⟩

end Worker
end ConnPool
