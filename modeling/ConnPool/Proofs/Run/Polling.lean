/-
  ConnPool.Proofs.Run.Polling

  How handshakes are driven along runs.

  As long as the host does not call on sessions itself, a session is polled
  once when it is started and once for each report that its connecting
  connection is ready; and each poll is followed by the one registration that
  it calls for, if it calls for any.
-/

import ConnPool.Proofs.Run.DeferredDisconnects
import ConnPool.Proofs.Worker.Reporting

namespace ConnPool

variable {ω ρ κ : Type} [Environment ω]

/-- Whether an operation is a call of the host on a session. -/
def Operation.CallsSession : Operation ρ κ → Prop
  | session .. => True
  | connect .. | connectUri .. | acquire .. | spawn .. | reclaim _ | disconnect .. | advance ..
  | shutdown => False

/-- Whether a step is to poll a session: it starts the session and makes its
    socket non-blocking, or it is a report that the session can go on while its
    connection is connecting. -/
def Step.Polls (step : Step ω ρ κ) (session : SessionNo) : Prop :=
  (∃ target, .started session target ∈ step.events ∧
    .nonblocking session none ∈ step.events) ∨
  ∃ id event conn, step.operation = .advance id event ∧ event.Drives ∧
    step.before.ctx.conn? id = some conn ∧ conn.state = .connecting ∧ conn.session = session

/-- Whether a step drives handshakes as they should be driven. -/
structure Step.Drives (step : Step ω ρ κ) : Prop where
  /-- No session is polled twice. -/
  nodup : ((pollings step.events).map Polling.session).Nodup
  polled_iff : ∀ session, session ∈ (pollings step.events).map Polling.session ↔
    step.Polls session
  /-- Nothing is asked for before the first poll. -/
  leading : leadingAttempts step.events = []
  settled : ∀ polling ∈ pollings step.events, polling.Settled step.before.ctx step.after.ctx

omit [Environment ω] in
theorem Course.not_asks {operation : Operation ρ κ} {answer : Answer} {acts : List (Act ρ κ)}
    (h : Course operation answer acts) (hcalls : ¬operation.CallsSession) :
    ∀ act ∈ acts, ¬act.Asks := by
  intro act hmem hasks
  cases act with
  | asked id conn events =>
      obtain ⟨call, rfl⟩ := h.belongsTo _ hmem
      exact hcalls trivial
  | noted _ | poolCreated _ _ | opened _ _ _ _ | openFailed _ _ _ _ | openSpoiled _ _ _
  | stepped _ _ _ | lent _ _ _ _ _ _ | takenBack _ _ _ _ | adopted _ _ _ _ | tagged _ _ _
  | deferred _ _ _ | finished _ _ _ | poolsDropped => exact hasks

namespace Step

variable {step : Step ω ρ κ} {acts : List (Act ρ κ)}

/-- A step that is no readiness report polls what it starts. -/
theorem drives_of_provides (hcourse : Course step.operation step.answer acts)
    (hpath : Path step.before.view acts step.after.view) (hw : step.before.ctx.Orderly)
    (hn : step.before.view.Numbered) (hcalls : ¬step.operation.CallsSession)
    (hadvance : ∀ id event, step.operation ≠ .advance id event) : step.Drives := by
  have hasks := hcourse.not_asks hcalls
  obtain ⟨hleading, hpollings⟩ := hpath.pollings_eq hasks
  rw [← events_eq hpath] at hleading hpollings
  have hstarts : ∀ act ∈ acts, ∀ polling, act.polling? = some polling → act.starts = 1 := by
    intro act hmem polling hpolling
    rcases (hcourse.belongsTo act hmem).of_polling hpolling with ⟨-, hone⟩ | ⟨id, event, heq⟩
    · exact hone
    · exact absurd heq (hadvance id event)
  constructor
  case nodup =>
    rw [hpollings]
    exact (hpath.nodup_polled hstarts).1
  case polled_iff =>
    intro session
    rw [hpollings]
    constructor
    · intro hmem
      obtain ⟨polling, hpolled, rfl⟩ := List.mem_map.1 hmem
      obtain ⟨act, hact, hpolling⟩ := List.mem_filterMap.1 hpolled
      obtain ⟨-, -, v₁, -, -, enabled, -⟩ := hpath.of_mem hact
      have hready := (Act.nonblocking_iff enabled (hasks act hact) polling.session).2
        ⟨hstarts act hact polling hpolling, polling, hpolling, rfl⟩
      obtain ⟨target, hstarted⟩ := Act.started_of_nonblocking enabled (hasks act hact) hready
      rw [Polls, events_eq hpath]
      exact .inl ⟨target, List.mem_flatMap.2 ⟨act, hact, hstarted⟩,
        List.mem_flatMap.2 ⟨act, hact, hready⟩⟩
    · rintro (⟨target, -, hready⟩ | ⟨id, event, conn, heq, -⟩)
      · rw [events_eq hpath] at hready
        obtain ⟨act, hact, hready⟩ := List.mem_flatMap.1 hready
        obtain ⟨-, -, v₁, -, -, enabled, -⟩ := hpath.of_mem hact
        obtain ⟨-, polling, hpolling, rfl⟩ :=
          (Act.nonblocking_iff enabled (hasks act hact) session).1 hready
        exact List.mem_map.2 ⟨polling, List.mem_filterMap.2 ⟨act, hact, hpolling⟩, rfl⟩
      · exact absurd heq (hadvance id event)
  case leading => exact hleading
  case settled =>
    intro polling hmem
    rw [hpollings] at hmem
    obtain ⟨act, hact, hpolling⟩ := List.mem_filterMap.1 hmem
    exact hpath.settled_of_starts hw hn hact hpolling (hstarts act hact polling hpolling)

/-- A report starts no session. -/
theorem not_nonblocking_of_advance {id : ConnId} {event : Readiness}
    (hadvance : step.operation = .advance id event)
    (hcourse : Course step.operation step.answer acts)
    (hpath : Path step.before.view acts step.after.view) (session : SessionNo) :
    .nonblocking session none ∉ step.events := by
  rw [hadvance] at hcourse
  intro hmem
  have hasks := hcourse.not_asks (fun hcalls => hcalls)
  rw [events_eq hpath] at hmem
  obtain ⟨act, hact, hready⟩ := List.mem_flatMap.1 hmem
  obtain ⟨-, -, v₁, -, -, enabled, -⟩ := hpath.of_mem hact
  have hstarts := ((Act.nonblocking_iff enabled (hasks act hact) session).1 hready).1
  have hbelongs := hcourse.belongsTo act hact
  cases act with
  | opened _ _ _ _ | openFailed _ _ _ _ | openSpoiled _ _ _ => exact hbelongs
  | noted _ | asked _ _ _ | poolCreated _ _ | stepped _ _ _ | lent _ _ _ _ _ _
  | takenBack _ _ _ _ | adopted _ _ _ _ | tagged _ _ _ | deferred _ _ _ | finished _ _ _
  | poolsDropped => cases hstarts

/-- A step that is a readiness report, seen as what the report leads to. -/
theorem advance_cases {id : ConnId} {event : Readiness}
    (hadvance : step.operation = .advance id event) :
    (∃ conn, step.before.ctx.conn? id = some conn ∧ conn.state = .connecting ∧ event.Drives ∧
      ∃ acts, Stepping id conn acts ∧ Course step.operation step.answer acts ∧
        Path step.before.view acts step.after.view) ∨
    ((∀ conn, step.before.ctx.conn? id = some conn → conn.state = .connecting → ¬event.Drives) ∧
      ∃ acts, Resting id acts ∧ Course step.operation step.answer acts ∧
        Path step.before.view acts step.after.view) := by
  obtain ⟨w, operation⟩ := step
  obtain rfl : operation = .advance id event := hadvance
  rw [Step.answer, Step.after, Worker.perform]
  rcases hcases : w.advance id event with ⟨state, w'⟩
  rcases Worker.advance_cases hcases with
    ⟨conn, hconn, hstate, hdrives, acts, hstepping, hpath⟩ | ⟨hrests, acts, hresting, hpath⟩
  · exact .inl ⟨conn, hconn, hstate, hdrives, acts, hstepping,
      .advance event state hstepping.advancing, hpath⟩
  · exact .inr ⟨hrests, acts, hresting, .advance event state hresting.advancing, hpath⟩

/-- A report polls the session of the connection that it is about, if that is
    connecting and can go on. -/
theorem drives_of_advance {id : ConnId} {event : Readiness}
    (hadvance : step.operation = .advance id event) (hw : step.before.ctx.Orderly)
    (hn : step.before.view.Numbered) : step.Drives := by
  have hcalls : ¬step.operation.CallsSession := by
    rw [hadvance]
    exact fun hcalls => hcalls
  rcases advance_cases hadvance with
    ⟨conn, hconn, hstate, hdrives, acts, hstepping, hcourse, hpath⟩ |
      ⟨hrests, acts, hresting, hcourse, hpath⟩
  -- the event drives the handshake of its connection: one session is polled
  · obtain ⟨polling, hacts, hsession, hsettled⟩ := hstepping.settled hpath hw hn
    obtain ⟨hleading, hpollings⟩ := hpath.pollings_eq (hcourse.not_asks hcalls)
    rw [← events_eq hpath] at hleading hpollings
    rw [hacts] at hpollings
    constructor
    case nodup =>
      rw [hpollings]
      exact List.nodup_singleton _
    case polled_iff =>
      intro session
      rw [hpollings, List.map_singleton, List.mem_singleton, hsession]
      constructor
      · rintro rfl
        exact .inr ⟨id, event, conn, hadvance, hdrives, hconn, hstate, rfl⟩
      · rintro (⟨target, -, hready⟩ | ⟨id', event', conn', heq, -, hconn', -, rfl⟩)
        · exact absurd hready (not_nonblocking_of_advance hadvance hcourse hpath session)
        · rw [hadvance] at heq
          cases heq
          rw [hconn] at hconn'
          rw [Option.some.inj hconn']
    case leading => exact hleading
    case settled =>
      rw [hpollings]
      exact List.forall_mem_singleton.2 hsettled
  -- it drives none, and nothing is polled
  · obtain ⟨hleading, hpollings⟩ := hpath.pollings_eq (hcourse.not_asks hcalls)
    rw [← events_eq hpath] at hleading hpollings
    rw [hresting.polling?_eq_none] at hpollings
    constructor
    case nodup =>
      rw [hpollings]
      exact List.nodup_nil
    case polled_iff =>
      intro session
      rw [hpollings]
      refine iff_of_false List.not_mem_nil ?_
      rintro (⟨target, -, hready⟩ | ⟨id', event', conn', heq, hdrives, hconn', hstate, -⟩)
      · exact not_nonblocking_of_advance hadvance hcourse hpath session hready
      · rw [hadvance] at heq
        cases heq
        exact hrests conn' hconn' hstate hdrives
    case leading => exact hleading
    case settled =>
      rw [hpollings]
      exact List.forall_mem_nil _

theorem drives (hcourse : Course step.operation step.answer acts)
    (hpath : Path step.before.view acts step.after.view) (hw : step.before.ctx.Orderly)
    (hn : step.before.view.Numbered) (hcalls : ¬step.operation.CallsSession) : step.Drives := by
  by_cases hadvance : ∃ id event, step.operation = .advance id event
  · obtain ⟨id, event, hadvance⟩ := hadvance
    exact drives_of_advance hadvance hw hn
  · exact drives_of_provides hcourse hpath hw hn hcalls fun id event heq => hadvance ⟨id, event, heq⟩

end Step

namespace Worker

/-- An opening polls the session that it starts once, if that fares well and
    its socket can be made non-blocking, and polls nothing otherwise. -/
theorem pollings_establish {w : Worker ω ρ κ} (hw : w.ctx.Orderly) {target : Target}
    {request : Option ρ} {onConnect : Option κ} {membership : Membership}
    (hopen : membership.CanOpen request onConnect) (hroom : w.ctx.HasRoom membership)
    (ha : (w.establish target request onConnect membership).2.view.slotCount ≤ 2 ^ 32) :
    (w.Readies target → ∃ polling, polling.session = w.started ∧
      pollings ((w.establish target request onConnect membership).2.trace.drop w.trace.length) =
        [polling]) ∧
    (¬w.Readies target →
      pollings ((w.establish target request onConnect membership).2.trace.drop w.trace.length) =
        []) := by
  obtain ⟨act, hopening, enabled, hrun, hreadies⟩ := establish_cases hw hopen hroom
    (rfl : w.establish target request onConnect membership = (_, _)) ha
  have htrace : (w.establish target request onConnect membership).2.trace =
      w.trace ++ act.events := (congrArg View.trace hrun).symm
  rw [htrace, List.drop_left, Act.pollings_events enabled hopening.not_asks, ← hreadies,
    hopening.readied_iff enabled]
  constructor
  · rintro ⟨polling, hpolling⟩
    have hsession := Act.session_of_polling enabled hpolling (hopening.starts_of_polling hpolling)
    rw [hpolling]
    exact ⟨polling, hsession, rfl⟩
  · intro hnone
    cases hpolling : act.polling? with
    | none => rfl
    | some polling => exact absurd ⟨polling, hpolling⟩ hnone

/-- Runs number their sessions, and drive handshakes as long as the host does
    not call on sessions. -/
theorem driven_of_run (configs : Registry) (env : ω) (operations : List (Operation ρ κ))
    (ha : ((fresh configs env).afterAll operations).ctx.conns.slots.length ≤ 2 ^ 32)
    (hcalls : ∀ operation ∈ operations, ¬operation.CallsSession) :
    ((fresh configs env).afterAll operations).view.Driven ∧
      ∀ step ∈ (fresh configs env).steps operations, step.Drives := by
  have hrun := run_induction (w := fresh configs env)
    (P := fun history w => w.view.Numbered ∧
      ((∀ step ∈ history, ¬step.operation.CallsSession) →
        w.view.Driven ∧ ∀ step ∈ history, step.Drives))
    (Context.Orderly.fresh configs) ?_ ?_ operations ha
  · refine hrun.2.2 fun step hmem => hcalls _ ?_
    rw [← map_operation_steps (fresh configs env) operations]
    exact List.mem_map_of_mem hmem
  · -- in the beginning nothing is live and nothing was polled
    have hnone : ∀ session, reportsOf session (fresh configs env : Worker ω ρ κ).view.trace = [] :=
      fun _ => rfl
    refine ⟨⟨?_, ?_⟩, fun _ => ⟨⟨fun session _ => hnone session, ?_, ?_⟩, List.forall_mem_nil _⟩⟩
    · intro id session socket hheld
      cases hheld
    · intro id other session socket socket' hid
      cases hid
    · intro id conn hconn
      cases hconn
    · intro session
      exact ⟨[], [], hnone session, List.forall_mem_nil _, .inl rfl⟩
  · rintro history w operation acts hw hcourse hpath ⟨hnumbered, hdriven⟩
    refine ⟨hpath.numbered hw hnumbered, fun hall => ?_⟩
    obtain ⟨hearlier, hlast⟩ := List.forall_mem_append.1 hall
    obtain ⟨hbefore, hsteps⟩ := hdriven hearlier
    have hcalls := hlast _ List.mem_cons_self
    refine ⟨hpath.driven hw hnumbered (hcourse.not_asks hcalls) hbefore, ?_⟩
    exact List.forall_mem_append.2 ⟨hsteps, List.forall_mem_singleton.2
      (Step.drives hcourse hpath hw hnumbered hcalls)⟩

/-- In every run in which the host does not call on sessions itself: each step
    polls the sessions that it makes ready, and the session that a report can
    drive, once each and no others, and after each poll the event loop is asked
    for what the poll calls for and for nothing else; the reports of each session
    have it wait until one of them ends the handshake; and a session that is
    opened is polled if it fares well and its socket can be made
    non-blocking. -/
theorem handshakes_of_run (configs : Registry) (env : ω) (operations : List (Operation ρ κ))
    (ha : ((fresh configs env).afterAll operations).ctx.conns.slots.length ≤ 2 ^ 32)
    (hcalls : ∀ operation ∈ operations, ¬operation.CallsSession) :
    (∀ step ∈ (fresh configs env).steps operations, step.Drives) ∧
    (∀ session, IsHandshake (reportsOf session ((fresh configs env).afterAll operations).trace)) ∧
    ∀ (w : Worker ω ρ κ) (target : Target) (request : Option ρ) (onConnect : Option κ)
      (membership : Membership), w.ctx.Orderly → membership.CanOpen request onConnect →
      w.ctx.HasRoom membership →
      (w.establish target request onConnect membership).2.view.slotCount ≤ 2 ^ 32 →
        (w.Readies target → ∃ polling, polling.session = w.started ∧
          pollings ((w.establish target request onConnect membership).2.trace.drop
            w.trace.length) = [polling]) ∧
        (¬w.Readies target →
          pollings ((w.establish target request onConnect membership).2.trace.drop
            w.trace.length) = []) := by
  obtain ⟨hdriven, hsteps⟩ := driven_of_run configs env operations ha hcalls
  refine ⟨hsteps, hdriven.shaped, ?_⟩
  intro w target request onConnect membership hw hopen hroom hslots
  exact pollings_establish hw hopen hroom hslots

/-- A connection is driven to the end of its handshake, for which a disconnect
    waits by then. -/
def drivenRun : List (Operation String String) :=
  [.connectUri none none "u", .advance ⟨0, 0⟩ .readable, .disconnect ⟨0, 0⟩ none,
    .advance ⟨0, 0⟩ .writable]

theorem handshakes_of_drivenRun :
    ((fresh .empty patientStage).afterAll drivenRun).ctx.conns.slots.length ≤ 2 ^ 32 ∧
      (∀ operation ∈ drivenRun, ¬operation.CallsSession) ∧
      (∀ step ∈ (fresh .empty patientStage).steps drivenRun, step.Drives) ∧
      reportsOf 0 ((fresh .empty patientStage).afterAll drivenRun).trace =
        [.reading, .writing, .ok] ∧
      IsHandshake (reportsOf 0 ((fresh .empty patientStage).afterAll drivenRun).trace) := by
  have ha : ((fresh .empty patientStage).afterAll drivenRun).ctx.conns.slots.length ≤ 2 ^ 32 := by
    decide +kernel
  have hcalls : ∀ operation ∈ drivenRun, ¬operation.CallsSession := by
    simp [drivenRun, Operation.CallsSession]
  obtain ⟨hsteps, hreports, -⟩ := handshakes_of_run .empty patientStage drivenRun ha hcalls
  exact ⟨ha, hcalls, hsteps, by decide +kernel, hreports 0⟩

end Worker
end ConnPool
