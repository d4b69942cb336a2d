/-
  ConnPool.Proofs.Run.Agreement

  The two reports that a caller gets on a connection that it asks for.

  What an operation answers and what it tells the connect callback that came
  with it are produced in different places: the callback is told where the
  handshake ends, while the answer is passed on through the opening, the pool
  that grows, or the pool that lends.  They agree all the same.
-/

import ConnPool.Proofs.Run.Undoing
import ConnPool.Proofs.Worker.Answering

namespace ConnPool

variable {ω ρ κ : Type} [Environment ω]

/-- Whether what a step answers agrees with what it tells the connect callback
    that came with it. -/
structure Step.Agrees (step : Step ω ρ κ) (callback : κ) : Prop where
  /-- No other callback is called, nor this one twice. -/
  calls_le_one : (step.events.filter Event.isCall).length ≤ 1
  eq_of_called : ∀ event ∈ step.events, event.isCall = true →
    ∃ id status, event = .connectCalled callback id status step.operation.request?
  /-- A failure that is told is answered, and nothing is left of the connection. -/
  of_failure : ∀ id error request, .connectCalled callback id (.error error) request ∈ step.events →
    step.answer = .opened (.error error) ∧ error.EndsHandshake ∧ step.after.ctx.conn? id = none
  /-- A success that is told is answered with the id that is told. -/
  of_success : ∀ id request, .connectCalled callback id (.ok ()) request ∈ step.events →
    step.answer = .opened (.ok id) ∧ step.after.ctx.state? id = some .connected
  /-- Where nothing is told, the callback waits for the end of the handshake, or
      is dropped because there is none. -/
  of_silence : (∀ id status request, .connectCalled callback id status request ∉ step.events) →
    (∃ id conn, step.answer = .opened (.ok id) ∧ step.after.ctx.conn? id = some conn ∧
        conn.state = .connecting ∧ conn.onConnect = some callback) ∨
      ∃ error, step.answer = .opened (.error error) ∧ error.isRefusal = true ∧
        ∀ id, step.after.ctx.conn? id = step.before.ctx.conn? id
  /-- A failed handshake that is answered is told. -/
  told_of_answered : ∀ error, step.answer = .opened (.error error) → error.EndsHandshake →
    ∃ id, .connectCalled callback id (.error error) step.operation.request? ∈ step.events

namespace Step

variable {step : Step ω ρ κ} {callback : κ}

/-- A step that tells its caller what it answers, and leaves all connections as
    they are if it fails, agrees with the callback. -/
theorem agrees_of_telling {outcome : Except PoolError ConnId}
    (honConnect : step.operation.onConnect? = some callback)
    (hanswer : step.answer = .opened outcome)
    (htelling : Telling step.operation.request? step.operation.onConnect? step.after.ctx outcome
      (step.events.filter Event.isCall))
    (hrestores : step.answer.Fails → step.Restores) : step.Agrees callback := by
  rw [honConnect] at htelling
  have hmem : ∀ event, event.isCall = true →
      (event ∈ step.events.filter Event.isCall ↔ event ∈ step.events) := by
    intro event hcall
    rw [List.mem_filter, and_iff_left hcall]
  constructor
  case calls_le_one => exact htelling.length_le_one
  case eq_of_called =>
    intro event hevent hcall
    exact htelling.eq_of_mem event ((hmem event hcall).2 hevent)
  case of_failure =>
    intro id error request hevent
    obtain ⟨rfl, hends, hgone⟩ := htelling.of_failure ((hmem _ rfl).2 hevent)
    exact ⟨hanswer, hends, hgone⟩
  case of_success =>
    intro id request hevent
    obtain ⟨rfl, hstate⟩ := htelling.of_success ((hmem _ rfl).2 hevent)
    exact ⟨hanswer, hstate⟩
  case of_silence =>
    intro hsilent
    have hnone : ∀ id status, .connectCalled callback id status step.operation.request? ∉
        step.events.filter Event.isCall := fun id status hevent =>
      hsilent id status _ ((hmem _ rfl).1 hevent)
    rcases htelling.of_silence hnone with ⟨id, conn, rfl, hwaits⟩ | ⟨error, rfl, hrefusal⟩
    · exact .inl ⟨id, conn, hanswer, hwaits⟩
    · have hfails : step.answer.Fails := by
        rw [hanswer]
        trivial
      exact .inr ⟨error, hanswer, hrefusal, (hrestores hfails).conns⟩
  case told_of_answered =>
    intro error heq hends
    obtain rfl : outcome = .error error := Answer.opened.inj (hanswer.symm.trans heq)
    obtain ⟨id, hevent⟩ := htelling.told_of_answered hends
    exact ⟨id, (hmem _ rfl).1 hevent⟩

end Step

namespace Worker

/-- In every run, what is answered to a caller that comes with a connect callback
    agrees with what the callback is told: the same error, of a handshake or a
    registration, for an id that is gone; or the same id, which is connected.  A
    callback that is told nothing is kept by a connection whose handshake goes
    on, or is dropped with one of the errors that come before a handshake.  An
    acquisition ends with a handshake only if its pool is full, and a direct
    connection is opened in its stead. -/
theorem agrees_of_run (configs : Registry) (env : ω) (operations : List (Operation ρ κ))
    (ha : ((fresh configs env).afterAll operations).ctx.conns.slots.length ≤ 2 ^ 32) :
    ∀ step ∈ (fresh configs env).steps operations,
      (∀ callback, step.operation.onConnect? = some callback → step.Agrees callback) ∧
      ∀ key request onConnect error, step.operation = .acquire key request onConnect →
        step.answer = .opened (.error error) → error.EndsHandshake →
        ∃ pool w, step.before.poolAt key = (.ok pool, w) ∧ pool.free = [] ∧
          pool.size = pool.config.maxSize ∧
          w.lendDirect key request onConnect = (.error error, step.after) := by
  intro step hmem
  obtain ⟨hw, hsound, -⟩ := sound_of_mem_steps ha hmem
  have haddressable := addressable_of_mem_steps ha hmem
  refine ⟨fun callback honConnect => ?_, fun key request onConnect error hacquire hanswer hends => ?_⟩
  · obtain ⟨acts, hcourse, hpath⟩ :=
      perform_course hw (rfl : step.before.perform step.operation = (_, _)) haddressable
    obtain ⟨outcome, hanswer⟩ := hcourse.exists_outcome honConnect
    rw [hanswer] at hcourse
    refine Step.agrees_of_telling honConnect hanswer ?_ (step.restores hw hsound haddressable)
    rw [Step.events_eq hpath]
    exact hcourse.telling hpath hw hsound.coherent
  · have hperform : step.before.perform step.operation = (.opened (.error error), step.after) :=
      Prod.ext hanswer rfl
    rw [hacquire, perform] at hperform
    obtain ⟨heq, hafter⟩ := Prod.mk.inj hperform
    exact acquire_of_endsHandshake hw (Prod.ext (Answer.opened.inj heq) hafter) haddressable hends

/-- The first session is slow to connect, and the event loop refuses the socket
    of the second one. -/
def crowdedStage : Scripted.Stage :=
  { scripts := [{ polls := [(.reading, none)] }, { registrations := [some "full"] }] }

/-- The pool lends the connection that it opens, and then fails to open one in
    its stead. -/
def crowdedRun : List (Operation String String) :=
  [.acquire "k" none (some "first"), .acquire "k" none (some "second")]

theorem agrees_of_crowdedRun :
    ((fresh smallPool crowdedStage).afterAll crowdedRun).ctx.conns.slots.length ≤ 2 ^ 32 ∧
      ∃ waiting ∈ (fresh smallPool crowdedStage).steps crowdedRun,
      ∃ failing ∈ (fresh smallPool crowdedStage).steps crowdedRun,
        (waiting.answer = .opened (.ok ⟨0, 0⟩) ∧ waiting.Agrees "first") ∧
        failing.answer = .opened (.error (.registration "full")) ∧ failing.Agrees "second" ∧
        ∃ pool w, failing.before.poolAt "k" = (.ok pool, w) ∧ pool.free = [] ∧
          pool.size = pool.config.maxSize ∧
          w.lendDirect "k" none (some "second") =
            (.error (.registration "full"), failing.after) := by
  have ha : ((fresh smallPool crowdedStage).afterAll crowdedRun).ctx.conns.slots.length ≤ 2 ^ 32 := by
    decide +kernel
  have hall := agrees_of_run smallPool crowdedStage crowdedRun ha
  have hwaiting : ⟨fresh smallPool crowdedStage, .acquire "k" none (some "first")⟩ ∈
      (fresh smallPool crowdedStage).steps crowdedRun := List.mem_cons_self
  have hfailing : ⟨(fresh smallPool crowdedStage).afterAll (crowdedRun.take 1),
      .acquire "k" none (some "second")⟩ ∈ (fresh smallPool crowdedStage).steps crowdedRun :=
    List.mem_of_getElem? (i := 1) rfl
  obtain ⟨hagrees, hdirect⟩ := hall _ hfailing
  exact ⟨ha, _, hwaiting, _, hfailing, ⟨rfl, (hall _ hwaiting).1 "first" rfl⟩, rfl,
    hagrees "second" rfl, hdirect "k" _ _ _ rfl rfl trivial⟩

end Worker
end ConnPool
