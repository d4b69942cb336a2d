/-
  ConnPool.Proofs.Run.CallOrder

  The order of callbacks along runs.

  However many borrowers a connection has, and however it ends, its callbacks
  are called in one order: successes, a failure, a disconnect.  The last two
  belong to the step that releases the connection, after which its id is stale
  and nobody is called for it.

  An id would stand for another connection once its slot has been vacated
  `2 ^ 32` times; this is for runs that take fewer connections than that out of
  the arena.
-/

import ConnPool.Proofs.Run.Lending
import ConnPool.Proofs.Worker.CallOrder

namespace ConnPool

variable {ω ρ κ : Type} [Environment ω]

/-- Whether the connection under `id` is released in a step: its id is stale
    afterwards, and was not before. -/
def Step.Releases (step : Step ω ρ κ) (id : ConnId) : Prop :=
  ¬step.before.ctx.Stale id ∧ step.after.ctx.Stale id

/-- What a history and the worker that it leads to have to do with each other,
    as to the order of calls. -/
structure OrderLedger (history : List (Step ω ρ κ)) (w : Worker ω ρ κ) : Prop where
  coherent : w.ctx.Coherent
  atMostRemoved : w.ctx.conns.AtMostRemoved (removalsOf history)
  tells : ∀ id, w.view.Tells id
  releases : ∀ step ∈ history, ∀ id, ∀ event ∈ step.events, event.addressee? = some id →
    ¬event.IsSuccess → step.Releases id
  final : ∀ earlier step later, history = earlier ++ step :: later → ∀ id,
    step.after.ctx.Stale id → w.ctx.Stale id ∧
      ∀ other ∈ later, ∀ event ∈ other.events, event.addressee? ≠ some id
  endsWait : ∀ callback id status request,
    .disconnectCalled callback id status request ∈ w.trace → status.EndsWait

namespace OrderLedger

variable {history : List (Step ω ρ κ)} {w : Worker ω ρ κ} {operation : Operation ρ κ}
  {acts : List (Act ρ κ)}

theorem fresh (configs : Registry) (env : ω) :
    OrderLedger ([] : List (Step ω ρ κ)) (Worker.fresh configs env) where
  coherent id conn hconn := by cases hconn
  atMostRemoved := .empty
  tells id := by
    have hnone : ∀ event ∈ callsFor id ([] : List (Event ρ κ)), event.IsSuccess :=
      List.forall_mem_nil _
    exact ⟨fun _ => rfl, fun _ => hnone, .of_successes hnone⟩
  releases := List.forall_mem_nil _
  final earlier step later heq := by simp at heq
  endsWait callback id status request hmem := by cases hmem

/-- Each operation keeps the ledger. -/
theorem perform (h : OrderLedger history w) (hw : w.ctx.Orderly)
    (hcourse : Course operation (Step.mk w operation).answer acts)
    (hpath : Path w.view acts (Step.mk w operation).after.view)
    (hlt : removalsOf (history ++ [⟨w, operation⟩]) < 2 ^ 32) :
    OrderLedger (history ++ [⟨w, operation⟩]) (Step.mk w operation).after := by
  have hsame : (Step.mk w operation).removals = removals acts := Step.removals_eq hcourse hpath
  have hevents : (Step.mk w operation).events = acts.flatMap Act.events := Step.events_eq hpath
  rw [removalsOf_append_singleton, hsame] at hlt
  obtain ⟨hremoved, hrecycles⟩ := hpath.recycles hw h.atMostRemoved hlt
  constructor
  case coherent => exact hpath.coherent hw h.coherent
  case atMostRemoved =>
    rw [removalsOf_append_singleton, hsame]
    exact hremoved
  case tells => exact fun id => hpath.tells hw h.atMostRemoved hlt (h.tells id)
  case releases =>
    refine List.forall_mem_append.2 ⟨h.releases, List.forall_mem_singleton.2 ?_⟩
    intro id event hmem hevent hlast
    rw [hevents] at hmem
    exact hpath.stale_of_last_call hw h.atMostRemoved hlt hmem hevent hlast
  case final =>
    intro earlier step later heq id hstale
    rcases of_append_singleton_eq heq with ⟨rfl, rfl, rfl⟩ | ⟨middle, rfl, hinit⟩
    · exact ⟨hstale, List.forall_mem_nil _⟩
    · obtain ⟨hbefore, hquiet⟩ := h.final earlier step middle hinit id hstale
      refine ⟨hrecycles.stale hbefore, List.forall_mem_append.2 ⟨hquiet, ?_⟩⟩
      refine List.forall_mem_singleton.2 fun event hmem => ?_
      rw [hevents] at hmem
      exact hpath.addressee?_ne_of_stale hw h.atMostRemoved hlt hbefore event hmem
  case endsWait =>
    intro callback id status request hmem
    rw [Step.trace_eq hpath, hevents] at hmem
    rcases List.mem_append.1 hmem with hmem | hmem
    · exact h.endsWait callback id status request hmem
    · exact hpath.endsWait_of_mem hw h.coherent hmem

end OrderLedger

namespace Worker

theorem orderLedger_of_run (configs : Registry) (env : ω) (operations : List (Operation ρ κ))
    (ha : ((fresh configs env).afterAll operations).ctx.conns.slots.length ≤ 2 ^ 32)
    (hremovals : removalsOf ((fresh configs env).steps operations) < 2 ^ 32) :
    OrderLedger ((fresh configs env).steps operations)
      ((fresh configs env).afterAll operations) := by
  have hrun := run_induction
    (P := fun history w => removalsOf history < 2 ^ 32 → OrderLedger history w)
    (Context.Orderly.fresh configs : (fresh configs env : Worker ω ρ κ).ctx.Orderly)
    (fun _ => .fresh configs env) ?_ operations ha
  · exact hrun.2 hremovals
  · intro history w operation acts hw hcourse hpath h hlt
    refine (h ?_).perform hw hcourse hpath hlt
    rw [removalsOf_append_singleton] at hlt
    omega

/-- In every run the callbacks of each connection are called in order: any
    number of successes, at most one failure, at most one disconnect.  Failures
    and disconnects are told in the step that releases the connection, nothing
    is told in later ones, and no disconnect callback is told of a shutdown, a
    lost connection or anything else than a handshake that ended. -/
theorem callOrder_of_run (configs : Registry) (env : ω) (operations : List (Operation ρ κ))
    (ha : ((fresh configs env).afterAll operations).ctx.conns.slots.length ≤ 2 ^ 32)
    (hremovals : removalsOf ((fresh configs env).steps operations) < 2 ^ 32) :
    (∀ id, InOrder (callsFor id ((fresh configs env).afterAll operations).trace)) ∧
    (∀ earlier step later, (fresh configs env).steps operations = earlier ++ step :: later →
      ∀ id,
        (∀ event ∈ step.events, event.addressee? = some id → ¬event.IsSuccess →
          step.Releases id) ∧
        (step.Releases id → ∀ other ∈ later, ∀ event ∈ other.events,
          event.addressee? ≠ some id)) ∧
    ∀ callback id status request,
      .disconnectCalled callback id status request ∈
          ((fresh configs env).afterAll operations).trace →
        status = .ok () ∨ (∃ reason, status = .error (.handshake reason)) ∨
          ∃ reason, status = .error (.registration reason) := by
  have h := orderLedger_of_run configs env operations ha hremovals
  refine ⟨fun id => (h.tells id).inOrder, fun earlier step later heq id => ⟨?_, ?_⟩, h.endsWait⟩
  · have hmem : step ∈ (fresh configs env).steps operations := by
      rw [heq]
      exact List.mem_append_cons_self
    exact h.releases step hmem id
  · exact fun hreleases => (h.final earlier step later heq id hreleases.2).2

/-- A connection is lent, taken back while it is still connecting, and lent
    again; a disconnect then waits for its handshake, which times out. -/
def relentRun : List (Operation String String) :=
  [.acquire "k" (some "one") (some "first"), .reclaim ⟨0, 0⟩,
    .acquire "k" (some "two") (some "second"), .disconnect ⟨0, 0⟩ (some "down"),
    .advance ⟨0, 0⟩ .timeout]

theorem callOrder_of_relentRun :
    ((fresh smallPool slowStage).afterAll relentRun).ctx.conns.slots.length ≤ 2 ^ 32 ∧
      removalsOf ((fresh smallPool slowStage).steps relentRun) < 2 ^ 32 ∧
      ∀ id, InOrder (callsFor id ((fresh smallPool slowStage).afterAll relentRun).trace) :=
  have ha := by decide +kernel
  have hremovals := by decide +kernel
  ⟨ha, hremovals, (callOrder_of_run smallPool slowStage relentRun ha hremovals).1⟩

end Worker
end ConnPool
