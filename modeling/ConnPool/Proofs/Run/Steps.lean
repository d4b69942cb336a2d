/-
  ConnPool.Proofs.Run.Steps

  Runs as lists of steps.

  A `Step` is a worker and the operation that it performs; what it answers and
  what comes of it follow.  `perform_induction` is the one induction over runs:
  what holds at the start and is kept by each operation holds after every run
  whose arena can still be addressed.  `run_induction` sees each operation as a
  path of acts.
-/

import ConnPool.Proofs.Worker.Course

namespace ConnPool

variable {ω ρ κ : Type}

/-- One operation of a run, and the worker that performs it. -/
structure Step (ω ρ κ : Type) where
  before : Worker ω ρ κ
  operation : Operation ρ κ

namespace Step

variable [Environment ω]

def answer (step : Step ω ρ κ) : Answer :=
  (step.before.perform step.operation).1

def after (step : Step ω ρ κ) : Worker ω ρ κ :=
  (step.before.perform step.operation).2

/-- What a step did to the outside. -/
def events (step : Step ω ρ κ) : List (Event ρ κ) :=
  step.after.trace.drop step.before.trace.length

theorem events_of_trace {step : Step ω ρ κ} {events : List (Event ρ κ)}
    (h : step.after.trace = step.before.trace ++ events) : step.events = events := by
  rw [Step.events, h, List.drop_left]

/-- A step did what its acts do. -/
theorem events_eq {step : Step ω ρ κ} {acts : List (Act ρ κ)}
    (h : Path step.before.view acts step.after.view) : step.events = acts.flatMap Act.events :=
  events_of_trace h.trace_eq

theorem trace_eq {step : Step ω ρ κ} {acts : List (Act ρ κ)}
    (h : Path step.before.view acts step.after.view) :
    step.after.trace = step.before.trace ++ step.events := by
  rw [events_eq h]
  exact h.trace_eq

end Step

/-! ## Histories -/

/-- A step of a history that goes on by one step is the last one, or one of the
    history before. -/
theorem of_append_singleton_eq {α : Type} {history earlier later : List α} {last step : α}
    (h : history ++ [last] = earlier ++ step :: later) :
    (earlier = history ∧ step = last ∧ later = []) ∨
      ∃ middle, later = middle ++ [last] ∧ history = earlier ++ step :: middle := by
  rcases List.eq_nil_or_concat later with rfl | ⟨middle, final, rfl⟩
  · obtain ⟨rfl, hlast⟩ := List.append_inj' h rfl
    exact .inl ⟨rfl, (List.singleton_inj.1 hlast).symm, rfl⟩
  · rw [List.concat_eq_append, ← List.cons_append, ← List.append_assoc] at h
    obtain ⟨rfl, hlast⟩ := List.append_inj' h rfl
    obtain rfl := List.singleton_inj.1 hlast
    exact .inr ⟨middle, List.concat_eq_append, rfl⟩

/-- Whether `A` held of some step of a history, and `B` of none after it. -/
def Since {α : Type} (A B : α → Prop) (history : List α) : Prop :=
  ∃ earlier step later, history = earlier ++ step :: later ∧ A step ∧ ∀ other ∈ later, ¬B other

namespace Since

variable {α : Type} {A B : α → Prop} {history : List α} {step : α}

theorem not_nil : ¬Since A B ([] : List α) := by
  rintro ⟨earlier, step, later, heq, -⟩
  simp at heq

theorem append_singleton :
    Since A B (history ++ [step]) ↔ A step ∨ (Since A B history ∧ ¬B step) := by
  constructor
  · rintro ⟨earlier, first, later, heq, hfirst, hlater⟩
    -- the step of the kind is either the last one or there before it
    rcases of_append_singleton_eq heq with ⟨rfl, rfl, rfl⟩ | ⟨middle, rfl, hinit⟩
    · exact .inl hfirst
    · obtain ⟨hmiddle, hlast⟩ := List.forall_mem_append.1 hlater
      exact .inr ⟨⟨earlier, first, middle, hinit, hfirst, hmiddle⟩, hlast step List.mem_cons_self⟩
  · rintro (hstep | ⟨⟨earlier, first, later, rfl, hfirst, hlater⟩, hnot⟩)
    · exact ⟨history, step, [], rfl, hstep, List.forall_mem_nil _⟩
    · refine ⟨earlier, first, later ++ [step], by simp, hfirst, ?_⟩
      exact List.forall_mem_append.2 ⟨hlater, List.forall_mem_singleton.2 hnot⟩

end Since

namespace Worker

variable [Environment ω]

/-- The steps of a run. -/
def steps (w : Worker ω ρ κ) : List (Operation ρ κ) → List (Step ω ρ κ)
  | [] => []
  | operation :: rest => ⟨w, operation⟩ :: (w.perform operation).2.steps rest

/-- The worker after a run. -/
def afterAll (w : Worker ω ρ κ) (operations : List (Operation ρ κ)) : Worker ω ρ κ :=
  (w.performAll operations).2

@[simp] theorem afterAll_cons (w : Worker ω ρ κ) (operation : Operation ρ κ)
    (rest : List (Operation ρ κ)) :
    w.afterAll (operation :: rest) = (w.perform operation).2.afterAll rest := rfl

theorem afterAll_append (w : Worker ω ρ κ) (first second : List (Operation ρ κ)) :
    w.afterAll (first ++ second) = (w.afterAll first).afterAll second := by
  induction first generalizing w with
  | nil => rfl
  | cons operation rest ih =>
      rw [List.cons_append, afterAll_cons, afterAll_cons]
      exact ih _

theorem steps_append (w : Worker ω ρ κ) (first second : List (Operation ρ κ)) :
    w.steps (first ++ second) = w.steps first ++ (w.afterAll first).steps second := by
  induction first generalizing w with
  | nil => rfl
  | cons operation rest ih =>
      rw [List.cons_append, steps, steps, List.cons_append, afterAll_cons]
      exact congrArg _ (ih _)

/-- A run takes one step for each operation. -/
theorem map_operation_steps (w : Worker ω ρ κ) (operations : List (Operation ρ κ)) :
    (w.steps operations).map Step.operation = operations := by
  induction operations generalizing w with
  | nil => rfl
  | cons operation rest ih =>
      rw [steps, List.map_cons, ih]

/-- The steps before a step of a run are a run, and so are those after it. -/
theorem steps_split {w : Worker ω ρ κ} {operations : List (Operation ρ κ)}
    {earlier later : List (Step ω ρ κ)} {step : Step ω ρ κ}
    (h : w.steps operations = earlier ++ step :: later) :
    ∃ first rest, operations = first ++ step.operation :: rest ∧ earlier = w.steps first ∧
      step.before = w.afterAll first ∧ later = step.after.steps rest := by
  -- over the steps before the one in question
  induction earlier generalizing w operations with
  | nil =>
      cases operations with
      | nil => cases h
      | cons operation rest =>
          obtain ⟨rfl, rfl⟩ := List.cons.inj h
          exact ⟨[], rest, rfl, rfl, rfl, rfl⟩
  | cons head earlier ih =>
      cases operations with
      | nil => cases h
      | cons operation rest =>
          obtain ⟨rfl, htail⟩ := List.cons.inj h
          obtain ⟨first, rest, rfl, rfl, hbefore, hlater⟩ := ih htail
          exact ⟨operation :: first, rest, rfl, rfl, hbefore, hlater⟩

/-- A run ends where the steps after any of its steps end. -/
theorem afterAll_of_split {w : Worker ω ρ κ} {operations first rest : List (Operation ρ κ)}
    {step : Step ω ρ κ} (hoperations : operations = first ++ step.operation :: rest)
    (hbefore : step.before = w.afterAll first) :
    w.afterAll operations = step.after.afterAll rest := by
  rw [hoperations, afterAll_append, afterAll_cons, ← hbefore]
  rfl

/-- A run answers what its steps answer. -/
theorem performAll_eq (w : Worker ω ρ κ) (operations : List (Operation ρ κ)) :
    w.performAll operations = ((w.steps operations).map Step.answer, w.afterAll operations) := by
  induction operations generalizing w with
  | nil => rfl
  | cons operation rest ih =>
      rw [performAll, steps, List.map_cons, afterAll_cons]
      simp only [ih]
      rfl

theorem slotCount_le_afterAll (w : Worker ω ρ κ) (operations : List (Operation ρ κ)) :
    w.view.slotCount ≤ (w.afterAll operations).view.slotCount := by
  induction operations generalizing w with
  | nil => exact Nat.le_refl _
  | cons operation rest ih => exact Nat.le_trans (slotCount_le_perform w operation) (ih _)

/-- What holds at the start of a run and is kept by every operation holds
    after the run, as long as the slots can be addressed. -/
theorem perform_induction {P : List (Step ω ρ κ) → Worker ω ρ κ → Prop} {w : Worker ω ρ κ}
    (hw : w.ctx.Orderly) (start : P [] w)
    (step : ∀ (history : List (Step ω ρ κ)) (w : Worker ω ρ κ) (operation : Operation ρ κ),
      w.ctx.Orderly → (Step.mk w operation).after.view.slotCount ≤ 2 ^ 32 → P history w →
      P (history ++ [⟨w, operation⟩]) (Step.mk w operation).after)
    (operations : List (Operation ρ κ))
    (ha : (w.afterAll operations).ctx.conns.slots.length ≤ 2 ^ 32) :
    (w.afterAll operations).ctx.Orderly ∧ P (w.steps operations) (w.afterAll operations) := by
  -- on the number of operations, the last one taken off
  induction hn : operations.length generalizing operations with
  | zero =>
      obtain rfl := List.length_eq_zero_iff.1 hn
      exact ⟨hw, start⟩
  | succ n ih =>
      obtain ⟨first, last, rfl⟩ : ∃ first last, operations = first ++ [last] :=
        ⟨operations.dropLast, operations.getLast (by rintro rfl; cases hn),
          (List.dropLast_concat_getLast _).symm⟩
      rw [afterAll_append] at ha ⊢
      rw [steps_append]
      have hlast := slotCount_le_perform (w.afterAll first) last
      obtain ⟨hfirst, hP⟩ := ih first (Nat.le_trans hlast ha) (by simpa using hn)
      obtain ⟨acts, -, hpath⟩ := perform_course hfirst
        (rfl : (w.afterAll first).perform last = (_, _)) ha
      exact ⟨hpath.orderly hfirst, step _ _ last hfirst ha hP⟩

/-- What holds at the start of a run and is kept by every operation, seen as a
    path of acts, holds after the run. -/
theorem run_induction {P : List (Step ω ρ κ) → Worker ω ρ κ → Prop} {w : Worker ω ρ κ}
    (hw : w.ctx.Orderly) (start : P [] w)
    (step : ∀ (history : List (Step ω ρ κ)) (w : Worker ω ρ κ) (operation : Operation ρ κ)
      (acts : List (Act ρ κ)), w.ctx.Orderly →
      Course operation (Step.mk w operation).answer acts →
      Path w.view acts (Step.mk w operation).after.view → P history w →
      P (history ++ [⟨w, operation⟩]) (Step.mk w operation).after)
    (operations : List (Operation ρ κ))
    (ha : (w.afterAll operations).ctx.conns.slots.length ≤ 2 ^ 32) :
    (w.afterAll operations).ctx.Orderly ∧ P (w.steps operations) (w.afterAll operations) := by
  refine perform_induction hw start ?_ operations ha
  intro history w operation hw ha hP
  obtain ⟨acts, hcourse, hpath⟩ := perform_course hw (rfl : w.perform operation = (_, _)) ha
  exact step history w operation acts hw hcourse hpath hP

/-- Each step of a run is a path of acts. -/
theorem course_of_mem_steps {w : Worker ω ρ κ} (hw : w.ctx.Orderly)
    (operations : List (Operation ρ κ))
    (ha : (w.afterAll operations).ctx.conns.slots.length ≤ 2 ^ 32) :
    ∀ step ∈ w.steps operations, step.before.ctx.Orderly ∧
      ∃ acts, Course step.operation step.answer acts ∧
        Path step.before.view acts step.after.view := by
  refine (run_induction (P := fun history _ => ∀ step ∈ history, step.before.ctx.Orderly ∧
    ∃ acts, Course step.operation step.answer acts ∧
      Path step.before.view acts step.after.view) hw (List.forall_mem_nil _) ?_ operations ha).2
  intro history w operation acts hw hcourse hpath h
  exact List.forall_mem_append.2 ⟨h, List.forall_mem_singleton.2 ⟨hw, acts, hcourse, hpath⟩⟩

theorem course_of_split {w : Worker ω ρ κ} (hw : w.ctx.Orderly) {operations : List (Operation ρ κ)}
    (ha : (w.afterAll operations).ctx.conns.slots.length ≤ 2 ^ 32)
    {earlier later : List (Step ω ρ κ)} {step : Step ω ρ κ}
    (h : w.steps operations = earlier ++ step :: later) :
    step.before.ctx.Orderly ∧ ∃ acts, Course step.operation step.answer acts ∧
      Path step.before.view acts step.after.view := by
  refine course_of_mem_steps hw operations ha step ?_
  rw [h]
  exact List.mem_append_cons_self

/-- Each step of a run can address its slots if the run can. -/
theorem addressable_of_mem_steps {w : Worker ω ρ κ} {operations : List (Operation ρ κ)}
    (ha : (w.afterAll operations).ctx.conns.slots.length ≤ 2 ^ 32) {step : Step ω ρ κ}
    (hmem : step ∈ w.steps operations) : step.after.ctx.conns.Addressable := by
  obtain ⟨earlier, later, heq⟩ := List.append_of_mem hmem
  obtain ⟨first, rest, hoperations, -, hbefore, -⟩ := steps_split heq
  rw [afterAll_of_split hoperations hbefore] at ha
  exact Nat.le_trans (slotCount_le_afterAll _ rest) ha

/-- What a step of a run comes to, a shorter run comes to. -/
theorem exists_run_of_mem_steps {w : Worker ω ρ κ} {operations : List (Operation ρ κ)}
    {step : Step ω ρ κ} (hmem : step ∈ w.steps operations) :
    ∃ first, step.before = w.afterAll first ∧
      step.after = w.afterAll (first ++ [step.operation]) := by
  obtain ⟨earlier, later, heq⟩ := List.append_of_mem hmem
  obtain ⟨first, rest, -, -, hbefore, -⟩ := steps_split heq
  refine ⟨first, hbefore, ?_⟩
  rw [afterAll_append, ← hbefore]
  rfl

/-- A run adds the events of its steps to the trace. -/
theorem trace_afterAll {w : Worker ω ρ κ} (hw : w.ctx.Orderly) {operations : List (Operation ρ κ)}
    (ha : (w.afterAll operations).ctx.conns.slots.length ≤ 2 ^ 32) :
    (w.afterAll operations).trace = w.trace ++ (w.steps operations).flatMap Step.events := by
  refine (run_induction (P := fun history w' =>
    w'.trace = w.trace ++ history.flatMap Step.events) hw (by simp) ?_ operations ha).2
  intro history w' operation acts _ _ hpath h
  have hlast : (Step.mk w' operation).after.trace = w'.trace ++ (Step.mk w' operation).events :=
    Step.trace_eq hpath
  rw [hlast, h, List.flatMap_append, List.flatMap_singleton, List.append_assoc]

/-- What a step of a run did stays in the trace. -/
theorem mem_trace_of_mem_events {w : Worker ω ρ κ} (hw : w.ctx.Orderly)
    {operations : List (Operation ρ κ)}
    (ha : (w.afterAll operations).ctx.conns.slots.length ≤ 2 ^ 32) :
    ∀ step ∈ w.steps operations, ∀ event ∈ step.events,
      event ∈ (w.afterAll operations).trace := by
  intro step hmem event hevent
  rw [trace_afterAll hw ha]
  exact List.mem_append_right _ (List.mem_flatMap.2 ⟨step, hmem, hevent⟩)

end Worker
end ConnPool
