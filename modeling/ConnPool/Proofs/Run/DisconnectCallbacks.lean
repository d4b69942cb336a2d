/-
  ConnPool.Proofs.Run.DisconnectCallbacks

  What becomes of disconnect callbacks.

  A disconnect callback is called once, by the time that its connection is
  gone, if the connection was left alone in the meantime.  It is lost if the
  connection was taken back, and also if another disconnect was recorded: there
  is room for one callback, and the later one replaces the earlier one, even if
  it is none at all.
-/

import ConnPool.Proofs.Run.Callbacks
import ConnPool.Proofs.Run.Lending
import ConnPool.Proofs.Worker.Waiting

namespace ConnPool

variable {ω ρ κ : Type} [Environment ω]

/-- Whether a step makes the connection under `id` forget its disconnect
    callback: it takes it back, or disconnects it once more. -/
def Step.Supersedes (step : Step ω ρ κ) (id : ConnId) : Prop :=
  step.TakesBack id ∨ ∃ onDisconnect, step.Disconnects id onDisconnect

/-- How often a disconnect callback was called. -/
def Worker.disconnectCalls [DecidableEq κ] (w : Worker ω ρ κ) (callback : κ) : Nat :=
  w.trace.countP (Event.calls .disconnect callback)

/-- In a history the connection under `id` was disconnected, now or later, with
    a callback that was handed over just this once.  It lived on through the
    steps `later`, and is gone after the last of them. -/
structure Disconnected [DecidableEq κ] (history : List (Step ω ρ κ)) (w : Worker ω ρ κ)
    (id : ConnId) (callback : κ) (later : List (Step ω ρ κ)) : Prop where
  recorded : ∃ earlier step, history = earlier ++ step :: later ∧
    step.Disconnects id (some callback)
  once : handedIn .disconnect callback history = 1
  live : ∀ step ∈ later, (step.before.ctx.conn? id).isSome
  gone : w.ctx.conn? id = none

/-! ## Steps -/

namespace Step

variable {step : Step ω ρ κ} {id : ConnId} {callback : κ}

theorem Disconnects.handed (h : step.Disconnects id (some callback)) :
    step.handed .disconnect = some callback := by
  obtain ⟨hoperation, hanswer⟩ := h
  show step.operation.onDisconnect? step.answer = some callback
  rw [hoperation, hanswer]
  rfl

/-- A disconnect callback is dropped by steps that supersede it. -/
theorem Drops.supersedes (h : step.Drops .disconnect callback) :
    ∃ id, step.before.ctx.Waits id callback ∧ step.Supersedes id := by
  obtain ⟨id, conn, hconn, -, hkeeps, hdrops⟩ := h
  refine ⟨id, ⟨conn, hconn, hkeeps⟩, ?_⟩
  generalize hoperation : step.operation = operation at hdrops
  generalize hanswer : step.answer = answer at hdrops
  cases hdrops with
  | reclaimed _ => exact .inl ⟨hoperation, hanswer⟩
  | replaced onDisconnect => exact .inr ⟨onDisconnect, hoperation, hanswer⟩

theorem Supersedes.drops (h : step.Supersedes id) (hc : step.before.ctx.Coherent)
    (hwaits : step.before.ctx.Waits id callback) : step.Drops .disconnect callback := by
  obtain ⟨conn, hconn, hkeeps⟩ := hwaits
  refine ⟨id, conn, hconn, (hc id conn hconn).connecting_of_hung .disconnect hkeeps, hkeeps, ?_⟩
  rcases h with ⟨hoperation, hanswer⟩ | ⟨onDisconnect, hoperation, hanswer⟩
  · rw [hoperation, hanswer]
    exact .reclaimed .disconnect
  · rw [hoperation, hanswer]
    exact .replaced onDisconnect

end Step

/-- A callback that waits was recorded. -/
theorem CallbackLedger.disconnects_of_waits [DecidableEq κ] {history : List (Step ω ρ κ)}
    {w : Worker ω ρ κ} (h : CallbackLedger history w) {id : ConnId} {callback : κ}
    (hwaits : w.ctx.Waits id callback) : ∃ step ∈ history, step.Disconnects id (some callback) := by
  obtain ⟨conn, hconn, hkeeps⟩ := hwaits
  have hpending := (h.coherent id conn hconn).pending (by rw [hkeeps]; simp)
  rw [← hkeeps]
  exact h.recorded id conn hconn hpending

/-! ## Handed over once -/

/-- What comes after something of a kind that there is not in `earlier`, is in
    `later`. -/
theorem mem_later_of_split {α : Type} {P : α → Prop} {first last earlier later : List α} {x y : α}
    (h : first ++ y :: last = earlier ++ x :: later) (hearlier : ∀ z ∈ earlier, ¬P z)
    (hfirst : ∃ z ∈ first, P z) : y ∈ later := by
  obtain ⟨z, hz, hPz⟩ := hfirst
  rcases List.append_eq_append_iff.1 h with ⟨middle, rfl, hmiddle⟩ | ⟨middle, rfl, hmiddle⟩
  · exact absurd hPz (hearlier z (List.mem_append_left _ hz))
  · cases middle with
    | nil =>
        rw [List.append_nil] at hz
        exact absurd hPz (hearlier z hz)
    | cons head tail =>
        obtain ⟨-, rfl⟩ := List.cons.inj hmiddle
        exact List.mem_append_right _ List.mem_cons_self

theorem not_handed_of_once [DecidableEq κ] {earlier later : List (Step ω ρ κ)}
    {step : Step ω ρ κ} {callback : κ} {hook : Hook}
    (honce : handedIn hook callback (earlier ++ step :: later) = 1)
    (hstep : step.handed hook = some callback) :
    (∀ other ∈ earlier, other.handed hook ≠ some callback) ∧
      ∀ other ∈ later, other.handed hook ≠ some callback := by
  rw [handedIn, List.countP_append, List.countP_cons, if_pos (decide_eq_true hstep)] at honce
  -- the one time it was handed over is this step
  have hearlier : earlier.countP (fun step => step.handed hook = some callback) = 0 := by omega
  have hlater : later.countP (fun step => step.handed hook = some callback) = 0 := by omega
  rw [List.countP_eq_zero] at hearlier hlater
  exact ⟨fun other hmem heq => hearlier other hmem (decide_eq_true heq),
    fun other hmem heq => hlater other hmem (decide_eq_true heq)⟩

/-- What was handed over once, came with one step. -/
theorem eq_of_handed_once [DecidableEq κ] {history : List (Step ω ρ κ)} {callback : κ} {hook : Hook}
    (honce : handedIn hook callback history = 1) {step other : Step ω ρ κ} (hmem : step ∈ history)
    (hstep : step.handed hook = some callback) (hmem' : other ∈ history)
    (hother : other.handed hook = some callback) : other = step := by
  obtain ⟨earlier, later, rfl⟩ := List.append_of_mem hmem
  obtain ⟨hearlier, hlater⟩ := not_handed_of_once honce hstep
  rcases List.mem_append.1 hmem' with hmem' | hmem'
  · exact absurd hother (hearlier other hmem')
  · rcases List.mem_cons.1 hmem' with rfl | hmem'
    · rfl
    · exact absurd hother (hlater other hmem')

namespace Disconnected

variable [DecidableEq κ] {history later : List (Step ω ρ κ)} {w : Worker ω ρ κ} {id : ConnId}
  {callback : κ}

/-- There is one connection that the callback can be recorded for. -/
theorem eq_of_disconnects (h : Disconnected history w id callback later) {other : ConnId}
    (hother : ∃ step ∈ history, step.Disconnects other (some callback)) : other = id := by
  obtain ⟨⟨earlier, step, rfl, hstep⟩, honce, -, -⟩ := h
  obtain ⟨s, hmem, hs⟩ := hother
  obtain rfl := eq_of_handed_once honce (List.mem_append_right _ List.mem_cons_self) hstep.handed
    hmem hs.handed
  cases hs.1.symm.trans hstep.1
  rfl

/-- What comes after a step that recorded the callback is later. -/
theorem mem_later (h : Disconnected history w id callback later) {first last : List (Step ω ρ κ)}
    {other : Step ω ρ κ} (heq : history = first ++ other :: last)
    (hfirst : ∃ step ∈ first, step.handed .disconnect = some callback) : other ∈ later := by
  obtain ⟨⟨earlier, step, hsplit, hstep⟩, honce, -, -⟩ := h
  rw [hsplit] at honce heq
  exact mem_later_of_split heq.symm (not_handed_of_once honce hstep.handed).1 hfirst

/-- The callback is kept nowhere, since only the connection that is gone could
    keep it. -/
theorem holds_eq_zero (h : Disconnected history w id callback later)
    (hledger : CallbackLedger history w) (ha : w.ctx.conns.Addressable) :
    w.ctx.holds .disconnect callback = 0 := by
  refine Nat.eq_zero_of_not_pos fun hpos => ?_
  obtain ⟨other, conn, hconn, hkeeps⟩ := (Context.holds_pos_iff .disconnect callback ha).1 hpos
  have hother := h.eq_of_disconnects (hledger.disconnects_of_waits ⟨conn, hconn, hkeeps⟩)
  rw [hother, h.gone] at hconn
  cases hconn

end Disconnected

/-! ## Runs -/

namespace Worker

variable {w : Worker ω ρ κ} {id : ConnId} {callback : κ}

/-- A callback that waits for as long as its connection lives is dropped by the
    first step that supersedes it. -/
theorem exists_drops_of_supersedes {rest : List (Operation ρ κ)} (hw : w.ctx.Orderly)
    (hc : w.ctx.Coherent) (ha : (w.afterAll rest).ctx.conns.slots.length ≤ 2 ^ 32)
    (hlive : ∀ step ∈ w.steps rest, (step.before.ctx.conn? id).isSome)
    (hwaits : (w.ctx.conn? id).isSome → w.ctx.Waits id callback)
    (hsupersedes : ∃ step ∈ w.steps rest, step.Supersedes id) :
    ∃ step ∈ w.steps rest, step.Drops .disconnect callback := by
  -- over the run: it waits through every step up to the first that supersedes it
  induction rest generalizing w with
  | nil =>
      obtain ⟨step, hmem, -⟩ := hsupersedes
      cases hmem
  | cons operation rest ih =>
      obtain ⟨hfirst, hrest⟩ := List.forall_mem_cons.1 hlive
      by_cases hnow : (Step.mk w operation).Supersedes id
      · exact ⟨_, List.mem_cons_self, hnow.drops hc (hwaits hfirst)⟩
      · have hslots : (Step.mk w operation).after.ctx.conns.slots.length ≤ 2 ^ 32 :=
          Nat.le_trans (slotCount_le_afterAll _ rest) ha
        obtain ⟨acts, hcourse, hpath⟩ :=
          perform_course hw (rfl : w.perform operation = (_, _)) hslots
        have hlater : ∃ step ∈ (Step.mk w operation).after.steps rest, step.Supersedes id := by
          obtain ⟨step, hmem, hstep⟩ := hsupersedes
          rcases List.mem_cons.1 hmem with rfl | hmem
          · exact absurd hstep hnow
          · exact ⟨step, hmem, hstep⟩
        have hnext : ((Step.mk w operation).after.ctx.conn? id).isSome →
            (Step.mk w operation).after.ctx.Waits id callback := fun halive =>
          hcourse.waits hpath hw halive (fun hback => hnow (.inl hback))
            (fun onDisconnect hagain => hnow (.inr ⟨onDisconnect, hagain⟩)) (hwaits hfirst)
        obtain ⟨step, hmem, hdrops⟩ :=
          ih (hpath.orderly hw) (hpath.coherent hw hc) ha hrest hnext hlater
        exact ⟨step, List.mem_cons_of_mem _ hmem, hdrops⟩

section

variable [DecidableEq κ] {configs : Registry} {env : ω} {operations : List (Operation ρ κ)}
  {later : List (Step ω ρ κ)}

/-- A step that discards the callback comes later, and supersedes it. -/
theorem exists_supersedes_of_discards
    (ha : ((fresh configs env).afterAll operations).ctx.conns.slots.length ≤ 2 ^ 32)
    (h : Disconnected ((fresh configs env).steps operations)
      ((fresh configs env).afterAll operations) id callback later)
    (hdiscards : ∃ step ∈ (fresh configs env).steps operations,
      step.Discards .disconnect callback) : ∃ step ∈ later, step.Supersedes id := by
  obtain ⟨step, hmem, ⟨hconnect, -⟩ | hdrops⟩ := hdiscards
  · cases hconnect
  · obtain ⟨other, hwaits, hsupersedes⟩ := hdrops.supersedes
    obtain ⟨first, last, heq⟩ := List.append_of_mem hmem
    -- what it drops was recorded before
    obtain ⟨s, hs, hrecorded⟩ := (callbackLedger_of_split ha heq).disconnects_of_waits hwaits
    have hmemSteps : s ∈ (fresh configs env).steps operations := by
      rw [heq]
      exact List.mem_append_left _ hs
    obtain rfl := h.eq_of_disconnects ⟨s, hmemSteps, hrecorded⟩
    exact ⟨step, h.mem_later heq ⟨s, hs, hrecorded.handed⟩, hsupersedes⟩

/-- If a later step supersedes the callback, the first one to do so discards
    it. -/
theorem exists_discards_of_supersedes
    (ha : ((fresh configs env).afterAll operations).ctx.conns.slots.length ≤ 2 ^ 32)
    (h : Disconnected ((fresh configs env).steps operations)
      ((fresh configs env).afterAll operations) id callback later)
    (hsupersedes : ∃ step ∈ later, step.Supersedes id) :
    ∃ step ∈ (fresh configs env).steps operations, step.Discards .disconnect callback := by
  obtain ⟨⟨earlier, step, hsplit, hstep⟩, -, hlive, -⟩ := h
  obtain ⟨hw, acts, hcourse, hpath⟩ :=
    course_of_split (Context.Orderly.fresh configs) ha hsplit
  have hc := (callbackLedger_of_split ha hsplit).coherent
  obtain ⟨first, rest, hoperations, -, hbefore, hrest⟩ := steps_split hsplit
  have hslots : (step.after.afterAll rest).ctx.conns.slots.length ≤ 2 ^ 32 := by
    rw [hoperations, afterAll_append, ← hbefore] at ha
    exact ha
  rw [hrest] at hlive hsupersedes
  obtain ⟨other, hother, hdrops⟩ := exists_drops_of_supersedes (hpath.orderly hw)
    (hpath.coherent hw hc) hslots hlive
    (fun halive => hcourse.waits_of_disconnects hpath hw halive hstep) hsupersedes
  refine ⟨other, ?_, .inr hdrops⟩
  rw [hsplit, hrest]
  exact List.mem_append_right _ (List.mem_cons_of_mem _ hother)

end

/-- When a connection that was disconnected is gone, its callback was called
    once if no later step superseded it, and never if one did. -/
theorem disconnectCalls_of_run [DecidableEq κ] (configs : Registry) (env : ω)
    (operations : List (Operation ρ κ))
    (ha : ((fresh configs env).afterAll operations).ctx.conns.slots.length ≤ 2 ^ 32)
    {later : List (Step ω ρ κ)}
    (h : Disconnected ((fresh configs env).steps operations)
      ((fresh configs env).afterAll operations) id callback later) :
    (((fresh configs env).afterAll operations).disconnectCalls callback = 1 ∧
        ∀ step ∈ later, ¬step.Supersedes id) ∨
      (((fresh configs env).afterAll operations).disconnectCalls callback = 0 ∧
        ∃ step ∈ later, step.Supersedes id) := by
  obtain ⟨-, hledger⟩ := callbackLedger_of_run configs env operations ha
  have hbalanced := hledger.balanced .disconnect callback
  rw [h.once, h.holds_eq_zero hledger ha] at hbalanced
  -- nothing keeps it now, so it was called unless it was discarded
  have hdiscarded : 0 < discardedIn .disconnect callback ((fresh configs env).steps operations) ↔
      ∃ step ∈ later, step.Supersedes id := by
    rw [discardedIn_pos_iff]
    exact ⟨exists_supersedes_of_discards ha h, exists_discards_of_supersedes ha h⟩
  show (List.countP _ _ = 1 ∧ _) ∨ (List.countP _ _ = 0 ∧ _)
  by_cases hsupersedes : ∃ step ∈ later, step.Supersedes id
  · have hpos := hdiscarded.2 hsupersedes
    exact .inr ⟨by omega, hsupersedes⟩
  · have hnone := Nat.eq_zero_of_not_pos fun hpos => hsupersedes (hdiscarded.1 hpos)
    refine .inl ⟨by omega, fun step hmem hstep => hsupersedes ⟨step, hmem, hstep⟩⟩

/-- A connection is closed as soon as it is connected. -/
def awaitedRun : List (Operation String String) :=
  [.connectUri none none "u", .disconnect ⟨0, 0⟩ (some "first"), .advance ⟨0, 0⟩ .readable]

theorem disconnectCalls_awaited :
    Disconnected ((fresh .empty slowStage).steps awaitedRun)
        ((fresh .empty slowStage).afterAll awaitedRun) ⟨0, 0⟩ "first"
        (((fresh .empty slowStage).steps awaitedRun).drop 2) ∧
      ((((fresh .empty slowStage).afterAll awaitedRun).disconnectCalls "first" = 1 ∧
          ∀ step ∈ ((fresh .empty slowStage).steps awaitedRun).drop 2,
            ¬step.Supersedes ⟨0, 0⟩) ∨
        (((fresh .empty slowStage).afterAll awaitedRun).disconnectCalls "first" = 0 ∧
          ∃ step ∈ ((fresh .empty slowStage).steps awaitedRun).drop 2,
            step.Supersedes ⟨0, 0⟩)) := by
  have h : Disconnected ((fresh .empty slowStage).steps awaitedRun)
      ((fresh .empty slowStage).afterAll awaitedRun) ⟨0, 0⟩ "first"
      (((fresh .empty slowStage).steps awaitedRun).drop 2) := by
    constructor
    case recorded => exact ⟨[_], _, rfl, rfl, rfl⟩
    case once => decide +kernel
    case live => decide +kernel
    case gone => decide +kernel
  exact ⟨h, disconnectCalls_of_run .empty slowStage awaitedRun (by decide +kernel) h⟩

/-- A connection is closed as soon as it is connected, and nobody is told. -/
def twiceRun : List (Operation String String) :=
  [.connectUri none none "u", .disconnect ⟨0, 0⟩ (some "first"), .disconnect ⟨0, 0⟩ none,
    .advance ⟨0, 0⟩ .readable]

/-- A disconnect that is recorded again, without a callback this time, takes
    the callback away. -/
theorem not_called_of_disconnected_twice :
    Disconnected ((fresh .empty slowStage).steps twiceRun)
        ((fresh .empty slowStage).afterAll twiceRun) ⟨0, 0⟩ "first"
        (((fresh .empty slowStage).steps twiceRun).drop 2) ∧
      (∀ step ∈ ((fresh .empty slowStage).steps twiceRun).drop 2, ¬step.TakesBack ⟨0, 0⟩) ∧
      ((fresh .empty slowStage).afterAll twiceRun).disconnectCalls "first" = 0 := by
  refine ⟨?_, ?_, ?_⟩
  · constructor
    case recorded => exact ⟨[_], _, rfl, rfl, rfl⟩
    case once => decide +kernel
    case live => decide +kernel
    case gone => decide +kernel
  · simp [steps, twiceRun, Step.TakesBack, Operation.TakesBack]
  · decide +kernel

end Worker
end ConnPool
