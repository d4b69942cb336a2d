/-
  ConnPool.Proofs.Run.Lending

  Exclusive lending along runs.

  A connection is outstanding for a key if an acquire under that key answered
  its id, no reclaim of it was answered since, and it is live.  What a context
  marks as lent is what is outstanding, so nothing is lent to two callers, and
  nothing that was lent is forgotten.

  An id would be ambiguous once a slot has been vacated `2 ^ 32` times; the
  ledger is for runs that take fewer connections than that out of the arena.
-/

import ConnPool.Proofs.Run.Membership
import ConnPool.Proofs.Worker.Borrowing
import ConnPool.Proofs.Worker.Removals

namespace ConnPool

variable {ω ρ κ : Type} [Environment ω]

namespace Step

/-- Whether a step lent the connection under `id` for `key`. -/
def Lends (step : Step ω ρ κ) (id : ConnId) (key : PoolKey) : Prop :=
  step.operation.Lends step.answer id key

/-- Whether a step took the connection under `id` back. -/
def TakesBack (step : Step ω ρ κ) (id : ConnId) : Prop :=
  step.operation.TakesBack step.answer id

/-- How many connections a step took out of the arena. -/
def removals (step : Step ω ρ κ) : Nat :=
  removalsIn step.events

end Step

/-- How many connections were taken out of the arena. -/
def removalsOf (history : List (Step ω ρ κ)) : Nat :=
  (history.map Step.removals).sum

/-- What a step removed, as its events tell, is what its acts removed. -/
theorem Step.removals_eq {step : Step ω ρ κ} {acts : List (Act ρ κ)}
    (hcourse : Course step.operation step.answer acts)
    (hpath : Path step.before.view acts step.after.view) :
    step.removals = ConnPool.removals acts := by
  rw [removals, events_eq hpath, hcourse.removalsIn_events hpath]

theorem removalsOf_append_singleton (history : List (Step ω ρ κ)) (step : Step ω ρ κ) :
    removalsOf (history ++ [step]) = removalsOf history + step.removals := by
  rw [removalsOf, List.map_append, List.sum_append, List.map_singleton, List.sum_singleton]
  rfl

/-- Whether a history leaves the connection under `id` lent for `key`, and it
    lives. -/
def Outstanding (history : List (Step ω ρ κ)) (ctx : Context ρ κ) (id : ConnId) (key : PoolKey) :
    Prop :=
  (ctx.conn? id).isSome ∧
    Since (fun step => step.Lends id key) (fun step => step.TakesBack id) history

/-- What a history and the context that it leads to have to do with each
    other. -/
structure Ledger (history : List (Step ω ρ κ)) (ctx : Context ρ κ) : Prop where
  atMostRemoved : ctx.conns.AtMostRemoved (removalsOf history)
  issued : ∀ step ∈ history, ∀ id key, step.Lends id key → ctx.conns.Issued id
  outstanding_iff : ∀ id key, Outstanding history ctx id key ↔ ctx.Lent id key
  exclusive : ∀ earlier step, earlier ++ [step] <+: history → ∀ id key, step.Lends id key →
    ∀ other, ¬Outstanding earlier step.before.ctx id other

namespace Ledger

variable {history : List (Step ω ρ κ)} {w : Worker ω ρ κ} {operation : Operation ρ κ}
  {acts : List (Act ρ κ)}

theorem fresh (configs : Registry) (env : ω) :
    Ledger ([] : List (Step ω ρ κ)) (Worker.fresh configs env : Worker ω ρ κ).ctx where
  atMostRemoved := .empty
  issued := List.forall_mem_nil _
  outstanding_iff id key := by
    have hnone : (Worker.fresh configs env : Worker ω ρ κ).ctx.conn? id = none := rfl
    refine iff_of_false (fun h => ?_) (Context.not_lent_of_none hnone)
    exact Since.not_nil h.2
  exclusive earlier step h := by simp at h

/-- Each operation keeps the ledger. -/
theorem perform (h : Ledger history w.ctx) (hw : w.ctx.Orderly)
    (hcourse : Course operation (Step.mk w operation).answer acts)
    (hpath : Path w.view acts (Step.mk w operation).after.view)
    (hlt : removalsOf (history ++ [⟨w, operation⟩]) < 2 ^ 32) :
    Ledger (history ++ [⟨w, operation⟩]) (Step.mk w operation).after.ctx := by
  have hremovals : removalsOf (history ++ [⟨w, operation⟩]) =
      removalsOf history + removals acts := by
    rw [removalsOf_append_singleton]
    exact congrArg (removalsOf history + ·) (Step.removals_eq hcourse hpath)
  rw [hremovals] at hlt
  obtain ⟨hremoved, hrecycles⟩ := hpath.recycles hw h.atMostRemoved hlt
  have hlent : ∀ id key, (Step.mk w operation).after.ctx.Lent id key ↔
      (Step.mk w operation).Lends id key ∨ (w.ctx.Lent id key ∧
        ¬(Step.mk w operation).TakesBack id ∧
          ((Step.mk w operation).after.ctx.conn? id).isSome) :=
    fun id key => hcourse.lent_iff hpath hw
  constructor
  case atMostRemoved =>
    rw [hremovals]
    exact hremoved
  case issued =>
    refine List.forall_mem_append.2 ⟨fun step hmem id key hlends => ?_, ?_⟩
    · exact hrecycles.issued id (h.issued step hmem id key hlends)
    · refine List.forall_mem_singleton.2 fun id key hlends => ?_
      obtain ⟨conn, hconn, -⟩ := (hlent id key).2 (.inl hlends)
      exact Arena.issued_of_get? hconn
  case outstanding_iff =>
    intro id key
    rw [hlent, Outstanding, Since.append_singleton]
    constructor
    · rintro ⟨hlive, hlends | ⟨hsince, hback⟩⟩
      · exact .inl hlends
      · -- it was live before, since ids do not come back
        refine .inr ⟨(h.outstanding_iff id key).1 ⟨?_, hsince⟩, hback, hlive⟩
        obtain ⟨earlier, step, later, rfl, hstep, -⟩ := hsince
        have hissued := h.issued step (by simp) id key hstep
        exact hrecycles.live id hissued hlive
    · rintro (hlends | ⟨hbefore, hback, hlive⟩)
      · exact ⟨((hlent id key).2 (.inl hlends)).live, .inl hlends⟩
      · exact ⟨hlive, .inr ⟨((h.outstanding_iff id key).2 hbefore).2, hback⟩⟩
  case exclusive =>
    intro earlier step hprefix id key hlends other
    rcases List.prefix_concat_iff.1 hprefix with heq | hprefix
    · -- the step is the last one
      obtain ⟨rfl, hlast⟩ := List.append_inj' heq rfl
      obtain rfl := List.singleton_inj.1 hlast
      rw [h.outstanding_iff]
      exact hcourse.not_lent_of_lends hpath hw hlends other
    · exact h.exclusive earlier step hprefix id key hlends other

end Ledger

namespace Worker

/-- After every run, what is outstanding is what the context marks as lent, and
    every acquire of the run answered an id that was not outstanding. -/
theorem outstanding_iff_lent (configs : Registry) (env : ω) (operations : List (Operation ρ κ))
    (ha : ((fresh configs env).afterAll operations).ctx.conns.slots.length ≤ 2 ^ 32)
    (hremovals : removalsOf ((fresh configs env).steps operations) < 2 ^ 32) :
    (∀ id key, Outstanding ((fresh configs env).steps operations)
        ((fresh configs env).afterAll operations).ctx id key ↔
      ((fresh configs env).afterAll operations).ctx.Lent id key) ∧
    ∀ earlier step later, (fresh configs env).steps operations = earlier ++ step :: later →
      ∀ id key, step.Lends id key → ∀ other, ¬Outstanding earlier step.before.ctx id other := by
  have hledger := run_induction
    (P := fun history w => removalsOf history < 2 ^ 32 → Ledger history w.ctx)
    (Context.Orderly.fresh configs : (fresh configs env : Worker ω ρ κ).ctx.Orderly)
    (fun _ => .fresh configs env) ?_ operations ha
  · have h := hledger.2 hremovals
    refine ⟨h.outstanding_iff, fun earlier step later heq => ?_⟩
    exact h.exclusive earlier step ⟨later, by rw [heq, List.append_assoc]; rfl⟩
  · intro history w operation acts hw hcourse hpath hledger hlt
    refine Ledger.perform (hledger ?_) hw hcourse hpath hlt
    -- an operation only adds removals
    rw [removalsOf, List.map_append, List.sum_append] at hlt
    exact Nat.lt_of_le_of_lt (Nat.le_add_right _ _) hlt

theorem outstanding_iff_lent_overflowRun :
    ((fresh smallPool slowStage).afterAll overflowRun).ctx.conns.slots.length ≤ 2 ^ 32 ∧
      removalsOf ((fresh smallPool slowStage).steps overflowRun) < 2 ^ 32 ∧
      ∀ id key, Outstanding ((fresh smallPool slowStage).steps overflowRun)
          ((fresh smallPool slowStage).afterAll overflowRun).ctx id key ↔
        ((fresh smallPool slowStage).afterAll overflowRun).ctx.Lent id key :=
  have ha := by decide +kernel
  have hremovals := by decide +kernel
  ⟨ha, hremovals, (outstanding_iff_lent smallPool slowStage overflowRun ha hremovals).1⟩

end Worker
end ConnPool
