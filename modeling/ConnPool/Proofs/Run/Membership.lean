/-
  ConnPool.Proofs.Run.Membership

  The membership invariant along runs: whatever the host asks for and the
  environment answers, the collections account for every live connection.
-/

import ConnPool.Proofs.Context.Accounted
import ConnPool.Proofs.Run.Steps
import ConnPool.Scripted

namespace ConnPool
namespace Worker

variable {ω ρ κ : Type} [Environment ω]

/-- After every run from a fresh context, the collections account for every
    live connection.  Ids hold 32-bit slot numbers, so this is for contexts with
    at most `2 ^ 32` slots. -/
theorem accounted_of_run (configs : Registry) (env : ω) (operations : List (Operation ρ κ))
    (ha : ((fresh configs env).performAll operations).2.ctx.conns.slots.length ≤ 2 ^ 32) :
    ((fresh configs env).performAll operations).2.ctx.Accounted := by
  rw [performAll_eq] at ha ⊢
  have horderly := run_induction (P := fun _ _ => True)
    (Context.Orderly.fresh configs : (fresh configs env : Worker ω ρ κ).ctx.Orderly) trivial
    (fun _ _ _ _ _ _ _ _ => trivial) operations ha
  exact horderly.1.accounted ha

/-- One pool, of at most one connection. -/
def smallPool : Registry :=
  KeyMap.empty.insert "k" ⟨"k", .uri "u", 1, 1, 1⟩

/-- A client whose first session is slow to connect. -/
def slowStage : Scripted.Stage :=
  { scripts := [{ polls := [(.reading, none)] }] }

/-- The pool lends two connections, one of them in its stead, and takes that
    one back; the other one is to be closed once it is connected. -/
def overflowRun : List (Operation String String) :=
  [.acquire "k" none (some "first"), .acquire "k" none (some "second"), .reclaim ⟨1, 0⟩,
    .disconnect ⟨0, 0⟩ none, .acquire "k" none none]

theorem accounted_of_overflowRun :
    ((fresh smallPool slowStage).performAll overflowRun).2.ctx.conns.slots.length ≤ 2 ^ 32 ∧
      ((fresh smallPool slowStage).performAll overflowRun).2.ctx.Accounted :=
  have ha := by decide +kernel
  ⟨ha, accounted_of_run smallPool slowStage overflowRun ha⟩

end Worker
end ConnPool
