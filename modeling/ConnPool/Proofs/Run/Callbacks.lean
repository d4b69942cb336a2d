/-
  ConnPool.Proofs.Run.Callbacks

  The ledger of callbacks along runs: for both kinds and each callback,

      handed over  =  kept  +  called  +  discarded

  where `handed over` and `discarded` count steps of the run, `kept` counts
  live connections, and `called` counts events.
-/

import ConnPool.Proofs.Run.Steps
import ConnPool.Proofs.Worker.Handing

namespace ConnPool

variable {ω ρ κ : Type} [Environment ω]

namespace Step

/-- The callback of a kind that a step took over from its caller, or was asked
    to. -/
def handed (step : Step ω ρ κ) : Hook → Option κ
  | .connect => step.operation.onConnect?
  | .disconnect => step.operation.onDisconnect? step.answer

/-- Whether a step disconnected the connection under `id`, or recorded that it
    is to be disconnected. -/
def Disconnects (step : Step ω ρ κ) (id : ConnId) (onDisconnect : Option κ) : Prop :=
  step.operation.Disconnects step.answer id onDisconnect

/-- Whether a step refused an opening, and so the callback that came with it. -/
def Refuses (step : Step ω ρ κ) (callback : κ) : Prop :=
  step.operation.onConnect? = some callback ∧ step.answer.isRefusal = true

/-- Whether a step dropped a callback that a connection kept. -/
def Drops (step : Step ω ρ κ) (hook : Hook) (callback : κ) : Prop :=
  ∃ id conn, step.before.ctx.conn? id = some conn ∧ conn.state = .connecting ∧
    conn.hung hook = some callback ∧
      Operation.Drops id conn step.events step.operation step.answer hook

/-- Whether a callback was lost to a step without being called. -/
def Discards (step : Step ω ρ κ) (hook : Hook) (callback : κ) : Prop :=
  (hook = .connect ∧ step.Refuses callback) ∨ step.Drops hook callback

end Step

theorem Connection.Coherent.connecting_of_hung {conn : Connection ρ κ} (h : conn.Coherent)
    (hook : Hook) {callback : κ} (hhung : conn.hung hook = some callback) :
    conn.state = .connecting := by
  refine h.connecting fun hstate => ?_
  cases hook with
  | connect =>
      rw [Connection.hung, (h.connected hstate).1] at hhung
      cases hhung
  | disconnect =>
      rw [Connection.hung, h.onDisconnect_of_connected hstate] at hhung
      cases hhung

namespace Step

variable {step : Step ω ρ κ} {acts : List (Act ρ κ)} {hook : Hook} {callback : κ}

/-- A step drops a callback when one of its acts does. -/
theorem drops_iff (hcourse : Course step.operation step.answer acts)
    (hpath : Path step.before.view acts step.after.view) (hc : step.before.ctx.Coherent) :
    step.Drops hook callback ↔ ∃ act ∈ acts, act.dropped hook = some callback := by
  rw [Drops, events_eq hpath]
  constructor
  · rintro ⟨id, conn, hconn, -, hhung, hdrops⟩
    exact hcourse.exists_dropped hpath hc hconn hhung hdrops
  · rintro ⟨act, hmem, hdropped⟩
    obtain ⟨id, conn, hconn, hhung, hdrops⟩ := hcourse.drops hpath hmem hdropped
    exact ⟨id, conn, hconn, (hc id conn hconn).connecting_of_hung hook hhung, hhung, hdrops⟩

/-- A step that opens nothing refuses nothing. -/
theorem Drops.not_refuses (h : step.Drops hook callback) (other : κ) : ¬step.Refuses other := by
  rintro ⟨honConnect, -⟩
  obtain ⟨id, conn, -, -, -, hdrops⟩ := h
  -- an operation that drops a callback comes with no connect callback
  generalize step.operation = operation at honConnect hdrops
  generalize step.answer = answer at hdrops
  cases hdrops with
  | reclaimed _ | overtaken _ _ _ _ | replaced _ => cases honConnect

variable [DecidableEq κ]

open scoped Classical in
/-- What is kept before a step or handed over to it is kept after it, called by
    it or discarded. -/
theorem holds_eq (step : Step ω ρ κ) (hook : Hook) (callback : κ)
    (hcourse : Course step.operation step.answer acts)
    (hpath : Path step.before.view acts step.after.view) (hw : step.before.ctx.Orderly)
    (hc : step.before.ctx.Coherent) :
    step.before.ctx.holds hook callback + tally (step.handed hook) callback =
      step.after.ctx.holds hook callback + step.events.countP (Event.calls hook callback) +
        if step.Discards hook callback then 1 else 0 := by
  -- the ledger of the acts, with what they take and drop told by the step
  have hledger : step.before.ctx.holds hook callback + takenBy acts hook callback =
      step.after.ctx.holds hook callback + step.events.countP (Event.calls hook callback) +
        droppedBy acts hook callback := by
    rw [events_eq hpath]
    exact hpath.holds_eq hw hc hook callback
  have hle := hcourse.droppedBy_le_one hook callback
  have hdrops : 0 < droppedBy acts hook callback ↔ step.Drops hook callback :=
    droppedBy_pos_iff.trans (drops_iff hcourse hpath hc).symm
  cases hook with
  | connect =>
      have htaken := hcourse.takenBy_connect callback
      show _ + tally step.operation.onConnect? callback = _
      by_cases hrefuses : step.Refuses callback
      · -- what is refused is not taken, and nothing else is dropped
        have hnot : ¬step.Drops .connect callback := fun h => h.not_refuses callback hrefuses
        rw [if_pos (show step.Discards .connect callback from .inl ⟨rfl, hrefuses⟩)]
        rw [← hdrops] at hnot
        rw [if_pos hrefuses.2] at htaken
        have hone : tally step.operation.onConnect? callback = 1 := if_pos hrefuses.1
        omega
      · have hiff : step.Discards .connect callback ↔ step.Drops .connect callback := by
          simp [Discards, hrefuses]
        have hrest : (if step.answer.isRefusal = true then
            tally step.operation.onConnect? callback else 0) = 0 := by
          split
          · rename_i hrefusal
            exact if_neg fun honConnect => hrefuses ⟨honConnect, hrefusal⟩
          · rfl
        rw [hiff, ← hdrops]
        split <;> omega
  | disconnect =>
      have htaken := hcourse.takenBy_disconnect callback
      have hiff : step.Discards .disconnect callback ↔ step.Drops .disconnect callback := by
        simp [Discards]
      rw [hiff, ← hdrops]
      show _ + tally (step.operation.onDisconnect? step.answer) callback = _
      split <;> omega

end Step

/-! ## Histories -/

section

variable (hook : Hook) (callback : κ)

/-- How often a callback was handed over. -/
def handedIn [DecidableEq κ] (history : List (Step ω ρ κ)) : Nat :=
  history.countP fun step => step.handed hook = some callback

open scoped Classical in
/-- How often a callback was discarded. -/
noncomputable def discardedIn (history : List (Step ω ρ κ)) : Nat :=
  history.countP fun step => step.Discards hook callback

open scoped Classical in
theorem discardedIn_pos_iff {history : List (Step ω ρ κ)} :
    0 < discardedIn hook callback history ↔ ∃ step ∈ history, step.Discards hook callback := by
  rw [discardedIn, List.countP_pos_iff]
  simp only [decide_eq_true_eq]

theorem handedIn_append_singleton [DecidableEq κ] (history : List (Step ω ρ κ))
    (step : Step ω ρ κ) :
    handedIn hook callback (history ++ [step]) =
      handedIn hook callback history + tally (step.handed hook) callback := by
  rw [handedIn, List.countP_append, List.countP_singleton, tally]
  simp only [decide_eq_true_eq]
  rfl

open scoped Classical in
theorem discardedIn_append_singleton (history : List (Step ω ρ κ)) (step : Step ω ρ κ) :
    discardedIn hook callback (history ++ [step]) =
      discardedIn hook callback history + if step.Discards hook callback then 1 else 0 := by
  rw [discardedIn, List.countP_append, List.countP_singleton]
  simp only [decide_eq_true_eq]
  rfl

end

/-- What a history and the worker that it leads to have to do with each
    other, as to callbacks. -/
structure CallbackLedger [DecidableEq κ] (history : List (Step ω ρ κ)) (w : Worker ω ρ κ) :
    Prop where
  coherent : w.ctx.Coherent
  balanced : ∀ hook callback, handedIn hook callback history =
    w.ctx.holds hook callback + w.trace.countP (Event.calls hook callback) +
      discardedIn hook callback history
  recorded : ∀ id conn, w.ctx.conn? id = some conn → conn.disconnectPending = true →
    ∃ step ∈ history, step.Disconnects id conn.onDisconnect

namespace CallbackLedger

variable [DecidableEq κ] {history : List (Step ω ρ κ)} {w : Worker ω ρ κ}

theorem fresh (configs : Registry) (env : ω) :
    CallbackLedger ([] : List (Step ω ρ κ)) (Worker.fresh configs env : Worker ω ρ κ) where
  coherent id conn hconn := by cases hconn
  balanced hook callback := rfl
  recorded id conn hconn := by cases hconn

/-- Each operation keeps the ledger. -/
theorem perform (h : CallbackLedger history w) (hw : w.ctx.Orderly) {operation : Operation ρ κ}
    {acts : List (Act ρ κ)} (hcourse : Course operation (Step.mk w operation).answer acts)
    (hpath : Path w.view acts (Step.mk w operation).after.view) :
    CallbackLedger (history ++ [⟨w, operation⟩]) (Step.mk w operation).after := by
  constructor
  case coherent => exact hpath.coherent hw h.coherent
  case balanced =>
    intro hook callback
    have hbefore := h.balanced hook callback
    have hstep := (Step.mk w operation).holds_eq hook callback hcourse hpath hw h.coherent
    have htrace : (Step.mk w operation).after.trace =
        w.trace ++ (Step.mk w operation).events := Step.trace_eq hpath
    rw [handedIn_append_singleton, discardedIn_append_singleton, htrace, List.countP_append]
    simp only at hstep
    omega
  case recorded =>
    intro id conn hconn hpending
    -- what waits now waited before, or this operation recorded it
    rcases hpath.pending hw hconn hpending with ⟨old, hold, hwaits, heq⟩ | ⟨old, hmem⟩
    · obtain ⟨step, hstep, hrecorded⟩ := h.recorded id old hold hwaits
      exact ⟨step, List.mem_append_left _ hstep, heq ▸ hrecorded⟩
    · exact ⟨_, List.mem_append_right _ List.mem_cons_self, hcourse.belongsTo _ hmem⟩

section

variable {hook : Hook} {callback : κ}

/-- What a connection keeps has not been called. -/
theorem calls_of_kept (h : CallbackLedger history w) (ha : w.ctx.conns.Addressable)
    (honce : handedIn hook callback history = 1) {id : ConnId} {conn : Connection ρ κ}
    (hconn : w.ctx.conn? id = some conn) (hkeeps : conn.hung hook = some callback) :
    w.trace.countP (Event.calls hook callback) = 0 := by
  have hbalanced := h.balanced hook callback
  have hkept := (Context.holds_pos_iff hook callback ha).2 ⟨id, conn, hconn, hkeeps⟩
  omega

/-- What was called has been called once. -/
theorem calls_of_called (h : CallbackLedger history w) (honce : handedIn hook callback history = 1)
    {event : Event ρ κ} (hmem : event ∈ w.trace) (hcalls : event.calls hook callback = true) :
    w.trace.countP (Event.calls hook callback) = 1 := by
  have hbalanced := h.balanced hook callback
  have hcalled : 0 < w.trace.countP (Event.calls hook callback) :=
    List.countP_pos_iff.2 ⟨event, hmem, hcalls⟩
  omega

/-- What was discarded is never called. -/
theorem calls_of_discarded (h : CallbackLedger history w)
    (honce : handedIn hook callback history = 1) {step : Step ω ρ κ} (hmem : step ∈ history)
    (hdiscards : step.Discards hook callback) :
    w.trace.countP (Event.calls hook callback) = 0 := by
  have hbalanced := h.balanced hook callback
  have hdiscarded := (discardedIn_pos_iff hook callback).2 ⟨step, hmem, hdiscards⟩
  omega

end

end CallbackLedger

namespace Worker

/-- Every run from a fresh context balances the ledger of callbacks. -/
theorem callbackLedger_of_run [DecidableEq κ] (configs : Registry) (env : ω)
    (operations : List (Operation ρ κ))
    (ha : ((fresh configs env).afterAll operations).ctx.conns.slots.length ≤ 2 ^ 32) :
    ((fresh configs env).afterAll operations).ctx.Orderly ∧
      CallbackLedger ((fresh configs env).steps operations)
        ((fresh configs env).afterAll operations) :=
  run_induction (P := CallbackLedger) (Context.Orderly.fresh configs)
    (.fresh configs env) (fun _ _ _ _ hw hcourse hpath h => h.perform hw hcourse hpath)
    operations ha

/-- So does every run on the way. -/
theorem callbackLedger_of_split [DecidableEq κ] {configs : Registry} {env : ω}
    {operations : List (Operation ρ κ)}
    (ha : ((fresh configs env).afterAll operations).ctx.conns.slots.length ≤ 2 ^ 32)
    {earlier later : List (Step ω ρ κ)} {step : Step ω ρ κ}
    (h : (fresh configs env).steps operations = earlier ++ step :: later) :
    CallbackLedger earlier step.before := by
  obtain ⟨first, rest, rfl, rfl, hbefore, -⟩ := steps_split h
  rw [hbefore]
  rw [afterAll_append] at ha
  exact (callbackLedger_of_run configs env first
    (Nat.le_trans (slotCount_le_afterAll _ _) ha)).2

end Worker
end ConnPool
