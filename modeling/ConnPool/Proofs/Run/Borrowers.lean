/-
  ConnPool.Proofs.Run.Borrowers

  Borrowers do not see each other.

  The steps that answer an id bind the connection to their caller; the last
  such step holds it, until it is taken back.  Whatever a callback is told, it
  is told the request of the step that holds the connection: the step that a
  connect callback came with, or the one during whose hold a disconnect was
  asked for.  Callbacks that came before a connection was taken back are not
  called afterwards.
-/

import ConnPool.Proofs.Run.CallOrder
import ConnPool.Proofs.Run.DisconnectCallbacks
import ConnPool.Proofs.Worker.Binding

namespace ConnPool

variable {ω ρ κ : Type} [Environment ω]

namespace Step

/-- Whether a step bound the connection under `id` to its caller. -/
def Binds (step : Step ω ρ κ) (id : ConnId) : Prop :=
  step.answer = .opened (.ok id)

/-- Whether a callback came with a step, for the connection under `id`. -/
def Supplies (step : Step ω ρ κ) (id : ConnId) (callback : κ) : Hook → Prop
  | .connect => step.operation.onConnect? = some callback ∧ step.Binds id
  | .disconnect => step.Disconnects id (some callback)

theorem Supplies.handed {step : Step ω ρ κ} {id : ConnId} {callback : κ} {hook : Hook}
    (h : step.Supplies id callback hook) : step.handed hook = some callback := by
  cases hook with
  | connect => exact h.1
  | disconnect => exact Disconnects.handed h

/-- A callback comes for one connection only. -/
theorem Supplies.eq_id {step : Step ω ρ κ} {id other : ConnId} {callback : κ} {hook : Hook}
    (h : step.Supplies id callback hook) (h' : step.Supplies other callback hook) :
    other = id := by
  cases hook with
  | connect =>
      have heq := h.2.symm.trans h'.2
      cases heq
      rfl
  | disconnect =>
      have heq := h.1.symm.trans h'.1
      cases heq
      rfl

/-- What a connection keeps is dropped when it is taken back. -/
theorem TakesBack.drops {step : Step ω ρ κ} {id : ConnId} (h : step.TakesBack id)
    (hc : step.before.ctx.Coherent) {hook : Hook} {callback : κ} {conn : Connection ρ κ}
    (hconn : step.before.ctx.conn? id = some conn) (hhung : conn.hung hook = some callback) :
    step.Drops hook callback := by
  refine ⟨id, conn, hconn, (hc id conn hconn).connecting_of_hung hook hhung, hhung, ?_⟩
  rw [h.1, h.2]
  exact .reclaimed hook

end Step

/-! ## Holders -/

/-- In a history `holder` bound the connection under `id` to its caller; in the
    steps after it, which are `since`, it was not bound again or taken back. -/
structure HeldSince (history : List (Step ω ρ κ)) (id : ConnId) (holder : Step ω ρ κ)
    (since : List (Step ω ρ κ)) : Prop where
  split : ∃ earlier, history = earlier ++ holder :: since
  binds : holder.Binds id
  keeps : ∀ step ∈ since, ¬step.Binds id ∧ ¬step.TakesBack id

namespace HeldSince

variable {history since : List (Step ω ρ κ)} {id : ConnId} {holder step : Step ω ρ κ}

theorem now (history : List (Step ω ρ κ)) (hbinds : step.Binds id) :
    HeldSince (history ++ [step]) id step [] where
  split := ⟨history, rfl⟩
  binds := hbinds
  keeps := List.forall_mem_nil _

theorem append_singleton (h : HeldSince history id holder since) (hbinds : ¬step.Binds id)
    (hback : ¬step.TakesBack id) : HeldSince (history ++ [step]) id holder (since ++ [step]) where
  split := by
    obtain ⟨earlier, rfl⟩ := h.split
    exact ⟨earlier, by simp⟩
  binds := h.binds
  keeps := List.forall_mem_append.2 ⟨h.keeps, List.forall_mem_singleton.2 ⟨hbinds, hback⟩⟩

theorem mem (h : HeldSince history id holder since) : holder ∈ history := by
  obtain ⟨earlier, rfl⟩ := h.split
  exact List.mem_append_right _ List.mem_cons_self

theorem mem_of_mem_since (h : HeldSince history id holder since) (hmem : step ∈ since) :
    step ∈ history := by
  obtain ⟨earlier, rfl⟩ := h.split
  exact List.mem_append_right _ (List.mem_cons_of_mem _ hmem)

end HeldSince

/-- What a history and the context that it leads to have to do with each other,
    as to borrowers. -/
structure BorrowerLedger (history : List (Step ω ρ κ)) (ctx : Context ρ κ) : Prop where
  coherent : ctx.Coherent
  held : ∀ id conn, ctx.conn? id = some conn → conn.membership.isFree = false →
    ∃ holder since, HeldSince history id holder since ∧
      conn.BoundTo holder.operation.request? holder.operation.onConnect? ∧
      ∀ callback, conn.onDisconnect = some callback →
        ∃ step ∈ since, step.Disconnects id (some callback)

namespace BorrowerLedger

variable {history : List (Step ω ρ κ)} {ctx : Context ρ κ}

theorem fresh (configs : Registry) (env : ω) :
    BorrowerLedger ([] : List (Step ω ρ κ)) (Worker.fresh configs env : Worker ω ρ κ).ctx where
  coherent id conn hconn := by cases hconn
  held id conn hconn := by cases hconn

/-- Each operation keeps the ledger. -/
theorem perform {w : Worker ω ρ κ} (h : BorrowerLedger history w.ctx) (hw : w.ctx.Orderly)
    {operation : Operation ρ κ} {acts : List (Act ρ κ)}
    (hcourse : Course operation (Step.mk w operation).answer acts)
    (hpath : Path w.view acts (Step.mk w operation).after.view) :
    BorrowerLedger (history ++ [⟨w, operation⟩]) (Step.mk w operation).after.ctx where
  coherent := hpath.coherent hw h.coherent
  held id conn hconn hbound := by
    by_cases hbinds : (Step.mk w operation).Binds id
    · obtain ⟨hto, hnone⟩ :=
        hcourse.boundTo_of_answer hpath hw h.coherent hbinds hconn hbound
      refine ⟨_, [], .now history hbinds, hto, fun callback hkept => ?_⟩
      rw [hnone] at hkept
      cases hkept
    · -- what the operation did not bind, was bound before
      obtain ⟨old, hold, hfree, hto, hfrom⟩ := hpath.boundTo_of_live hw
        (fun act hmem hact => hbinds (hcourse.answer_of_binds hmem hact)) hconn hbound
      obtain ⟨holder, since, hsince, hfirst, hasked⟩ := h.held id old hold hfree
      have hback : ¬(Step.mk w operation).TakesBack id := fun hback => by
        rw [hcourse.isFree_of_takesBack hpath hw hback hconn] at hbound
        cases hbound
      refine ⟨holder, since ++ [⟨w, operation⟩], hsince.append_singleton hbinds hback,
        hto.trans hfirst, fun callback hkept => ?_⟩
      rcases hfrom with hsame | ⟨_, hdeferred⟩
      · obtain ⟨step, hmem, hstep⟩ := hasked callback (hsame.symm.trans hkept)
        exact ⟨step, List.mem_append_left _ hmem, hstep⟩
      · rw [hkept] at hdeferred
        exact ⟨_, List.mem_append_right _ List.mem_cons_self, hcourse.belongsTo _ hdeferred⟩

/-- What a connection keeps came for it. -/
theorem supplied (h : BorrowerLedger history ctx) {id : ConnId} {conn : Connection ρ κ}
    (hconn : ctx.conn? id = some conn) {hook : Hook} {callback : κ}
    (hhung : conn.hung hook = some callback) :
    ∃ step ∈ history, step.Supplies id callback hook := by
  -- an idle connection keeps nothing
  have hbound : conn.membership.isFree = false := Bool.eq_false_iff.2 fun hfree => by
    obtain ⟨-, honConnect, honDisconnect, -⟩ := (h.coherent id conn hconn).free hfree
    cases hook with
    | connect => cases honConnect.symm.trans hhung
    | disconnect => cases honDisconnect.symm.trans hhung
  obtain ⟨holder, since, hsince, hto, hasked⟩ := h.held id conn hconn hbound
  cases hook with
  | connect =>
      exact ⟨holder, hsince.mem, hto.onConnect_of_kept callback hhung, hsince.binds⟩
  | disconnect =>
      obtain ⟨step, hmem, hstep⟩ := hasked callback hhung
      exact ⟨step, hsince.mem_of_mem_since hmem, hstep⟩

end BorrowerLedger

/-! ## Isolation -/

/-- A step that comes after `earlier` tells callbacks only what concerns their
    own borrower. -/
structure Step.Isolates (step : Step ω ρ κ) (earlier : List (Step ω ρ κ)) : Prop where
  /-- A connect callback is told the request that it came with, and the id that
      its step answered. -/
  connect : ∀ callback id status request,
    .connectCalled callback id status request ∈ step.events →
      ∃ supplier, (supplier = step ∨ ∃ since, HeldSince earlier id supplier since) ∧
        supplier.operation.onConnect? = some callback ∧
        supplier.operation.request? = request ∧
        ∀ other, supplier.answer = .opened (.ok other) → other = id
  /-- A disconnect callback is told the request of the step that holds the
      connection, and was asked for since, or nothing if the connection is
      idle. -/
  disconnect : ∀ callback id status request,
    .disconnectCalled callback id status request ∈ step.events →
      ∃ conn, step.before.ctx.conn? id = some conn ∧
        ((conn.membership.isFree = true ∧ request = none ∧ step.Disconnects id (some callback)) ∨
          (conn.membership.isFree = false ∧ ∃ holder since, HeldSince earlier id holder since ∧
            holder.operation.request? = request ∧
            ∃ other ∈ since ++ [step], other.Disconnects id (some callback)))

/-- A step that the ledger of borrowers leads up to isolates them. -/
theorem BorrowerLedger.isolates {earlier : List (Step ω ρ κ)} {step : Step ω ρ κ}
    (h : BorrowerLedger earlier step.before.ctx) (hw : step.before.ctx.Orderly)
    {acts : List (Act ρ κ)} (hcourse : Course step.operation step.answer acts)
    (hpath : Path step.before.view acts step.after.view) : step.Isolates earlier := by
  constructor
  case connect =>
    intro callback id status request hmem
    rw [Step.events_eq hpath] at hmem
    rcases hcourse.of_connectCalled hpath hw h.coherent hmem with
      ⟨honConnect, hrequest, hanswer⟩ | ⟨conn, hconn, hbound, hkept, rfl⟩
    · exact ⟨step, .inl rfl, honConnect, hrequest, hanswer⟩
    · obtain ⟨holder, since, hsince, hto, -⟩ := h.held id conn hconn hbound
      refine ⟨holder, .inr ⟨since, hsince⟩, hto.onConnect_of_kept callback hkept,
        hto.request_eq.symm, fun other hother => ?_⟩
      cases hsince.binds.symm.trans hother
      rfl
  case disconnect =>
    intro callback id status request hmem
    rw [Step.events_eq hpath] at hmem
    obtain ⟨conn, hconn, rfl, hfrom⟩ := hcourse.of_disconnectCalled hpath hw h.coherent hmem
    refine ⟨conn, hconn, ?_⟩
    by_cases hfree : conn.membership.isFree = true
    · refine .inl ⟨hfree, ((h.coherent id conn hconn).free hfree).1, ?_⟩
      rcases hfrom with ⟨hbound, -⟩ | hdisconnects
      · rw [hfree] at hbound
        cases hbound
      · exact hdisconnects
    · have hbound := Bool.eq_false_iff.2 hfree
      obtain ⟨holder, since, hsince, hto, hasked⟩ := h.held id conn hconn hbound
      refine .inr ⟨hbound, holder, since, hsince, hto.request_eq.symm, ?_⟩
      rcases hfrom with ⟨-, hkept⟩ | hdisconnects
      · obtain ⟨other, hother, hdisconnects⟩ := hasked callback hkept
        exact ⟨other, List.mem_append_left _ hother, hdisconnects⟩
      · exact ⟨step, List.mem_append_right _ List.mem_cons_self, hdisconnects⟩

/-! ## Runs -/

namespace Worker

theorem borrowerLedger_of_run (configs : Registry) (env : ω) (operations : List (Operation ρ κ))
    (ha : ((fresh configs env).afterAll operations).ctx.conns.slots.length ≤ 2 ^ 32) :
    BorrowerLedger ((fresh configs env).steps operations)
      ((fresh configs env).afterAll operations).ctx :=
  (run_induction (P := fun history w => BorrowerLedger history w.ctx)
    (Context.Orderly.fresh configs) (.fresh configs env)
    (fun _ _ _ _ hw hcourse hpath h => h.perform hw hcourse hpath) operations ha).2

/-- So does every run on the way. -/
theorem borrowerLedger_of_split {configs : Registry} {env : ω} {operations : List (Operation ρ κ)}
    (ha : ((fresh configs env).afterAll operations).ctx.conns.slots.length ≤ 2 ^ 32)
    {earlier later : List (Step ω ρ κ)} {step : Step ω ρ κ}
    (h : (fresh configs env).steps operations = earlier ++ step :: later) :
    BorrowerLedger earlier step.before.ctx := by
  obtain ⟨first, rest, rfl, rfl, hbefore, -⟩ := steps_split h
  rw [hbefore]
  rw [afterAll_append] at ha
  exact borrowerLedger_of_run configs env first (Nat.le_trans (slotCount_le_afterAll _ _) ha)

section

variable [DecidableEq κ] {configs : Registry} {env : ω} {operations : List (Operation ρ κ)}
  {earlier later : List (Step ω ρ κ)} {step : Step ω ρ κ} {id : ConnId} {hook : Hook}
  {callback : κ}

/-- Where a callback is called as often by the end of a run as before one of
    its steps, it is not called by this step or later. -/
theorem not_calls_of_countP_le
    (ha : ((fresh configs env).afterAll operations).ctx.conns.slots.length ≤ 2 ^ 32)
    (hsplit : (fresh configs env).steps operations = earlier ++ step :: later)
    (hle : ((fresh configs env).afterAll operations).trace.countP (Event.calls hook callback) ≤
      step.before.trace.countP (Event.calls hook callback)) :
    ∀ other ∈ step :: later, ∀ event ∈ other.events, event.calls hook callback = false := by
  obtain ⟨first, rest, hoperations, -, hbefore, rfl⟩ := steps_split hsplit
  obtain ⟨hw, -⟩ := course_of_split (Context.Orderly.fresh configs) ha hsplit
  -- the run from the step on adds the events of the steps in question
  have hrest : (fresh configs env).afterAll operations =
      step.before.afterAll (step.operation :: rest) := by
    rw [hoperations, afterAll_append, ← hbefore]
  rw [hrest] at ha hle
  rw [trace_afterAll hw ha, List.countP_append] at hle
  have hzero : ((step.before.steps (step.operation :: rest)).flatMap Step.events).countP
      (Event.calls hook callback) = 0 := by omega
  intro other hother event hevent
  exact Bool.eq_false_iff.2
    (List.countP_eq_zero.1 hzero event (List.mem_flatMap.2 ⟨other, hother, hevent⟩))

/-- A callback that came for a connection before it was taken back is not
    called any more. -/
theorem not_calls_of_takesBack
    (ha : ((fresh configs env).afterAll operations).ctx.conns.slots.length ≤ 2 ^ 32)
    (hsplit : (fresh configs env).steps operations = earlier ++ step :: later)
    (honce : handedIn hook callback ((fresh configs env).steps operations) = 1)
    (hsupplied : ∃ supplier ∈ earlier, supplier.Supplies id callback hook)
    (hback : step.TakesBack id) :
    ∀ other ∈ step :: later, ∀ event ∈ other.events, event.calls hook callback = false := by
  obtain ⟨-, hledger⟩ := callbackLedger_of_run configs env operations ha
  have hbefore := callbackLedger_of_split ha hsplit
  have hend := hledger.balanced hook callback
  have hstart := hbefore.balanced hook callback
  have hmem : step ∈ (fresh configs env).steps operations := by
    rw [hsplit]
    exact List.mem_append_cons_self
  obtain ⟨supplier, hsupplier, hsupplies⟩ := hsupplied
  have hhanded : 0 < handedIn hook callback earlier :=
    List.countP_pos_iff.2 ⟨supplier, hsupplier, decide_eq_true hsupplies.handed⟩
  refine not_calls_of_countP_le ha hsplit ?_
  by_cases hheld : 0 < step.before.ctx.holds hook callback
  · -- the connection that keeps it is the one taken back, so that it is dropped
    have haddressable : step.before.ctx.conns.Addressable :=
      Nat.le_trans (slotCount_le_perform step.before step.operation)
        (addressable_of_mem_steps ha hmem)
    obtain ⟨other, conn, hconn, hhung⟩ := (Context.holds_pos_iff hook callback haddressable).1 hheld
    obtain ⟨giver, hgiver, hgives⟩ := (borrowerLedger_of_split ha hsplit).supplied hconn hhung
    have hearlier : ∀ s ∈ earlier, s ∈ (fresh configs env).steps operations := fun s hs => by
      rw [hsplit]
      exact List.mem_append_left _ hs
    obtain rfl := eq_of_handed_once honce (hearlier supplier hsupplier) hsupplies.handed
      (hearlier giver hgiver) hgives.handed
    obtain rfl := hsupplies.eq_id hgives
    have hdrops := hback.drops hbefore.coherent hconn hhung
    rw [hledger.calls_of_discarded honce hmem (.inr hdrops)]
    exact Nat.zero_le _
  · -- it was called or discarded before, which was the one time
    have hdiscarded : discardedIn hook callback earlier ≤
        discardedIn hook callback ((fresh configs env).steps operations) := by
      rw [hsplit]
      exact (List.sublist_append_left _ _).countP_le
    omega

end

/-- In every run a connect callback that is called is told the request that it
    came with, and the id that its call answered; a disconnect callback is told
    the request of the one who holds the connection, or none if it is idle; and
    no callback that came for a connection is called once it has been taken
    back. -/
theorem isolation_of_run [DecidableEq κ] (configs : Registry) (env : ω)
    (operations : List (Operation ρ κ))
    (ha : ((fresh configs env).afterAll operations).ctx.conns.slots.length ≤ 2 ^ 32) :
    ∀ earlier step later, (fresh configs env).steps operations = earlier ++ step :: later →
      step.Isolates earlier ∧
      ∀ id hook callback, handedIn hook callback ((fresh configs env).steps operations) = 1 →
        (∃ supplier ∈ earlier, supplier.Supplies id callback hook) → step.TakesBack id →
          ∀ other ∈ step :: later, ∀ event ∈ other.events,
            event.calls hook callback = false := by
  intro earlier step later hsplit
  obtain ⟨hw, acts, hcourse, hpath⟩ :=
    course_of_split (Context.Orderly.fresh configs) ha hsplit
  refine ⟨(borrowerLedger_of_split ha hsplit).isolates hw hcourse hpath, ?_⟩
  exact fun id hook callback honce hsupplied hback =>
    not_calls_of_takesBack ha hsplit honce hsupplied hback

/-- In `relentRun` the reclaim takes the connection back from its first
    borrower, whose callback is not called after that. -/
theorem isolation_of_relentRun :
    ((fresh smallPool slowStage).afterAll relentRun).ctx.conns.slots.length ≤ 2 ^ 32 ∧
      handedIn .connect "first" ((fresh smallPool slowStage).steps relentRun) = 1 ∧
      (∀ earlier step later, (fresh smallPool slowStage).steps relentRun =
        earlier ++ step :: later → step.Isolates earlier) ∧
      ∀ other ∈ ((fresh smallPool slowStage).steps relentRun).drop 1,
        ∀ event ∈ other.events, event.calls .connect "first" = false := by
  have ha : ((fresh smallPool slowStage).afterAll relentRun).ctx.conns.slots.length ≤ 2 ^ 32 := by
    decide +kernel
  have honce : handedIn .connect "first" ((fresh smallPool slowStage).steps relentRun) = 1 := by
    decide +kernel
  have hisolates := isolation_of_run smallPool slowStage relentRun ha
  refine ⟨ha, honce, fun earlier step later hsplit => (hisolates earlier step later hsplit).1, ?_⟩
  have hsplit : (fresh smallPool slowStage).steps relentRun =
      (fresh smallPool slowStage).steps (relentRun.take 1) ++
        ⟨(fresh smallPool slowStage).afterAll (relentRun.take 1), .reclaim ⟨0, 0⟩⟩ ::
          ((fresh smallPool slowStage).steps relentRun).drop 2 := rfl
  obtain ⟨-, hspent⟩ := hisolates _ _ _ hsplit
  exact hspent ⟨0, 0⟩ .connect "first" honce ⟨_, List.mem_cons_self, rfl, rfl⟩ ⟨rfl, rfl⟩

end Worker
end ConnPool
