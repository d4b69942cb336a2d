/-
  ConnPool.Proofs.Run.Settling

  A pool settles at its floor.

  Where a context only lends from one pool and takes back, and every session
  that it asks for comes to life, the pool keeps to its bounds from the first
  acquisition on; and whenever everything that was lent has come back, it holds
  what its floor asks for and there is no other connection, however many were
  lent in its stead and in whatever order they came back.
-/

import ConnPool.Proofs.Run.Lending
import ConnPool.Proofs.Run.Sessions
import ConnPool.Proofs.Worker.Marking
import ConnPool.Proofs.Worker.Settling

namespace ConnPool

variable {ω ρ κ : Type}

/-- Whether an operation lends from the pool under `key` or takes something
    back. -/
def Operation.Circulates (key : PoolKey) : Operation ρ κ → Prop
  | acquire k _ _ => k = key
  | reclaim _ => True
  | connect .. | connectUri .. | spawn .. | disconnect .. | advance .. | session .. | shutdown =>
    False

/-- Whether an event is not the refusal of a session, nor the start of one that
    no live connection owns. -/
def Event.StartsWell (ctx : Context ρ κ) : Event ρ κ → Prop
  | startRefused _ => False
  | started session _ => session ∈ ctx.sessions
  | nonblocking .. | polled .. | tornDown _ | registered .. | deregistered _ | connectCalled ..
  | disconnectCalled .. | logged _ => True

instance (key : PoolKey) (operation : Operation ρ κ) : Decidable (operation.Circulates key) :=
  match operation with
  | .acquire k _ _ => inferInstanceAs (Decidable (k = key))
  | .reclaim _ => inferInstanceAs (Decidable True)
  | .connect .. | .connectUri .. | .spawn .. | .disconnect .. | .advance .. | .session ..
  | .shutdown => inferInstanceAs (Decidable False)

instance (ctx : Context ρ κ) (event : Event ρ κ) : Decidable (event.StartsWell ctx) :=
  match event with
  | .startRefused _ => inferInstanceAs (Decidable False)
  | .started session _ => inferInstanceAs (Decidable (session ∈ ctx.sessions))
  | .nonblocking .. | .polled .. | .tornDown _ | .registered .. | .deregistered _
  | .connectCalled .. | .disconnectCalled .. | .logged _ => inferInstanceAs (Decidable True)

variable [Environment ω]

/-- Whether every session that a step asks for is started and belongs to a live
    connection after the step. -/
def Step.StartsWell (step : Step ω ρ κ) : Prop :=
  ∀ event ∈ step.events, event.StartsWell step.after.ctx

omit [Environment ω] in
/-- An opening that fails after its session was started tears it down. -/
theorem Act.tornDown_of_openFailed (id : ConnId) (target : Target) (conn : Connection ρ κ)
    (ending : Ending κ) :
    .started conn.session target ∈ (Act.openFailed id target conn ending).events ∧
      .tornDown conn.session ∈ (Act.openFailed id target conn ending).events := by
  cases ending <;> simp [Act.events, Ending.events]

/-- In a step whose sessions all come to life no opening fails. -/
theorem Step.StartsWell.not_failsToOpen {step : Step ω ρ κ} (h : step.StartsWell)
    (hkept : step.after.view.Kept) {acts : List (Act ρ κ)}
    (hpath : Path step.before.view acts step.after.view) : ∀ act ∈ acts, ¬act.FailsToOpen := by
  intro act hmem hfails
  have hevents : ∀ event ∈ act.events, event ∈ step.events := by
    intro event hevent
    rw [events_eq hpath]
    exact List.mem_flatMap.2 ⟨act, hmem, hevent⟩
  -- a session that is started and torn down in the step belongs to nobody
  have hstarted : ∀ session target, .started session target ∈ act.events →
      .tornDown session ∉ act.events := by
    intro session target hstart hdown
    have hdowned := List.mem_append_right step.before.trace (hevents _ hdown)
    rw [← trace_eq hpath] at hdowned
    exact hkept.not_tornDown (h _ (hevents _ hstart)) hdowned
  cases act with
  | noted events =>
      obtain ⟨target, hrefused⟩ := hfails
      exact h _ (hevents _ hrefused)
  | openFailed id target conn ending =>
      obtain ⟨hstart, hdown⟩ := Act.tornDown_of_openFailed id target conn ending
      exact hstarted _ _ hstart hdown
  | openSpoiled session target reason =>
      exact hstarted session target (by simp [Act.events]) (by simp [Act.events])
  | asked _ _ _ | poolCreated _ _ | opened _ _ _ _ | stepped _ _ _ | lent _ _ _ _ _ _
  | takenBack _ _ _ _ | adopted _ _ _ _ | tagged _ _ _ | deferred _ _ _ | finished _ _ _
  | poolsDropped => exact hfails

/-! ## Runs -/

/-- What a history that lends from one pool only and the worker that it leads to
    have to do with each other. -/
structure SettlingLedger (key : PoolKey) (config : PoolConfig) (history : List (Step ω ρ κ))
    (w : Worker ω ρ κ) : Prop where
  configured : w.ctx.configs.get? key = some config
  resources : ResourceLedger history w
  outstanding : ∀ id, w.ctx.Lent id key → Outstanding history w.ctx id key
  /-- Before the first acquisition there is nothing. -/
  untouched : (∀ step ∈ history, ¬step.operation.Provides) →
    w.ctx.pools.get? key = none ∧ ∀ id, w.ctx.conn? id = none
  settled : ∀ step ∈ history, step.operation.Provides → w.ctx.Settled key config

namespace SettlingLedger

variable {key : PoolKey} {config : PoolConfig} {history : List (Step ω ρ κ)}
  {w : Worker ω ρ κ} {operation : Operation ρ κ} {acts : List (Act ρ κ)}

theorem fresh {configs : Registry} (hconfig : configs.get? key = some config) (env : ω) :
    SettlingLedger key config ([] : List (Step ω ρ κ)) (Worker.fresh configs env) where
  configured := hconfig
  resources := .fresh configs env
  outstanding _ hlent := absurd hlent (Context.not_lent_of_none rfl)
  untouched _ := ⟨rfl, fun _ => rfl⟩
  settled := List.forall_mem_nil _

/-- What is lent is outstanding. -/
theorem outstanding_append (h : SettlingLedger key config history w) (hw : w.ctx.Orderly)
    (hcourse : Course operation (Step.mk w operation).answer acts)
    (hpath : Path w.view acts (Step.mk w operation).after.view) {id : ConnId}
    (hlent : (Step.mk w operation).after.ctx.Lent id key) :
    Outstanding (history ++ [⟨w, operation⟩]) (Step.mk w operation).after.ctx id key := by
  refine ⟨hlent.live, Since.append_singleton.2 ?_⟩
  have hcases : operation.Lends (Step.mk w operation).answer id key ∨
      (w.ctx.Lent id key ∧ ¬operation.TakesBack (Step.mk w operation).answer id ∧ _) :=
    (hcourse.lent_iff hpath hw).1 hlent
  rcases hcases with hlends | ⟨hbefore, hback, -⟩
  · exact .inl hlends
  · exact .inr ⟨(h.outstanding id hbefore).2, hback⟩

/-- The first acquisition settles the context, and later ones keep it
    settled. -/
theorem settled_of_acquire (h : SettlingLedger key config history w) (hw : w.ctx.Orderly)
    (hpos : 0 < config.minSize) (hbounds : config.minSize ≤ config.maxSize) {request : Option ρ}
    {onConnect : Option κ} (hstarts : (Step.mk w (.acquire key request onConnect)).StartsWell)
    (hkept : (Step.mk w (.acquire key request onConnect)).after.view.Kept)
    (ha : (Step.mk w (.acquire key request onConnect)).after.view.slotCount ≤ 2 ^ 32) :
    (Step.mk w (.acquire key request onConnect)).after.ctx.Settled key config := by
  have hacquire : w.acquire key request onConnect =
      (_, (Step.mk w (.acquire key request onConnect)).after) := rfl
  by_cases hfirst : ∀ step ∈ history, ¬step.operation.Provides
  · obtain ⟨hpool, hnone⟩ := h.untouched hfirst
    exact Worker.settled_of_first hw hnone hpool h.configured hpos hbounds hacquire ha
      fun acts hpath => hstarts.not_failsToOpen hkept hpath
  · simp only [not_forall, not_not] at hfirst
    obtain ⟨step, hmem, hprovides⟩ := hfirst
    exact Worker.settled_of_acquire hw (h.settled step hmem hprovides) hpos hacquire ha

/-- Each operation keeps the ledger. -/
theorem perform (h : SettlingLedger key config history w) (hw : w.ctx.Orderly)
    (hcourse : Course operation (Step.mk w operation).answer acts)
    (hpath : Path w.view acts (Step.mk w operation).after.view) (hpos : 0 < config.minSize)
    (hbounds : config.minSize ≤ config.maxSize) (hcirculates : operation.Circulates key)
    (hstarts : (Step.mk w operation).StartsWell)
    (ha : (Step.mk w operation).after.view.slotCount ≤ 2 ^ 32) :
    SettlingLedger key config (history ++ [⟨w, operation⟩]) (Step.mk w operation).after := by
  have hresources := h.resources.perform hw hcourse hpath
  constructor
  case configured =>
    have hconfigs : (Step.mk w operation).after.ctx.configs = w.ctx.configs := hpath.configs_eq
    rw [hconfigs]
    exact h.configured
  case resources => exact hresources
  case outstanding => exact fun id => h.outstanding_append hw hcourse hpath
  case untouched =>
    intro hnone
    obtain ⟨hbefore, hlast⟩ := List.forall_mem_append.1 hnone
    obtain ⟨hpool, hconn⟩ := h.untouched hbefore
    cases operation with
    | reclaim id =>
        -- there is nothing to take back
        have hsame : (Step.mk w (.reclaim id)).after = w := by
          show (w.reclaim id).2 = w
          rw [Worker.reclaim, hconn id]
        rw [hsame]
        exact ⟨hpool, hconn⟩
    | acquire k request onConnect => exact absurd trivial (hlast _ (List.mem_singleton_self _))
    | connect _ _ _ _ _ | connectUri _ _ _ | spawn _ _ | disconnect _ _ | advance _ _
    | session _ _ | shutdown => exact hcirculates.elim
  case settled =>
    intro step hmem hprovides
    cases operation with
    | acquire k request onConnect =>
        obtain rfl : k = key := hcirculates
        exact h.settled_of_acquire hw hpos hbounds hstarts hresources.kept ha
    | reclaim id =>
        rcases List.mem_append.1 hmem with hbefore | hlast
        · exact Worker.settled_of_reclaim hw (h.settled step hbefore hprovides)
            (rfl : w.reclaim id = (_, (Step.mk w (.reclaim id)).after))
        · obtain rfl := List.mem_singleton.1 hlast
          exact hprovides.elim
    | connect _ _ _ _ _ | connectUri _ _ _ | spawn _ _ | disconnect _ _ | advance _ _
    | session _ _ | shutdown => exact hcirculates.elim

end SettlingLedger

namespace Worker

theorem settlingLedger_of_run {configs : Registry} {key : PoolKey} {config : PoolConfig}
    (hconfig : configs.get? key = some config) (hpos : 0 < config.minSize)
    (hbounds : config.minSize ≤ config.maxSize) (env : ω) (operations : List (Operation ρ κ))
    (hcirculates : ∀ operation ∈ operations, operation.Circulates key)
    (hstarts : ∀ step ∈ (fresh configs env).steps operations, step.StartsWell)
    (ha : ((fresh configs env).afterAll operations).ctx.conns.slots.length ≤ 2 ^ 32) :
    ((fresh configs env).afterAll operations).ctx.Orderly ∧
      SettlingLedger key config ((fresh configs env).steps operations)
        ((fresh configs env).afterAll operations) := by
  have hrun := run_induction
    (P := fun history w =>
      (∀ step ∈ history, step.operation.Circulates key ∧ step.StartsWell) →
        w.view.slotCount ≤ 2 ^ 32 → SettlingLedger key config history w)
    (Context.Orderly.fresh configs : (fresh configs env : Worker ω ρ κ).ctx.Orderly)
    (fun _ _ => .fresh hconfig env) ?_ operations ha
  · refine ⟨hrun.1, hrun.2 (fun step hmem => ⟨?_, hstarts step hmem⟩) ha⟩
    apply hcirculates
    rw [← map_operation_steps (fresh configs env) operations]
    exact List.mem_map_of_mem hmem
  · intro history w operation acts hw hcourse hpath hledger hsteps hslots
    obtain ⟨hbefore, hlast⟩ := List.forall_mem_append.1 hsteps
    obtain ⟨hlastCirculates, hlastStarts⟩ := hlast _ (List.mem_singleton_self _)
    have hslots' := Nat.le_trans (slotCount_le_perform w operation) hslots
    exact (hledger hbefore hslots').perform hw hcourse hpath hpos hbounds hlastCirculates
      hlastStarts hslots

/-- Where a context only lends from one pool and takes back, and every session
    comes to life, the pool keeps to its bounds from the first acquisition on;
    and when nothing is outstanding it holds what its floor asks for, all of it
    idle, and there are no other connections. -/
theorem settles_of_run (configs : Registry) (env : ω) (operations : List (Operation ρ κ))
    {key : PoolKey} {target : Target} {minSize maxSize batch : Nat} {config : PoolConfig}
    {request : Option ρ} {onConnect : Option κ}
    (hsizes : PoolConfig.ofSizes key target minSize maxSize = .ok config)
    (hconfig : configs.get? key = some (config.withBatch batch))
    (hcirculates : ∀ operation ∈ operations, operation.Circulates key)
    (hstarts : ∀ step ∈ (fresh configs env).steps operations, step.StartsWell)
    (hacquired : .acquire key request onConnect ∈ operations)
    (ha : ((fresh configs env).afterAll operations).ctx.conns.slots.length ≤ 2 ^ 32) :
    ∃ figures, ((fresh configs env).afterAll operations).ctx.figures? key = some figures ∧
      config.minSize ≤ figures.size ∧ figures.size ≤ config.maxSize ∧
      ((∀ id, ¬Outstanding ((fresh configs env).steps operations)
          ((fresh configs env).afterAll operations).ctx id key) →
        figures.busy = 0 ∧ figures.free = config.minSize ∧ figures.size = config.minSize ∧
          ((fresh configs env).afterAll operations).ctx.registry = [] ∧
          ((fresh configs env).afterAll operations).ctx.count = config.minSize) := by
  obtain ⟨hpos, hbounds⟩ := PoolConfig.bounds_of_ofSizes hsizes
  obtain ⟨hw, hledger⟩ :=
    settlingLedger_of_run hconfig hpos hbounds env operations hcirculates hstarts ha
  rw [← map_operation_steps (fresh configs env) operations, List.mem_map] at hacquired
  obtain ⟨step, hmem, hoperation⟩ := hacquired
  have hprovides : step.operation.Provides := by
    rw [hoperation]
    trivial
  have hsettled := hledger.settled step hmem hprovides
  obtain ⟨pool, hpool, hpoolConfig⟩ := Option.map_eq_some_iff.1 hsettled.pool
  have hsize := Context.poolSize_of_get? hpool
  have hceiling := hw.size_le key _ hsettled.pool
  rw [hsize] at hceiling
  refine ⟨pool.figures, ?_, ?_, hceiling, fun hnone => ?_⟩
  · rw [Context.figures?, hpool]
    rfl
  · exact Nat.le_trans hsettled.floor (Nat.le_of_eq hsize)
  · have hlent : ∀ id, ¬((fresh configs env).afterAll operations).ctx.Lent id key :=
      fun id hlent => hnone id (hledger.outstanding id hlent)
    have hbusy := hsettled.collection_of_not_lent hw hlent
      (by simp : Membership.busy key ≠ .free key)
    have hrest : pool.size = config.minSize := hsize.symm.trans (hsettled.rests hbusy)
    rw [Context.collection_busy_of_get? hpool] at hbusy
    have hidle : pool.free.length = config.minSize := by
      rw [← hrest, Pool.size, hbusy]
      rfl
    refine ⟨congrArg List.length hbusy, hidle, hrest, ?_, ?_⟩
    · exact hsettled.collection_of_not_lent hw hlent (by simp : Membership.registry ≠ .free key)
    · exact hsettled.count_of_not_lent hw ha hlent

/-- One pool, of one connection at least and two at most, which opens two at a
    time. -/
def pairPool : Registry :=
  KeyMap.empty.insert "k" ⟨"k", .uri "u", 1, 2, 2⟩

/-- The pool lends both of its connections and a third one in its stead; the
    one that is slow to connect comes back last. -/
def roundTrip : List (Operation String String) :=
  [.acquire "k" none (some "first"), .acquire "k" none (some "second"),
    .acquire "k" none (some "third"), .reclaim ⟨1, 0⟩, .reclaim ⟨2, 0⟩, .reclaim ⟨0, 0⟩]

/-- The last step takes back the only connection that is left. -/
theorem not_outstanding_roundTrip (id : ConnId) :
    ¬Outstanding ((fresh pairPool slowStage).steps roundTrip)
      ((fresh pairPool slowStage).afterAll roundTrip).ctx id "k" := by
  rintro ⟨hlive, hsince⟩
  have ha : ((fresh pairPool slowStage).afterAll roundTrip).ctx.conns.slots.length ≤ 2 ^ 32 := by
    decide +kernel
  have hids : ((fresh pairPool slowStage).afterAll roundTrip).ctx.ids = [⟨0, 0⟩] := by
    decide +kernel
  have hmem : id ∈ ((fresh pairPool slowStage).afterAll roundTrip).ctx.ids :=
    (Arena.mem_ids ha).2 hlive
  rw [hids] at hmem
  obtain rfl := List.mem_singleton.1 hmem
  have hsplit : roundTrip = roundTrip.dropLast ++ [.reclaim ⟨0, 0⟩] := rfl
  rw [hsplit, steps_append] at hsince
  rcases Since.append_singleton.1 hsince with hlends | ⟨-, hback⟩
  · obtain ⟨request, onConnect, hoperation, -⟩ := hlends
    cases hoperation
  · exact hback ⟨rfl, rfl⟩

theorem settles_of_roundTrip :
    PoolConfig.ofSizes "k" (.uri "u") 0 2 = .ok ⟨"k", .uri "u", 1, 2, 1⟩ ∧
      (∀ operation ∈ roundTrip, operation.Circulates "k") ∧
      (∀ step ∈ (fresh pairPool slowStage).steps roundTrip, step.StartsWell) ∧
      ∃ figures, ((fresh pairPool slowStage).afterAll roundTrip).ctx.figures? "k" = some figures ∧
        figures.busy = 0 ∧ figures.free = 1 ∧
          ((fresh pairPool slowStage).afterAll roundTrip).ctx.registry = [] ∧
          ((fresh pairPool slowStage).afterAll roundTrip).ctx.count = 1 := by
  have hsizes : PoolConfig.ofSizes "k" (.uri "u") 0 2 = .ok ⟨"k", .uri "u", 1, 2, 1⟩ := rfl
  have hcirculates : ∀ operation ∈ roundTrip, operation.Circulates "k" := by decide
  have hstarts : ∀ step ∈ (fresh pairPool slowStage).steps roundTrip, step.StartsWell := by
    unfold Step.StartsWell
    decide +kernel
  have hconfig : pairPool.get? "k" = some (PoolConfig.withBatch ⟨"k", .uri "u", 1, 2, 1⟩ 2) := by
    decide +kernel
  obtain ⟨figures, hfigures, -, -, hrest⟩ := settles_of_run pairPool slowStage roundTrip hsizes
    hconfig hcirculates hstarts List.mem_cons_self (by decide +kernel)
  obtain ⟨hbusy, hfree, -, hregistry, hcount⟩ := hrest not_outstanding_roundTrip
  exact ⟨hsizes, hcirculates, hstarts, figures, hfigures, hbusy, hfree, hregistry, hcount⟩

end Worker
end ConnPool
