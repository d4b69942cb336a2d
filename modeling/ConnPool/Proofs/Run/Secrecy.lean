/-
  ConnPool.Proofs.Run.Secrecy

  Targets may hold credentials, and what they hold does not leak.

  Two runs are compared that differ in the contents of their targets, in the
  registry and in the operations, and are alike in the kinds.  If the
  environment does not tell such targets apart, nothing that the runs answer,
  log, call, or do to the outside does, and neither do their contexts; sessions
  are asked for at the same places, and there alone a target is handed on.
-/

import ConnPool.Proofs.Run.Membership
import ConnPool.Proofs.Worker.Acquiring
import ConnPool.Proofs.Worker.Secrecy
import ConnPool.Scripted

namespace ConnPool

variable {ω ρ κ : Type}

/-! ## Events -/

/-- What is no request for a session is seen as it is. -/
theorem Event.redacted_of_dial? {event : Event ρ κ} (h : event.dial? = none) :
    event.redacted = event := by
  cases event with
  | startRefused _ | started _ _ => cases h
  | nonblocking _ _ | polled _ _ | tornDown _ | registered _ _ _ _ | deregistered _
  | connectCalled _ _ _ _ | disconnectCalled _ _ _ _ | logged _ => rfl

@[simp] theorem Event.isNone_dial?_redacted (event : Event ρ κ) :
    event.redacted.dial?.isNone = event.dial?.isNone := by
  cases event with
  | startRefused _ | started _ _ | nonblocking _ _ | polled _ _ | tornDown _
  | registered _ _ _ _ | deregistered _ | connectCalled _ _ _ _ | disconnectCalled _ _ _ _
  | logged _ => rfl

/-- Redacting leaves all events but the requests for sessions as they are. -/
theorem filter_map_redacted (events : List (Event ρ κ)) :
    (events.map Event.redacted).filter (·.dial?.isNone) = events.filter (·.dial?.isNone) := by
  rw [List.filter_map]
  have hsame : ((fun event : Event ρ κ => event.dial?.isNone) ∘ Event.redacted) =
      fun event => event.dial?.isNone := funext Event.isNone_dial?_redacted
  rw [hsame]
  refine (List.map_congr_left fun event hmem => ?_).trans (List.map_id _)
  exact Event.redacted_of_dial? (Option.isNone_iff_eq_none.1 (List.mem_filter.1 hmem).2)

/-! ## Environments -/

/-- An environment that has one answer for all targets of a kind is oblivious to
    what they hold. -/
theorem Environment.oblivious_eq [Environment ω]
    (h : ∀ (target target' : Target) (session : SessionNo), target.kind = target'.kind →
      (Environment.start target session : StateM ω StartAnswer) =
        Environment.start target' session) :
    Environment.Oblivious (Eq : ω → ω → Prop) := by
  have hrefl : ∀ {α : Type} (question : StateM ω α), Agree Eq question question := by
    rintro α question env _ rfl
    exact ⟨rfl, rfl⟩
  constructor
  case start =>
    intro target target' session hkind
    rw [h target target' session hkind]
    exact hrefl _
  case status | setNonblocking | socket | poll | errorText | tearDown | register | deregister =>
    intros
    exact hrefl _

/-- Scripts do not look at targets, and a host without a client tells their
    kinds. -/
theorem Scripted.oblivious : Environment.Oblivious (Eq : Stage → Stage → Prop) := by
  refine Environment.oblivious_eq fun target target' session hkind => ?_
  have hrefusal : Client.refusal target .notAvailable = Client.refusal target' .notAvailable := by
    rw [Client.refusal, Client.refusal, hkind]
  funext stage
  show (if stage.hasClient then _ else _) = if stage.hasClient then _ else _
  rw [hrefusal]

/-! ## Steps -/

/-- Whether nothing tells two steps apart but what the targets hold that they
    hand on. -/
structure Step.Indistinct [Environment ω] (step step' : Step ω ρ κ) : Prop where
  operation : step.operation.Alike step'.operation
  answer : step.answer = step'.answer
  after : step.after.ctx.LooksLike step'.after.ctx
  /-- The same is done in the same order, and sessions are asked for towards
      targets of the same kinds. -/
  events : step.events.map Event.redacted = step'.events.map Event.redacted
  /-- All that is done but these requests is the same as it is. -/
  effects : step.events.filter (·.dial?.isNone) = step'.events.filter (·.dial?.isNone)

namespace Worker

variable [Environment ω] {R : ω → ω → Prop}

/-- Operations that differ in the contents of their targets are indistinct, and
    leave workers that differ in them only. -/
theorem Alike.indistinct (hR : Environment.Oblivious R) {w w' : Worker ω ρ κ} (h : w.Alike R w')
    {operation operation' : Operation ρ κ} (halike : operation.Alike operation') :
    Step.Indistinct ⟨w, operation⟩ ⟨w', operation'⟩ ∧
      (w.perform operation).2.Alike R (w'.perform operation').2 := by
  obtain ⟨answer, w₁, w₁', hw, hw', h₁⟩ := perform hR h halike
  have hevents : (Step.mk w operation).events.map Event.redacted =
      (Step.mk w' operation').events.map Event.redacted := by
    -- the steps begin at the same places of their traces
    have hlength : w.trace.length = w'.trace.length := by
      rw [← List.length_map Event.redacted, h.trace, List.length_map]
    rw [Step.events, Step.events, Step.after, Step.after, List.map_drop, List.map_drop, hw, hw',
      hlength, h₁.trace]
  rw [hw, hw']
  refine ⟨?_, h₁⟩
  constructor
  case operation => exact halike
  case answer => rw [Step.answer, Step.answer, hw, hw']
  case after =>
    rw [Step.after, Step.after, hw, hw']
    exact Context.looksLike_of_redacted h₁.ctx
  case events => exact hevents
  case effects => rw [← filter_map_redacted, hevents, filter_map_redacted]

/-- Runs that start alike are indistinct step by step. -/
theorem Alike.steps (hR : Environment.Oblivious R) {operations operations' : List (Operation ρ κ)}
    (halike : List.Forall₂ Operation.Alike operations operations') {w w' : Worker ω ρ κ}
    (h : w.Alike R w') :
    List.Forall₂ Step.Indistinct (w.steps operations) (w'.steps operations') := by
  -- over the operations: what one leaves alike, the next one finds alike
  induction halike generalizing w w' with
  | nil => exact .nil
  | cons hoperation _ ih =>
      obtain ⟨hstep, hafter⟩ := h.indistinct hR hoperation
      exact .cons hstep (ih hafter)

/-- What targets hold does not leak.  Take registries that are filled with
    configurations, and operations that are performed, which differ in the texts
    of connection strings, or in the keys, values and flags of parameters, though
    not in their numbers.  Filling the registries comes to the same, and the runs
    are indistinct step by step: the same answers, contexts that look the same,
    and the same done to the outside, in the same order.  Only what the targets
    hold with which sessions are asked for may differ. -/
theorem indistinct_of_runs (hR : Environment.Oblivious R) :
    (∀ requests requests', List.Forall₂ PoolRequest.Alike requests requests' →
      let filled := RegistryDraft.addAll {} (requests.map PoolRequest.config)
      let filled' := RegistryDraft.addAll {} (requests'.map PoolRequest.config)
      filled.1 = filled'.1 ∧ filled.2.log = filled'.2.log ∧
        filled.2.registry.redacted = filled'.2.registry.redacted) ∧
    ∀ (configs configs' : Registry) (env env' : ω) (operations operations' : List (Operation ρ κ)),
      configs.redacted = configs'.redacted → R env env' →
      List.Forall₂ Operation.Alike operations operations' →
      List.Forall₂ Step.Indistinct ((fresh configs env).steps operations)
        ((fresh configs' env').steps operations') := by
  constructor
  · exact fun requests requests' hrequests => RegistryDraft.addAll_of_alike {} hrequests
  · intro configs configs' env env' operations operations' hconfigs henv hoperations
    have hctx : ({ configs } : Context ρ κ).redacted =
        ({ configs := configs' } : Context ρ κ).redacted :=
      congrArg (fun configs => ({ configs } : Context ρ κ)) hconfigs
    exact Alike.steps hR hoperations ⟨henv, hctx, rfl, rfl⟩

/-- A registry with one pool, towards a connection string. -/
def poolTowards (uri : String) : RegistryDraft :=
  (RegistryDraft.addAll {} ([PoolRequest.uri "k" 1 1 uri].map PoolRequest.config)).2

/-- Connections are opened towards parameters, towards a connection string, and
    for the pool. -/
def connectingRun (password uri : String) : List (Operation String String) :=
  [.connect none (some "called") ["password"] [password] false, .connectUri none none uri,
    .acquire "k" none none]

/-- Two users with passwords of their own are not told apart, though sessions are
    started for the one and for the other. -/
theorem indistinct_of_connectingRun :
    (poolTowards "postgres://a:x@h").log = (poolTowards "postgres://b:y@h").log ∧
      List.Forall₂ Step.Indistinct
        ((fresh (poolTowards "postgres://a:x@h").registry slowStage).steps
          (connectingRun "x" "postgres://a:x@h"))
        ((fresh (poolTowards "postgres://b:y@h").registry slowStage).steps
          (connectingRun "y" "postgres://b:y@h")) ∧
      dials ((fresh (poolTowards "postgres://a:x@h").registry slowStage).afterAll
          (connectingRun "x" "postgres://a:x@h")).trace =
        [.params [("password", "x")] false, .uri "postgres://a:x@h", .uri "postgres://a:x@h"] ∧
      dials ((fresh (poolTowards "postgres://b:y@h").registry slowStage).afterAll
          (connectingRun "y" "postgres://b:y@h")).trace =
        [.params [("password", "y")] false, .uri "postgres://b:y@h", .uri "postgres://b:y@h"] := by
  obtain ⟨hregistration, hruns⟩ :=
    indistinct_of_runs (R := Eq) (ρ := String) (κ := String) Scripted.oblivious
  have hrequests : List.Forall₂ PoolRequest.Alike [.uri "k" 1 1 "postgres://a:x@h"]
      [.uri "k" 1 1 "postgres://b:y@h"] := .cons (.uri _ _ _ _ _) .nil
  have hconnect : (Operation.connect none (some "called") ["password"] ["x"] false :
      Operation String String).Alike
        (.connect none (some "called") ["password"] ["y"] false) :=
    .connect _ _ rfl (show ["x"].length = ["y"].length from rfl) _ _
  have hoperations : List.Forall₂ Operation.Alike (connectingRun "x" "postgres://a:x@h")
      (connectingRun "y" "postgres://b:y@h") :=
    .cons hconnect (.cons (.connectUri _ _ _ _) (.cons (.same _) .nil))
  obtain ⟨-, hlog, hconfigs⟩ := hregistration _ _ hrequests
  exact ⟨hlog, hruns _ _ slowStage slowStage _ _ hconfigs rfl hoperations, rfl, rfl⟩

end Worker
end ConnPool
