/-
  ConnPool.Proofs.Run.Answers

  Which errors operations answer, along runs.

  Some errors stand for a table that was looked up in vain, and the code checks
  for them wherever it looks one up, also in the middle of an operation.  A
  caller gets them only for what it has named itself: an id that is not live or
  not lent, or a key that is not registered.  Each lookup in between would note
  that it was in vain (`Worker.miss`), and none does: an operation is a path of
  acts, and acts miss nothing.
-/

import ConnPool.Proofs.Run.Returning
import ConnPool.Proofs.Worker.Answering
import ConnPool.Proofs.Worker.Targets

namespace ConnPool

variable {ω ρ κ : Type}

/-- Whether a connection is lent by a pool, or was lent in the stead of one. -/
def Connection.IsBorrowed (conn : Connection ρ κ) : Prop :=
  (∃ key, conn.membership = .busy key) ∨ ∃ key, conn.overflowOf = some key

/-- Errors of lookups in vain. -/
def PoolError.IsLookup : PoolError → Prop
  | configurationNotFound _ | unknownConnection _ | notBorrowed _ => True
  | allocation _ | handshake _ | socketMode _ | registration _ | connectionLost _
  | poolExhausted _ | duplicatePool _ | invalidConfig _ | shutdown => False

/-- An opening does not fail with a lookup. -/
theorem Opening.not_isLookup {target : Target} {request : Option ρ} {onConnect : Option κ}
    {membership : Membership} {error : PoolError} {act : Act ρ κ}
    (h : Opening target request onConnect membership (.error error) act) : ¬error.IsLookup := by
  cases h with
  | unstarted _ _ _ | spoiled _ _ => exact fun hlookup => hlookup
  | failed id conn ending error herror _ _ _ =>
      intro hlookup
      have hends := Ending.endsHandshake_of_failure herror
      cases error with
      | handshake _ | registration _ => exact hlookup
      | allocation _ | socketMode _ | connectionLost _ | configurationNotFound _ | poolExhausted _
      | duplicatePool _ | invalidConfig _ | unknownConnection _ | notBorrowed _ | shutdown =>
          exact hends

/-- A pool that exists does not fail with a lookup. -/
theorem Granting.not_isLookup {key : PoolKey} {config : PoolConfig} {request : Option ρ}
    {onConnect : Option κ} {error : PoolError} {acts : List (Act ρ κ)}
    (h : Granting key config request onConnect (.error error) acts) : ¬error.IsLookup := by
  cases h with
  | barren _ _ => exact fun hlookup => hlookup
  | refused _ _ _ hopening => exact hopening.not_isLookup

/-- Opening a direct connection does not fail with a lookup. -/
theorem Course.not_isLookup_of_connects {operation : Operation ρ κ} {answer : Answer}
    {acts : List (Act ρ κ)} (h : Course operation answer acts) (hconnects : operation.Connects)
    {error : PoolError} (hanswer : answer = .opened (.error error)) : ¬error.IsLookup := by
  subst hanswer
  cases operation with
  | connect request onConnect keys values expandDbname =>
      cases h with
      | misdirected _ _ _ _ _ reason => exact fun hlookup => hlookup
      | connect _ _ _ _ _ target hopening => exact hopening.not_isLookup
  | connectUri request onConnect uri =>
      cases h with
      | connectUri _ _ _ hopening => exact hopening.not_isLookup
  | acquire _ _ _ | spawn _ _ | reclaim _ | disconnect _ _ | advance _ _ | session _ _
  | shutdown => exact hconnects.elim

namespace Worker

variable [Environment ω]

/-- What is taken back must be live, and borrowed. -/
theorem reclaim_answers {w : Worker ω ρ κ} (hw : w.ctx.Orderly) (hmarked : w.ctx.Marked)
    (id : ConnId) :
    (w.ctx.conn? id = none ∧ (w.reclaim id).1 = .error (.unknownConnection id)) ∨
    ∃ conn, w.ctx.conn? id = some conn ∧
      ((¬conn.IsBorrowed ∧ (w.reclaim id).1 = .error (.notBorrowed id)) ∨
        (conn.IsBorrowed ∧ (w.reclaim id).1 = .ok ())) := by
  cases hconn : w.ctx.conn? id with
  | none => exact .inl ⟨rfl, by rw [reclaim_of_none hconn]⟩
  | some conn =>
      refine .inr ⟨conn, rfl, ?_⟩
      by_cases hborrowed : conn.IsBorrowed
      · refine .inr ⟨hborrowed, ?_⟩
        rcases hborrowed with ⟨key, hbusy⟩ | ⟨key, hoverflow⟩
        · obtain ⟨pool, -, heq, -⟩ := reclaim_of_busy hw hconn hbusy
          rw [heq]
        · obtain ⟨hdirect, -⟩ := hmarked id conn key hconn hoverflow
          rw [reclaim_of_overflow hconn hdirect hoverflow]
          exact (reclaimDirect_cases hconn hdirect hoverflow rfl).1
      · refine .inl ⟨hborrowed, ?_⟩
        rw [reclaim_of_not_lent hconn fun key hbusy => hborrowed (.inl ⟨key, hbusy⟩)]
        exact fun key _ hoverflow => hborrowed (.inr ⟨key, hoverflow⟩)

/-- Whether an outcome is a lookup in vain only where there is no configuration
    under `key`, and then for this key. -/
def Registers {α : Type} (config? : Option PoolConfig) (key : PoolKey)
    (outcome : Except PoolError α) : Prop :=
  (config? = none ∧ outcome = .error (.configurationNotFound key)) ∨
    (config?.isSome ∧ ∀ error, outcome = .error error → ¬error.IsLookup)

omit [Environment ω] in
theorem Registers.notFound_iff {α : Type} {config? : Option PoolConfig} {key : PoolKey}
    {outcome : Except PoolError α} (h : Registers config? key outcome) (other : PoolKey) :
    outcome = .error (.configurationNotFound other) ↔ other = key ∧ config? = none := by
  rcases h with ⟨hnone, rfl⟩ | ⟨hsome, hlookup⟩
  · simp [hnone, eq_comm]
  · refine iff_of_false (fun heq => hlookup _ heq trivial) ?_
    rintro ⟨-, hnone⟩
    rw [hnone] at hsome
    cases hsome

/-- An acquisition looks up in vain only what is not registered. -/
theorem acquire_answers {w w' : Worker ω ρ κ} (hw : w.ctx.Orderly)
    (hconfigured : w.ctx.Configured) {key : PoolKey} {request : Option ρ} {onConnect : Option κ}
    {outcome : Except PoolError ConnId} (h : w.acquire key request onConnect = (outcome, w'))
    (ha : w'.view.slotCount ≤ 2 ^ 32) : Registers (w.ctx.configs.get? key) key outcome := by
  rcases acquire_cases hw h ha with
    ⟨rfl, -, -, hconfig⟩ | ⟨pool, first, rest, hfinding, hgranting, -⟩
  · exact .inl ⟨hconfig, rfl⟩
  · refine .inr ⟨Option.isSome_of_eq_some (hfinding.config_eq hconfigured), ?_⟩
    rintro error rfl
    exact hgranting.not_isLookup

/-- Spawning looks up in vain only what is not registered. -/
theorem spawn_answers {w w' : Worker ω ρ κ} (hw : w.ctx.Orderly) (hconfigured : w.ctx.Configured)
    {key : PoolKey} {count : Nat} {status : Status} (h : w.spawn key count = (status, w'))
    (ha : w'.view.slotCount ≤ 2 ^ 32) : Registers (w.ctx.configs.get? key) key status := by
  rcases spawn_cases hw h ha with
    ⟨rfl, -, -, hconfig⟩ | ⟨pool, first, ids, acts, record, hfinding, -, -, rfl⟩
  · exact .inl ⟨hconfig, rfl⟩
  · refine .inr ⟨Option.isSome_of_eq_some (hfinding.config_eq hconfigured), fun error herror => ?_⟩
    split at herror
    · obtain rfl := Except.error.inj herror
      exact fun hlookup => hlookup
    · cases herror

end Worker

variable [Environment ω]

/-- Whether a step answers a lookup in vain only for what its caller has named,
    and all lookups on its way succeed. -/
structure Step.Sure (step : Step ω ρ κ) : Prop where
  unknown_iff : ∀ id other, step.operation = .reclaim id →
    (step.answer = .status (.error (.unknownConnection other)) ↔
      other = id ∧ step.before.ctx.conn? id = none)
  notBorrowed_iff : ∀ id other, step.operation = .reclaim id →
    (step.answer = .status (.error (.notBorrowed other)) ↔
      other = id ∧ ∃ conn, step.before.ctx.conn? id = some conn ∧ ¬conn.IsBorrowed)
  reclaimed_iff : ∀ id, step.operation = .reclaim id →
    (step.answer = .status (.ok ()) ↔
      ∃ conn, step.before.ctx.conn? id = some conn ∧ conn.IsBorrowed)
  /-- Taking back does not miss the pool. -/
  reclaim_ne : ∀ id key, step.operation = .reclaim id →
    step.answer ≠ .status (.error (.configurationNotFound key))
  /-- The first handshake step of a new connection does not miss it. -/
  connect_ne : step.operation.Connects → ∀ error, step.answer = .opened (.error error) →
    ¬error.IsLookup
  acquire_iff : ∀ key request onConnect other, step.operation = .acquire key request onConnect →
    (step.answer = .opened (.error (.configurationNotFound other)) ↔
      other = key ∧ step.before.ctx.configs.get? key = none)
  /-- Lending does not miss the connection. -/
  acquire_ne : ∀ key request onConnect other, step.operation = .acquire key request onConnect →
    step.answer ≠ .opened (.error (.unknownConnection other)) ∧
      step.answer ≠ .opened (.error (.notBorrowed other))
  /-- What a pool has idle, it can lend. -/
  acquired_of_free : ∀ key request onConnect pool,
    step.operation = .acquire key request onConnect →
    step.before.ctx.pools.get? key = some pool → pool.free ≠ [] →
      ∃ id, step.answer = .opened (.ok id)
  spawn_iff : ∀ key count other, step.operation = .spawn key count →
    (step.answer = .status (.error (.configurationNotFound other)) ↔
      other = key ∧ step.before.ctx.configs.get? key = none)
  disconnect_of_error : ∀ id onDisconnect error, step.operation = .disconnect id onDisconnect →
    step.answer = .status (.error error) →
      error = .unknownConnection id ∧ step.before.ctx.conn? id = none
  /-- On its way it drives, lists, lends and releases only what is live, and finds
      the pools that it needs. -/
  missed_eq : step.after.missed = step.before.missed

namespace Step

variable {step : Step ω ρ κ}

theorem answer_of_reclaim {id : ConnId} (h : step.operation = .reclaim id) :
    step.answer = .status (step.before.reclaim id).1 := by
  rw [answer, h]
  rfl

theorem answer_of_acquire {key : PoolKey} {request : Option ρ} {onConnect : Option κ}
    (h : step.operation = .acquire key request onConnect) :
    ∃ outcome, step.answer = .opened outcome ∧
      step.before.acquire key request onConnect = (outcome, step.after) := by
  rw [answer, after, h]
  exact ⟨_, rfl, rfl⟩

theorem answer_of_spawn {key : PoolKey} {count : Nat} (h : step.operation = .spawn key count) :
    ∃ status, step.answer = .status status ∧
      step.before.spawn key count = (status, step.after) := by
  rw [answer, after, h]
  exact ⟨_, rfl, rfl⟩

theorem answer_of_disconnect {id : ConnId} {onDisconnect : Option κ}
    (h : step.operation = .disconnect id onDisconnect) :
    ∃ status, step.answer = .status status ∧
      step.before.disconnect id onDisconnect = (status, step.after) := by
  rw [answer, after, h]
  exact ⟨_, rfl, rfl⟩

/-- A step from a sound context in order is sure of its lookups. -/
theorem sure (hw : step.before.ctx.Orderly) (hsound : step.before.ctx.Sound)
    (ha : step.after.view.slotCount ≤ 2 ^ 32) : step.Sure := by
  have hreclaim := Worker.reclaim_answers hw hsound.marked
  constructor
  case unknown_iff =>
    intro id other hoperation
    rw [answer_of_reclaim hoperation]
    rcases hreclaim id with ⟨hnone, heq⟩ | ⟨conn, hconn, ⟨-, heq⟩ | ⟨-, heq⟩⟩
    · simp [heq, hnone, eq_comm]
    · simp [heq, hconn]
    · simp [heq, hconn]
  case notBorrowed_iff =>
    intro id other hoperation
    rw [answer_of_reclaim hoperation]
    rcases hreclaim id with ⟨hnone, heq⟩ | ⟨conn, hconn, ⟨hnot, heq⟩ | ⟨hborrowed, heq⟩⟩
    · simp [heq, hnone]
    · simp [heq, hconn, hnot, eq_comm]
    · simp [heq, hconn, hborrowed]
  case reclaimed_iff =>
    intro id hoperation
    rw [answer_of_reclaim hoperation]
    rcases hreclaim id with ⟨hnone, heq⟩ | ⟨conn, hconn, ⟨hnot, heq⟩ | ⟨hborrowed, heq⟩⟩
    · simp [heq, hnone]
    · simp [heq, hconn, hnot]
    · simp [heq, hconn, hborrowed]
  case reclaim_ne =>
    intro id key hoperation
    rw [answer_of_reclaim hoperation]
    rcases hreclaim id with ⟨-, heq⟩ | ⟨conn, -, ⟨-, heq⟩ | ⟨-, heq⟩⟩
    · simp [heq]
    · simp [heq]
    · simp [heq]
  case connect_ne =>
    intro hconnects error hanswer
    obtain ⟨acts, hcourse, -⟩ := Worker.perform_course hw
      (rfl : step.before.perform step.operation = (_, _)) ha
    exact hcourse.not_isLookup_of_connects hconnects hanswer
  case acquire_iff =>
    intro key request onConnect other hoperation
    obtain ⟨outcome, hanswer, hacquire⟩ := answer_of_acquire hoperation
    rw [hanswer, Answer.opened.injEq]
    exact (Worker.acquire_answers hw hsound.configured hacquire ha).notFound_iff other
  case acquire_ne =>
    intro key request onConnect other hoperation
    obtain ⟨outcome, hanswer, hacquire⟩ := answer_of_acquire hoperation
    rw [hanswer]
    rcases Worker.acquire_answers hw hsound.configured hacquire ha with
      ⟨-, rfl⟩ | ⟨-, hlookup⟩
    · simp
    · constructor
      · exact fun heq => hlookup _ (Answer.opened.inj heq) trivial
      · exact fun heq => hlookup _ (Answer.opened.inj heq) trivial
  case acquired_of_free =>
    intro key request onConnect pool hoperation hpool hfree
    obtain ⟨outcome, hanswer, hacquire⟩ := answer_of_acquire hoperation
    obtain ⟨id, conn, load, rfl, -⟩ := Worker.acquire_of_free hw hpool hfree hacquire
    exact ⟨id, hanswer⟩
  case spawn_iff =>
    intro key count other hoperation
    obtain ⟨status, hanswer, hspawn⟩ := answer_of_spawn hoperation
    rw [hanswer, Answer.status.injEq]
    exact (Worker.spawn_answers hw hsound.configured hspawn ha).notFound_iff other
  case disconnect_of_error =>
    intro id onDisconnect error hoperation herror
    obtain ⟨status, hanswer, hdisconnect⟩ := answer_of_disconnect hoperation
    rw [hanswer] at herror
    rcases Worker.disconnect_cases hdisconnect with ⟨rfl, -, hnone⟩ | ⟨conn, act, rfl, -⟩
    · cases herror
      exact ⟨rfl, hnone⟩
    · cases herror
  case missed_eq =>
    obtain ⟨acts, -, hpath⟩ := Worker.perform_course hw
      (rfl : step.before.perform step.operation = (_, _)) ha
    exact hpath.missed_eq

end Step

namespace Worker

/-- In every run, taking back fails only for ids that are not live or not
    borrowed, acquiring and spawning miss a configuration only under keys that
    are not registered, and disconnecting fails only for ids that are not live;
    an idle connection can always be lent; and nothing is missed on the way:
    what is driven, and what is taken from an idle queue, is live, and what is
    opened finds its collection. -/
theorem sure_of_run (configs : Registry) (env : ω) (operations : List (Operation ρ κ))
    (ha : ((fresh configs env).afterAll operations).ctx.conns.slots.length ≤ 2 ^ 32) :
    (∀ step ∈ (fresh configs env).steps operations, step.Sure) ∧
      ((fresh configs env).afterAll operations).missed = [] := by
  constructor
  · intro step hmem
    obtain ⟨hw, hsound, -⟩ := sound_of_mem_steps ha hmem
    exact Step.sure hw hsound (addressable_of_mem_steps ha hmem)
  · refine (run_induction (P := fun _ w => w.missed = []) (Context.Orderly.fresh configs) rfl ?_
      operations ha).2
    intro history w operation acts _ _ hpath h
    exact hpath.missed_eq.trans h

/-- A pool that lists what is not live, as none does after a run, is noticed. -/
example : (({ ctx := { configs := .empty
                       pools := KeyMap.empty.insert "k"
                         { config := ⟨"k", .uri "u", 0, 1, 1⟩, free := [⟨0, 0⟩] } }
              env := () } : Worker Unit String String).lendFree "k" none none).2.missed =
    [.unknownConnection ⟨0, 0⟩] := rfl

/-- The one connection that is lent is taken back twice, the first time together
    with the other ones of its pool that are given up. -/
def misreturningRun : List (Operation String String) :=
  [.acquire "k" none none, .reclaim ⟨0, 0⟩, .reclaim ⟨0, 0⟩]

theorem sure_of_misreturningRun :
    ((fresh widePool quickStage).afterAll misreturningRun).ctx.conns.slots.length ≤ 2 ^ 32 ∧
      ∃ growing ∈ (fresh widePool quickStage).steps misreturningRun,
      ∃ shrinking ∈ (fresh widePool quickStage).steps misreturningRun,
      ∃ failing ∈ (fresh widePool quickStage).steps misreturningRun,
        (growing.Sure ∧ growing.answer = .opened (.ok ⟨0, 0⟩)) ∧
        (shrinking.Sure ∧ shrinking.before.ctx.ids = [⟨0, 0⟩, ⟨1, 0⟩, ⟨2, 0⟩] ∧
          shrinking.after.ctx.ids = [⟨0, 0⟩]) ∧
        failing.Sure ∧ failing.answer = .status (.error (.notBorrowed ⟨0, 0⟩)) := by
  have ha : ((fresh widePool quickStage).afterAll misreturningRun).ctx.conns.slots.length ≤
      2 ^ 32 := by
    decide +kernel
  have hall := (sure_of_run widePool quickStage misreturningRun ha).1
  have hgrowing : ⟨fresh widePool quickStage, .acquire "k" none none⟩ ∈
      (fresh widePool quickStage).steps misreturningRun := List.mem_cons_self
  have hshrinking : ⟨(fresh widePool quickStage).afterAll (misreturningRun.take 1),
      .reclaim ⟨0, 0⟩⟩ ∈ (fresh widePool quickStage).steps misreturningRun :=
    List.mem_of_getElem? (i := 1) rfl
  have hfailing : ⟨(fresh widePool quickStage).afterAll (misreturningRun.take 2),
      .reclaim ⟨0, 0⟩⟩ ∈ (fresh widePool quickStage).steps misreturningRun :=
    List.mem_of_getElem? (i := 2) rfl
  exact ⟨ha, _, hgrowing, _, hshrinking, _, hfailing, ⟨hall _ hgrowing, rfl⟩,
    ⟨hall _ hshrinking, by decide +kernel, by decide +kernel⟩, hall _ hfailing, rfl⟩

end Worker
end ConnPool
