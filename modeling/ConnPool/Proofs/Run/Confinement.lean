/-
  ConnPool.Proofs.Run.Confinement

  Operations touch nothing else.

  A worker that serves many pools keeps them apart: whatever is asked of one of
  them, or of one connection, the other ones are what they were, however their
  slots were used before.
-/

import ConnPool.Proofs.Run.Targets
import ConnPool.Proofs.Worker.Confinement

namespace ConnPool

variable {ω ρ κ : Type} [Environment ω]

/-- Whether a step keeps to what it was asked to do. -/
structure Step.Confined (step : Step ω ρ κ) : Prop where
  /-- Acquiring and spawning touch the pool that is asked, what is lent and what
      is new. -/
  asked : ∀ key, step.operation.AsksPool key →
    (∀ other, other ≠ key →
      step.after.ctx.pools.get? other = step.before.ctx.pools.get? other) ∧
    ∀ id conn, step.before.ctx.conn? id = some conn → ¬step.operation.Lends step.answer id key →
      step.after.ctx.conn? id = some conn
  /-- Reclaiming touches the pool that lent, what is given back, and idle
      connections of that pool, which may go. -/
  reclaimed : ∀ id, step.operation = .reclaim id →
    (∀ key, ¬step.before.ctx.Lent id key →
      step.after.ctx.pools.get? key = step.before.ctx.pools.get? key) ∧
    ∀ other conn, other ≠ id → step.before.ctx.conn? other = some conn →
      step.after.ctx.conn? other = some conn ∨
        (step.after.ctx.conn? other = none ∧ ∃ key pool, step.before.ctx.Lent id key ∧
          step.before.ctx.pools.get? key = some pool ∧ other ∈ pool.free)
  /-- Neither of them touches what is lent to somebody else. -/
  lent : ∀ id key, step.before.ctx.Lent id key →
    ((∃ asked, step.operation.AsksPool asked) ∨
      ∃ other, other ≠ id ∧ step.operation = .reclaim other) →
    step.after.ctx.conn? id = step.before.ctx.conn? id
  /-- Closing a connection and reporting on it touch nothing but that connection,
      and leave everything else in its order. -/
  attended : ∀ id, step.operation.Attends id →
    (∀ other, other ≠ id → step.after.ctx.conn? other = step.before.ctx.conn? other) ∧
    (∀ key, (∀ pool, step.before.ctx.pools.get? key = some pool → id ∉ pool.free ∧ id ∉ pool.busy) →
      step.after.ctx.pools.get? key = step.before.ctx.pools.get? key) ∧
    step.before.ctx.Prunes step.after.ctx ∧
    step.after.ctx.ids = step.before.ctx.ids.filter fun id => (step.after.ctx.conn? id).isSome
  /-- A new direct connection touches nothing that was there. -/
  connected : step.operation.Connects →
    (∀ key, step.after.ctx.pools.get? key = step.before.ctx.pools.get? key) ∧
    ∀ id conn, step.before.ctx.conn? id = some conn → step.after.ctx.conn? id = some conn

section

variable {operation : Operation ρ κ} {answer : Answer} {acts : List (Act ρ κ)} {v v' : View ρ κ}

omit [Environment ω] in
/-- What is lent stays with its holder while others are served. -/
theorem Course.conn?_of_lent (h : Course operation answer acts) (hpath : Path v acts v')
    (hw : v.ctx.Orderly) {id : ConnId} {key : PoolKey} (hlent : v.ctx.Lent id key)
    (hothers : (∃ asked, operation.AsksPool asked) ∨
      ∃ other, other ≠ id ∧ operation = .reclaim other) :
    v'.ctx.conn? id = v.ctx.conn? id := by
  have ⟨conn, hconn, hfor⟩ := hlent
  rw [hconn]
  rcases hothers with ⟨asked, hasks⟩ | ⟨other, hne, rfl⟩
  · -- what is lent now, nobody held before
    refine h.conn?_of_provides hpath hw hasks.provides hconn fun other hlends => ?_
    exact h.not_lent_of_lends hpath hw hlends key hlent
  · cases h with
    | reclaim hreclaiming =>
        refine (hreclaiming.conn?_of_ne hpath hw hne.symm hconn).resolve_right ?_
        rintro ⟨-, k, -, hfree⟩
        exact Connection.not_lentFor_of_free hfree hfor

omit [Environment ω] in
/-- Attending to a connection leaves the pools alone that do not list it. -/
theorem Context.Prunes.get?_eq_of_not_mem {ctx ctx' : Context ρ κ} (h : ctx.Prunes ctx')
    (hw : ctx.Orderly) {id : ConnId} {key : PoolKey}
    (hothers : ∀ other, other ≠ id → ctx'.conn? other = ctx.conn? other)
    (hlisted : ∀ pool, ctx.pools.get? key = some pool → id ∉ pool.free ∧ id ∉ pool.busy) :
    ctx'.pools.get? key = ctx.pools.get? key := by
  refine h.get?_eq fun pool hpool other hmem => ?_
  have hne : other ≠ id := by
    rintro rfl
    exact hmem.elim (hlisted pool hpool).1 (hlisted pool hpool).2
  rw [hothers other hne]
  rw [← collection_free_of_get? hpool, ← collection_busy_of_get? hpool] at hmem
  exact hmem.elim hw.isSome_conn? hw.isSome_conn?

end

/-- Every step of a context in order keeps to what it was asked to do. -/
theorem Step.confined {step : Step ω ρ κ} {acts : List (Act ρ κ)}
    (hcourse : Course step.operation step.answer acts)
    (hpath : Path step.before.view acts step.after.view) (hw : step.before.ctx.Orderly)
    (ha : step.before.ctx.conns.Addressable) (ha' : step.after.ctx.conns.Addressable) :
    step.Confined := by
  constructor
  case asked =>
    intro key hasks
    constructor
    · intro other hne
      exact hpath.get?_eq fun act hmem htouches => hne (hcourse.eq_of_touches hasks hmem htouches)
    · intro id conn hconn hlends
      refine hcourse.conn?_of_provides hpath hw hasks.provides hconn fun other hother => hlends ?_
      -- an operation lends for the key that it asks only
      obtain ⟨request, onConnect, heq, hanswer⟩ := hother
      rcases hasks with ⟨request', onConnect', hasks⟩ | ⟨count, hasks⟩
      · exact ⟨request', onConnect', hasks, hanswer⟩
      · rw [hasks] at heq
        cases heq
  case reclaimed =>
    intro id hreclaim
    rw [hreclaim] at hcourse
    generalize step.answer = answer at hcourse
    cases hcourse with
    | reclaim hreclaiming =>
        constructor
        · intro key hlent
          exact hpath.get?_eq fun act hmem htouches =>
            hlent (hreclaiming.lent_of_touches hpath hmem htouches)
        · intro other conn hne hconn
          refine (hreclaiming.conn?_of_ne hpath hw hne hconn).imp_right ?_
          rintro ⟨hgone, key, hlent, hfree⟩
          have hmem : other ∈ step.before.ctx.collection (.free key) :=
            hfree ▸ hw.mem_of_conn? hconn
          obtain ⟨pool, hpool⟩ := Context.exists_pool_of_poolConfig?
            (hw.hasCollection hconn key (congrArg Membership.pool? hfree))
          rw [Context.collection_free_of_get? hpool] at hmem
          exact ⟨hgone, key, pool, hlent, hpool, hmem⟩
  case lent =>
    intro id key hlent hothers
    exact hcourse.conn?_of_lent hpath hw hlent hothers
  case attended =>
    intro id hattends
    have hacts := hcourse.attends hattends
    have hprunes := hpath.prunes_of_attends hw hacts
    have hothers : ∀ other, other ≠ id →
        step.after.ctx.conn? other = step.before.ctx.conn? other := fun other hne =>
      hpath.conn?_eq hw fun act hmem => (hacts act hmem).change_ne hne
    refine ⟨hothers, fun key hlisted => hprunes.get?_eq_of_not_mem hw hothers hlisted, hprunes, ?_⟩
    refine Arena.ids_eq_filter ha ha' fun other hlive => ?_
    exact hpath.live_of_live hw (fun act hmem => (hacts act hmem).not_opens other) hlive
  case connected =>
    intro hconnects
    constructor
    · intro key
      exact hpath.get?_eq (hcourse.not_touches hconnects key)
    · intro id conn hconn
      refine hcourse.conn?_of_provides hpath hw hconnects.provides hconn fun key hlends => ?_
      -- a direct connection is not lent
      obtain ⟨request, onConnect, heq, -⟩ := hlends
      rw [heq] at hconnects
      exact hconnects

namespace Worker

/-- In every run, each operation keeps to what it was asked to do.  Acquiring
    and spawning leave all other pools as they are, and all connections that
    they do not lend; reclaiming leaves all pools as they are that did not lend,
    and all connections but the one given back and idle ones that the pool gives
    up; closing a connection and reporting on it leave all other connections as
    they are, all pools that do not list it, and the order of what stays; opening
    a direct connection leaves all pools and all connections as they are. -/
theorem confined_of_run (configs : Registry) (env : ω) (operations : List (Operation ρ κ))
    (ha : ((fresh configs env).afterAll operations).ctx.conns.slots.length ≤ 2 ^ 32) :
    ∀ step ∈ (fresh configs env).steps operations, step.Confined := by
  intro step hmem
  obtain ⟨hw, acts, hcourse, hpath⟩ :=
    course_of_mem_steps (Context.Orderly.fresh configs) operations ha step hmem
  have hafter := addressable_of_mem_steps ha hmem
  have hbefore : step.before.ctx.conns.Addressable :=
    Nat.le_trans (slotCount_le_perform step.before step.operation) hafter
  exact Step.confined hcourse hpath hw hbefore hafter

theorem confined_of_mixedRun :
    ((fresh twoPools slowStage).afterAll mixedRun).ctx.conns.slots.length ≤ 2 ^ 32 ∧
      ∀ step ∈ (fresh twoPools slowStage).steps mixedRun, step.Confined :=
  have ha := by decide +kernel
  ⟨ha, confined_of_run twoPools slowStage mixedRun ha⟩

end Worker
end ConnPool
