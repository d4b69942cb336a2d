/-
  ConnPool.Proofs.Run.Targets

  The right database.

  Whoever acquires a connection under a key gets one to the target that the
  registry configures for that key, and so does whoever finds one in the lists
  of that pool: its session was started towards that target and no other.
-/

import Mathlib.Data.List.Nodup
import ConnPool.Proofs.Run.Lending
import ConnPool.Proofs.Run.Records
import ConnPool.Proofs.Run.Sessions
import ConnPool.Proofs.Worker.Targets

namespace ConnPool

variable {ω ρ κ : Type} [Environment ω]

/-- Whether the connection under `id` stands in a list of the pool under `key`,
    or is a direct one that is lent in the stead of one of the pool. -/
def Context.ListsFor (ctx : Context ρ κ) (key : PoolKey) (id : ConnId) : Prop :=
  (∃ pool, ctx.pools.get? key = some pool ∧ (id ∈ pool.free ∨ id ∈ pool.busy)) ∨
    ∃ conn, ctx.conn? id = some conn ∧ conn.membership = .registry ∧ conn.overflowOf = some key

/-- Whether the connection under `id` is live, and its session was started
    towards `target` and no other. -/
def Worker.Reaches (w : Worker ω ρ κ) (id : ConnId) (target : Target) : Prop :=
  ∃ conn, w.ctx.conn? id = some conn ∧
    ∀ other, .started conn.session other ∈ w.trace ↔ other = target

omit [Environment ω] in
theorem Context.ListsFor.servesFor {ctx : Context ρ κ} {key : PoolKey} {id : ConnId}
    (h : ctx.ListsFor key id) (hw : ctx.Orderly) :
    ∃ conn, ctx.conn? id = some conn ∧ conn.ServesFor key := by
  rcases h with ⟨pool, hpool, hmem⟩ | ⟨conn, hconn, hdirect⟩
  · have hlisted : id ∈ ctx.collection (.free key) ∨ id ∈ ctx.collection (.busy key) := by
      rw [collection_free_of_get? hpool, collection_busy_of_get? hpool]
      exact hmem
    rcases hlisted with hfree | hbusy
    · obtain ⟨conn, hconn, hmembership⟩ := hw.conn?_of_mem hfree
      exact ⟨conn, hconn, .inl (congrArg Membership.pool? hmembership)⟩
    · obtain ⟨conn, hconn, hmembership⟩ := hw.conn?_of_mem hbusy
      exact ⟨conn, hconn, .inl (congrArg Membership.pool? hmembership)⟩
  · exact ⟨conn, hconn, .inr hdirect⟩

/-- What is lent for a key serves that pool. -/
theorem Connection.LentFor.servesFor {conn : Connection ρ κ} {key : PoolKey}
    (h : conn.LentFor key) : conn.ServesFor key :=
  h.imp_left (congrArg Membership.pool?)

omit [Environment ω] in
/-- A session is started towards one target only. -/
theorem View.Kept.target_eq {v : View ρ κ} (h : v.Kept) {session : SessionNo}
    {target other : Target} (htarget : .started session target ∈ v.trace)
    (hother : .started session other ∈ v.trace) : other = target := by
  obtain ⟨earlier, later, htrace⟩ := List.append_of_mem htarget
  have hnumber : (Event.started session target : Event ρ κ).started? = some session := rfl
  have hnodup := h.nodup_started
  rw [htrace, List.filterMap_append, List.filterMap_cons_some hnumber, List.nodup_middle,
    List.nodup_cons, ← List.filterMap_append] at hnodup
  -- any other start of the session would number it twice
  have honce : .started session other ∉ earlier ++ later := fun hmem =>
    hnodup.1 (List.mem_filterMap.2 ⟨_, hmem, rfl⟩)
  rw [htrace, List.mem_append, List.mem_cons, or_left_comm, ← List.mem_append] at hother
  cases hother.resolve_right honce
  rfl

namespace Worker

theorem aimed_of_run (configs : Registry) (env : ω) (operations : List (Operation ρ κ))
    (ha : ((fresh configs env).afterAll operations).ctx.conns.slots.length ≤ 2 ^ 32) :
    ((fresh configs env).afterAll operations).view.Aimed := by
  have hrun := perform_induction (P := fun _ w => w.view.Aimed ∧ w.ctx.Configured)
    (Context.Orderly.fresh configs : (fresh configs env : Worker ω ρ κ).ctx.Orderly)
    ⟨(fun id conn key hconn => by cases hconn), (Context.Sound.fresh configs).configured⟩
    ?_ operations ha
  · exact hrun.2.1
  · rintro history w operation hw ha ⟨haimed, hconfigured⟩
    obtain ⟨acts, -, hpath⟩ := perform_course hw (rfl : w.perform operation = (_, _)) ha
    exact ⟨aimed_perform operation hw hconfigured haimed ha, hpath.configured hconfigured⟩

/-- After every run, a connection that serves a pool is one to the target of
    that pool. -/
theorem reaches_of_servesFor (configs : Registry) (env : ω) (operations : List (Operation ρ κ))
    (ha : ((fresh configs env).afterAll operations).ctx.conns.slots.length ≤ 2 ^ 32)
    {key : PoolKey} {id : ConnId} {conn : Connection ρ κ}
    (hconn : ((fresh configs env).afterAll operations).ctx.conn? id = some conn)
    (hserves : conn.ServesFor key) :
    ∃ config, configs.get? key = some config ∧
      ((fresh configs env).afterAll operations).Reaches id config.target := by
  obtain ⟨-, -, hconfigs⟩ := sound_of_run configs env operations ha
  have hledger := (resourceLedger_of_run configs env operations ha).2
  obtain ⟨config, hconfig, hstarted⟩ := aimed_of_run configs env operations ha id conn key hconn
    hserves
  rw [ctx_view, hconfigs] at hconfig
  refine ⟨config, hconfig, conn, hconn, fun other => ⟨hledger.kept.target_eq hstarted, ?_⟩⟩
  rintro rfl
  exact hstarted

/-- After every run and for every key, the connections in the lists of the pool
    and the direct ones lent in its stead are connections to the target
    configured for the key; and so is every connection that an acquisition
    under the key answers. -/
theorem targets_of_run (configs : Registry) (env : ω) (operations : List (Operation ρ κ))
    (ha : ((fresh configs env).afterAll operations).ctx.conns.slots.length ≤ 2 ^ 32) :
    (∀ key id, ((fresh configs env).afterAll operations).ctx.ListsFor key id →
      ∃ config, configs.get? key = some config ∧
        ((fresh configs env).afterAll operations).Reaches id config.target) ∧
    ∀ step ∈ (fresh configs env).steps operations, ∀ key id,
      step.operation.Lends step.answer id key →
        ∃ config, configs.get? key = some config ∧ step.after.Reaches id config.target := by
  constructor
  · intro key id hlists
    obtain ⟨hw, -, -⟩ := sound_of_run configs env operations ha
    obtain ⟨conn, hconn, hserves⟩ := hlists.servesFor hw
    exact reaches_of_servesFor configs env operations ha hconn hserves
  · intro step hmem key id hlends
    obtain ⟨hw, acts, hcourse, hpath⟩ :=
      course_of_mem_steps (Context.Orderly.fresh configs) operations ha step hmem
    obtain ⟨conn, hconn, hlent⟩ := (hcourse.lent_iff hpath hw).2 (.inl hlends)
    have hslots := addressable_of_mem_steps ha hmem
    -- the run up to the step leads to where the step leads
    obtain ⟨first, -, hafter⟩ := exists_run_of_mem_steps hmem
    rw [ctx_view, hafter] at hconn
    rw [hafter] at hslots ⊢
    exact reaches_of_servesFor configs env _ hslots hconn hlent.servesFor

/-- Two pools with databases of their own, each of at most one connection. -/
def twoPools : Registry :=
  (KeyMap.empty.insert "a" ⟨"a", .uri "first", 1, 1, 1⟩).insert "b" ⟨"b", .uri "second", 1, 1, 1⟩

/-- Both pools lend, one of them a direct connection as well, which it takes
    over when it has room; then all is shut down, and the slots are used for the
    other pool first. -/
def mixedRun : List (Operation String String) :=
  [.acquire "a" none none, .acquire "a" none none, .acquire "b" none none, .disconnect ⟨0, 0⟩ none,
    .advance ⟨0, 0⟩ .closed, .reclaim ⟨1, 0⟩, .shutdown, .acquire "b" none none,
    .acquire "a" none none]

theorem targets_of_mixedRun :
    ((fresh twoPools slowStage).afterAll mixedRun).ctx.conns.slots.length ≤ 2 ^ 32 ∧
      ((fresh twoPools slowStage).afterAll mixedRun).ctx.ListsFor "a" ⟨1, 1⟩ ∧
      ∃ config, twoPools.get? "a" = some config ∧
        ((fresh twoPools slowStage).afterAll mixedRun).Reaches ⟨1, 1⟩ config.target := by
  have ha : ((fresh twoPools slowStage).afterAll mixedRun).ctx.conns.slots.length ≤ 2 ^ 32 := by
    decide +kernel
  have hpool : (((fresh twoPools slowStage).afterAll mixedRun).ctx.pools.get? "a").isSome := by
    decide +kernel
  have hbusy : ⟨1, 1⟩ ∈ ((fresh twoPools slowStage).afterAll mixedRun).ctx.collection (.busy "a") :=
    by decide +kernel
  have hlists : ((fresh twoPools slowStage).afterAll mixedRun).ctx.ListsFor "a" ⟨1, 1⟩ := by
    obtain ⟨pool, hpool⟩ := Option.isSome_iff_exists.1 hpool
    rw [Context.collection_busy_of_get? hpool] at hbusy
    exact .inl ⟨pool, hpool, .inr hbusy⟩
  exact ⟨ha, hlists, (targets_of_run twoPools slowStage mixedRun ha).1 "a" _ hlists⟩

end Worker
end ConnPool
