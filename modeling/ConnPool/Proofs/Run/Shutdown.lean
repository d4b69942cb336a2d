/-
  ConnPool.Proofs.Run.Shutdown

  Shutting down along runs.

  Shutting down closes the live connections one after another, in slot order,
  whatever their handshakes, pools and lists, and then drops the pools.  What
  is left is a context without connections, lists and pools, and an event loop
  that watches nothing.  Such a context serves as a fresh one does: its lists
  account for what it opens, and its pools are created empty when they are
  asked again.
-/

import ConnPool.Proofs.Run.Records
import ConnPool.Proofs.Run.Targets
import ConnPool.Proofs.Run.Watching
import ConnPool.Proofs.Worker.Confinement

namespace ConnPool

variable {ω ρ κ : Type} [Environment ω]

/-! ## Closing -/

omit [Environment ω] in
/-- What a shutdown does for one connection: the event loop forgets the socket,
    the connect callback is told of the shutdown and the disconnect callback
    that all is well, and the session ends. -/
def Connection.closing (conn : Connection ρ κ) (id : ConnId) : List (Event ρ κ) :=
  .deregistered conn.socket ::
    (conn.connectCall id (.error .shutdown) ++ conn.disconnectCall id (.ok ()) ++
      [.tornDown conn.session])

/-- Whether a step closes everything, and leaves nothing behind. -/
structure Step.Closes (step : Step ω ρ κ) : Prop where
  answer_eq : step.answer = .released step.before.ctx.count
  /-- The live connections are closed, each once, in slot order. -/
  events_eq : step.events =
    (step.before.ctx.conns.entries.flatMap fun entry => entry.2.closing entry.1) ++
      [.logged (.shutDown step.before.ctx.count)]
  mem_entries_iff : ∀ id conn,
    (id, conn) ∈ step.before.ctx.conns.entries ↔ step.before.ctx.conn? id = some conn
  ordered : (step.before.ctx.conns.entries.map Prod.fst).Pairwise fun id other =>
    id.index.toNat < other.index.toNat
  /-- Only handshakes that are still running are told of the shutdown. -/
  connecting_of_onConnect : ∀ id conn, step.before.ctx.conn? id = some conn →
    conn.onConnect ≠ none → conn.state = .connecting
  conn?_eq_none : ∀ id, step.after.ctx.conn? id = none
  count_eq_zero : step.after.ctx.count = 0
  registry_eq_nil : step.after.ctx.registry = []
  get?_eq_none : ∀ key, step.after.ctx.pools.get? key = none
  unwatched : ∀ socket, step.after.watches socket = none
  /-- A second shutdown finds nothing to do. -/
  again : step.after.perform .shutdown = (.released 0, step.after.log (.shutDown 0))

/-! ## Starting over -/

/-- Whether a step creates the pool under `key`: it asks a pool that is not
    there, and goes on as if it had been there, empty, from the start. -/
structure Step.Creates (step : Step ω ρ κ) (key : PoolKey) : Prop where
  asks : step.operation.AsksPool key
  get?_eq_none : step.before.ctx.pools.get? key = none
  empty : ∃ pool w, step.before.ctx.configs.get? key = some pool.config ∧
    pool.free = [] ∧ pool.busy = [] ∧ pool.overflowCount = 0 ∧
    step.before.poolAt key = (.ok pool, w) ∧
    w.ctx = { step.before.ctx with pools := step.before.ctx.pools.insert key pool } ∧
    step.before.perform step.operation = w.perform step.operation

/-- Whether a run keeps its lists in order, and creates its pools empty. -/
structure Worker.StartsOver (w : Worker ω ρ κ) (operations : List (Operation ρ κ)) : Prop where
  accounted : (w.afterAll operations).ctx.Accounted
  /-- A pool that a step leaves behind and did not find was created by it. -/
  creates : ∀ step ∈ w.steps operations, ∀ key pool,
    step.before.ctx.pools.get? key = none → step.after.ctx.pools.get? key = some pool →
      step.Creates key
  /-- A registered pool is there once it was asked. -/
  asked : ∀ step ∈ w.steps operations, ∀ key, step.operation.AsksPool key →
    (step.before.ctx.configs.get? key).isSome →
      ∃ pool, step.after.ctx.pools.get? key = some pool

namespace Worker

/-- Asking a pool looks it up first. -/
theorem perform_of_poolAt {w w₁ : Worker ω ρ κ} {key : PoolKey} {pool : Pool}
    (h : w.poolAt key = (.ok pool, w₁)) (hget : w₁.ctx.pools.get? key = some pool)
    {operation : Operation ρ κ} (hasks : operation.AsksPool key) :
    w.perform operation = w₁.perform operation := by
  rcases hasks with ⟨request, onConnect, rfl⟩ | ⟨count, rfl⟩
  · rw [perform, perform, acquire_of_poolAt h hget]
  · rw [perform, perform, spawn_of_poolAt h hget]

end Worker

namespace Step

variable {step : Step ω ρ κ} {key : PoolKey} {config : PoolConfig}

/-- Asking a pool that is registered but not there creates it. -/
theorem creates_of_asksPool (hasks : step.operation.AsksPool key)
    (hnone : step.before.ctx.pools.get? key = none)
    (hconfig : step.before.ctx.configs.get? key = some config) : step.Creates key where
  asks := hasks
  get?_eq_none := hnone
  empty := by
    have hcreated := Worker.poolAt_of_none hnone hconfig
    have hpool : step.before.poolAt key = (.ok { config }, (step.before.poolAt key).2) := by
      rw [hcreated]
    have hctx : (step.before.poolAt key).2.ctx =
        { step.before.ctx with pools := step.before.ctx.pools.insert key { config } } := by
      rw [hcreated]
      rfl
    have hget : (step.before.poolAt key).2.ctx.pools.get? key = some { config } := by
      rw [hctx]
      exact KeyMap.get?_insert_self _ _ _
    exact ⟨{ config }, _, hconfig, rfl, rfl, rfl, hpool, hctx,
      Worker.perform_of_poolAt hpool hget hasks⟩

/-- A step that leaves a pool behind and did not find it creates it. -/
theorem creates_of_get? {acts : List (Act ρ κ)}
    (hcourse : Course step.operation step.answer acts)
    (hpath : Path step.before.view acts step.after.view) {pool : Pool}
    (hnone : step.before.ctx.pools.get? key = none)
    (hpool : step.after.ctx.pools.get? key = some pool) : step.Creates key := by
  have hbefore : step.before.ctx.poolConfig? key = none := by
    rw [Context.poolConfig?, hnone]
    rfl
  obtain ⟨config, hmem⟩ := hpath.poolCreated_mem hbefore
    (Option.isSome_of_eq_some (Context.poolConfig?_of_get? hpool))
  -- the registry is the same at the step and where the pool is created
  obtain ⟨earlier, later, v, -, hearlier, enabled, -⟩ := hpath.of_mem hmem
  have hconfig : step.before.ctx.configs.get? key = some config := by
    have hkept : v.ctx.configs = step.before.ctx.configs := hearlier.configs_eq
    rw [← hkept]
    exact enabled.2
  exact creates_of_asksPool (hcourse.asksPool_of_poolCreated hmem) hnone hconfig

/-- After a pool that is registered was asked, it is there. -/
theorem exists_pool_of_asksPool (hw : step.before.ctx.Orderly)
    (ha : step.after.view.slotCount ≤ 2 ^ 32) (hasks : step.operation.AsksPool key)
    (hconfig : (step.before.ctx.configs.get? key).isSome) :
    ∃ pool, step.after.ctx.pools.get? key = some pool := by
  rcases hpool : step.before.poolAt key with ⟨result, w⟩
  rcases Worker.poolAt_cases hpool with ⟨-, -, -, hnone⟩ | ⟨pool, -, rfl, hget, -, -⟩
  · rw [hnone] at hconfig
    cases hconfig
  · -- from where the pool was looked up, nothing drops it
    have hsame : step.after = (Step.mk w step.operation).after :=
      congrArg Prod.snd (Worker.perform_of_poolAt hpool hget hasks)
    rw [hsame] at ha ⊢
    obtain ⟨acts, hcourse, hpath⟩ := Worker.perform_course (Worker.orderly_of_poolAt hw hpool).2
      (rfl : w.perform step.operation = (_, _)) ha
    refine Context.exists_pool_of_poolConfig? (Option.isSome_of_eq_some
      (hpath.poolConfig? (fun hmem => ?_) (Context.poolConfig?_of_get? hget)))
    have hshutdown : step.operation = .shutdown := hcourse.belongsTo _ hmem
    have hprovides := hasks.provides
    rw [hshutdown] at hprovides
    exact hprovides

end Step

namespace Worker

/-- Every run from a context in order keeps its lists in order, and creates its
    pools empty. -/
theorem startsOver_of_orderly {w : Worker ω ρ κ} (hw : w.ctx.Orderly)
    (operations : List (Operation ρ κ))
    (ha : (w.afterAll operations).ctx.conns.slots.length ≤ 2 ^ 32) : w.StartsOver operations where
  accounted := by
    have hrun := run_induction (P := fun _ _ => True) hw trivial
      (fun _ _ _ _ _ _ _ _ => trivial) operations ha
    exact hrun.1.accounted ha
  creates := by
    intro step hmem key pool hnone hpool
    obtain ⟨-, acts, hcourse, hpath⟩ := course_of_mem_steps hw operations ha step hmem
    exact Step.creates_of_get? hcourse hpath hnone hpool
  asked := by
    intro step hmem key hasks hconfig
    have hstep := (course_of_mem_steps hw operations ha step hmem).1
    exact Step.exists_pool_of_asksPool hstep (addressable_of_mem_steps ha hmem) hasks hconfig

/-! ## Shutdowns -/

omit [Environment ω] in
/-- A connection that the event loop watches is closed by its end. -/
theorem events_finished_shutDown {conn : Connection ρ κ} (h : conn.Watched) (id : ConnId) :
    (Act.finished id conn .shutDown).events = conn.closing id := by
  rw [Act.events, Ending.events, h.unwatching_eq]
  simp [Ending.heralds, Ending.calls, Connection.closing]

/-- What is done in a shutdown, if everything that is live is watched. -/
theorem events_of_shutdown {w : Worker ω ρ κ} (ha : w.ctx.conns.Addressable)
    (hwatched : w.ctx.Watched) (hw : w.ctx.conns.WellFormed) :
    (Step.mk w .shutdown).events =
      (w.ctx.conns.entries.flatMap fun entry => entry.2.closing entry.1) ++
        [.logged (.shutDown w.ctx.count)] := by
  have hclosing : (w.ctx.conns.entries.map fun entry =>
      Act.finished entry.1 entry.2 .shutDown).flatMap Act.events =
        w.ctx.conns.entries.flatMap fun entry => entry.2.closing entry.1 := by
    rw [List.flatMap_map]
    refine List.flatMap_congr fun entry hmem => ?_
    exact events_finished_shutDown
      (hwatched entry.1 entry.2 ((Arena.mem_entries ha).1 hmem)) entry.1
  have hcount : w.ctx.count = w.ctx.ids.length := hw.size_eq_length_ids
  rw [Step.events_eq (path_shutdown w ha), List.flatMap_append, hclosing, hcount]
  rfl

/-- Nothing is live after a shutdown. -/
theorem conn?_shutdown {w : Worker ω ρ κ} (ha : w.ctx.conns.Addressable) (id : ConnId) :
    w.shutdown.2.ctx.conn? id = none := by
  -- the pools are dropped where nothing is left, and that is what stays
  obtain ⟨v, -, hlast⟩ := (path_shutdown w ha).of_append
  cases hlast with
  | cons enabled hnoted =>
      have hctx : w.shutdown.2.view.ctx = { v.ctx with pools := .empty } := by
        rw [← hnoted.run_eq]
        rfl
      show w.shutdown.2.view.ctx.conn? id = none
      rw [hctx]
      exact enabled id

/-- Where nothing is live and no pool is there, a shutdown does nothing. -/
theorem shutdown_of_bare {w : Worker ω ρ κ} (hids : w.ctx.ids = [])
    (hpools : w.ctx.pools = .empty) : w.shutdown = (0, w.log (.shutDown 0)) := by
  have hsame : { w.ctx with pools := .empty } = w.ctx := by
    rw [← hpools]
  rw [shutdown, hids]
  show (0, (w.withCtx ({ · with pools := .empty })).log (.shutDown 0)) = _
  rw [withCtx, hsame]

end Worker

/-- Shutting down a context in order closes everything. -/
theorem Step.closes {w : Worker ω ρ κ} (hw : w.ctx.Orderly) (hsound : w.ctx.Sound)
    (ha : w.ctx.conns.Addressable)
    (hcurrent : w.shutdown.2.watches.Current w.shutdown.2.ctx) :
    (Step.mk w .shutdown).Closes := by
  have hcount : w.ctx.count = w.ctx.ids.length := hw.arena.size_eq_length_ids
  have hnone : ∀ id, w.shutdown.2.ctx.conn? id = none := Worker.conn?_shutdown ha
  have hw' : w.shutdown.2.ctx.Orderly := (Worker.path_shutdown w ha).orderly hw
  have ha' : w.shutdown.2.ctx.conns.Addressable := by
    show w.shutdown.2.view.slotCount ≤ 2 ^ 32
    rw [Worker.slotCount_shutdown]
    exact ha
  -- ids are of live connections, and none is left
  have hids : w.shutdown.2.ctx.ids = [] := by
    refine List.eq_nil_iff_forall_not_mem.2 fun id hmem => ?_
    have hlive : (w.shutdown.2.ctx.conn? id).isSome := (Arena.mem_ids ha').1 hmem
    rw [hnone] at hlive
    cases hlive
  constructor
  case answer_eq => exact congrArg Answer.released hcount.symm
  case events_eq => exact Worker.events_of_shutdown ha hsound.watched hw.arena
  case mem_entries_iff => exact fun id conn => Arena.mem_entries ha
  case ordered => exact Arena.pairwise_ids ha
  case connecting_of_onConnect =>
    intro id conn hconn honConnect
    have hrecord := hsound.of_conn? hw hconn
    cases hstate : conn.state with
    | connecting => rfl
    | connected => exact absurd (hrecord.of_connected hstate).1 honConnect
    | closed => exact absurd hstate hrecord.not_closed
  case conn?_eq_none => exact hnone
  case count_eq_zero =>
    have hsize : w.shutdown.2.ctx.count = w.shutdown.2.ctx.ids.length :=
      hw'.arena.size_eq_length_ids
    rw [hids] at hsize
    exact hsize
  case registry_eq_nil => exact hw'.collection_eq_nil hnone .registry
  case get?_eq_none => exact fun key => rfl
  case unwatched =>
    intro socket
    rw [Option.eq_none_iff_forall_ne_some]
    rintro ⟨interest, id⟩ hentry
    -- a socket is watched for the connection that has it, and none is left
    have hsocket := hcurrent socket interest id hentry
    rw [Context.socket?, hnone] at hsocket
    cases hsocket
  case again =>
    have hagain : w.shutdown.2.shutdown = (0, w.shutdown.2.log (.shutDown 0)) :=
      Worker.shutdown_of_bare hids rfl
    have hperform : w.shutdown.2.perform .shutdown =
        (.released w.shutdown.2.shutdown.1, w.shutdown.2.shutdown.2) := rfl
    rw [hagain] at hperform
    exact hperform

namespace Worker

/-- After every run, a shutdown closes all live connections, in slot order, each
    with its own calls, answers how many they were, and leaves nothing behind;
    and whatever run follows, the lists account for what it opens, and its
    pools are created empty. -/
theorem closes_of_run (configs : Registry) (env : ω) (operations : List (Operation ρ κ))
    (ha : ((fresh configs env).afterAll operations).ctx.conns.slots.length ≤ 2 ^ 32) :
    (Step.mk ((fresh configs env).afterAll operations) .shutdown).Closes ∧
      ∀ rest : List (Operation ρ κ),
        ((fresh configs env).afterAll (operations ++ .shutdown :: rest)).ctx.conns.slots.length ≤
            2 ^ 32 →
          (Step.mk ((fresh configs env).afterAll operations) .shutdown).after.StartsOver rest := by
  have hafter : (fresh configs env).afterAll (operations ++ [.shutdown]) =
      (Step.mk ((fresh configs env).afterAll operations) .shutdown).after :=
    afterAll_append _ operations [.shutdown]
  obtain ⟨hw, hsound, -⟩ := sound_of_run configs env operations ha
  constructor
  · have hslots :
        ((fresh configs env).afterAll (operations ++ [.shutdown])).ctx.conns.slots.length ≤
          2 ^ 32 := by
      rw [hafter]
      exact Nat.le_trans (Nat.le_of_eq (slotCount_shutdown _)) ha
    have hcurrent := current_of_run configs env (operations ++ [.shutdown]) hslots
    rw [hafter] at hcurrent
    exact Step.closes hw hsound ha hcurrent
  · intro rest hrest
    rw [afterAll_append, afterAll_cons] at hrest
    exact startsOver_of_orderly ((path_shutdown _ ha).orderly hw) rest hrest

/-- One connection that is still connecting is lent and to be closed, another
    one is lent in the stead of its pool, the third is idle, and the last is a
    direct one. -/
def variedRun : List (Operation String String) :=
  [.acquire "a" (some "first") (some "told"), .acquire "a" (some "second") none,
    .acquire "b" none none, .reclaim ⟨2, 0⟩, .connectUri none none "u",
    .disconnect ⟨0, 0⟩ (some "closed")]

/-- The pools are asked again, in the other order. -/
def secondRun : List (Operation String String) :=
  [.acquire "b" none none, .acquire "a" none none, .acquire "a" none none]

theorem closes_of_variedRun :
    ((fresh twoPools slowStage).afterAll variedRun).ctx.conns.slots.length ≤ 2 ^ 32 ∧
      (Step.mk ((fresh twoPools slowStage).afterAll variedRun) .shutdown).Closes ∧
      ((fresh twoPools slowStage).afterAll
          (variedRun ++ .shutdown :: secondRun)).ctx.conns.slots.length ≤ 2 ^ 32 ∧
      (Step.mk ((fresh twoPools slowStage).afterAll variedRun) .shutdown).after.StartsOver
        secondRun :=
  have ha := by decide +kernel
  have hrest := by decide +kernel
  ⟨ha, (closes_of_run twoPools slowStage variedRun ha).1, hrest,
    (closes_of_run twoPools slowStage variedRun ha).2 secondRun hrest⟩

end Worker
end ConnPool
