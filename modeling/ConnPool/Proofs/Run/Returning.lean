/-
  ConnPool.Proofs.Run.Returning

  What taking a lent connection back comes to.

  A connection that its pool has lent goes to the back of the idle queue, and
  so does a direct one that was lent in the stead of the pool, if there is room
  for it now.  Then the pool shrinks: with `f` connections idle, `b` lent and a
  floor of `m`, it gives up `min (f - b) (f + b - m)` of them, the oldest first.
  That is as few as will do, and it never takes the pool below its floor.
-/

import ConnPool.Proofs.Run.Lending
import ConnPool.Proofs.Run.Records
import ConnPool.Proofs.Worker.Requeueing

namespace ConnPool

variable {ω ρ κ : Type} [Environment ω]

namespace Step

/-- Whether a step puts the connection under `id` at the back of the pool under
    `key`, with the record `conn`, and has the pool, which is `queued` then,
    give up the first `count` connections of its idle queue. -/
structure Requeues (step : Step ω ρ κ) (id : ConnId) (key : PoolKey) (conn : Connection ρ κ)
    (queued : Pool) (count : Nat) : Prop where
  answer : step.answer = .status (.ok ())
  /-- The loop that shrinks the pool ends where the step ends. -/
  loop : ∃ w : Worker ω ρ κ, w.ctx.conn? id = some conn ∧ w.ctx.pools.get? key = some queued ∧
    Worker.ShrinkLoop key w step.after
  pool : step.after.ctx.pools.get? key = some { queued with free := queued.free.drop count }
  nodup : queued.free.Nodup
  count_le : count ≤ queued.free.length
  released : ∀ other ∈ queued.free.take count,
    (step.before.ctx.conn? other).isSome ∧ step.after.ctx.conn? other = none
  /-- All that is done is to let go of what is given up, in order. -/
  deeds : step.events.filter Event.isDeed =
    (queued.free.take count).flatMap step.before.ctx.dismantling
  not_called : ∀ event ∈ step.events, event.isCall = false
  kept : id ∉ queued.free.take count → step.after.ctx.conn? id = some conn
  conns : ∀ other, other ≠ id → other ∉ queued.free.take count →
    step.after.ctx.conn? other = step.before.ctx.conn? other
  pools : ∀ other, other ≠ key →
    step.after.ctx.pools.get? other = step.before.ctx.pools.get? other

variable {step : Step ω ρ κ} {id : ConnId} {key : PoolKey} {conn : Connection ρ κ} {queued : Pool}

/-- What an act that gives a connection back to a pool is followed by. -/
theorem requeues_of_returns (hw : step.before.ctx.Orderly) (hsound : step.before.ctx.Sound)
    (act : Act ρ κ) {w : Worker ω ρ κ} (hreturns : act.Returns id key)
    (enabled : act.Enabled step.before.view) (hrun : act.run step.before.view = w.view)
    (hchange : act.change = some (id, some conn)) (hpool : w.ctx.pools.get? key = some queued)
    (hanswer : step.answer = .status (.ok ())) (hafter : step.after = w.shrink key) :
    step.Requeues id key conn queued queued.excess ∧ step.after.ctx.registry = w.ctx.registry := by
  have hfirst : Path step.before.view [act] w.view := .single enabled hrun
  have hw₁ : w.ctx.Orderly := hfirst.orderly hw
  have hsound₁ : w.ctx.Sound := hfirst.sound hw hsound
  obtain ⟨hloop, ⟨acts, hshrinking, hpath⟩, hshrunk⟩ := Worker.shrink_shrinking hw₁ hpool
  rw [← hafter] at hloop hpath hshrunk
  -- between the return and the shrinking, only the returned connection is another
  have hconn : ∀ other, w.ctx.conn? other =
      if other = id then some conn else step.before.ctx.conn? other := by
    intro other
    have hsame := Act.conn?_run enabled hw other
    rw [hrun, hchange] at hsame
    exact hsame
  have hdeeds : step.events.filter Event.isDeed =
      (queued.free.take queued.excess).flatMap step.before.ctx.dismantling := by
    have hlater := hshrinking.filter_isDeed hpath hw₁ hsound₁.coherent hsound₁.watched
    rw [events_eq (hfirst.append hpath), List.singleton_append, List.flatMap_cons,
      List.filter_append, hreturns.filter_isDeed, List.nil_append, hlater, ← hrun]
    exact List.flatMap_congr fun other _ => hreturns.dismantling_run enabled hw other
  constructor
  · constructor
    case answer => exact hanswer
    case loop =>
      refine ⟨w, ?_, hpool, hloop⟩
      rw [hconn, if_pos rfl]
    case pool => exact hshrunk
    case nodup =>
      rw [← Context.collection_free_of_get? hpool]
      exact hw₁.nodup _
    case count_le => exact queued.excess_le_length
    case released =>
      intro other hmem
      have hlive : (w.ctx.conn? other).isSome := hshrinking.live_of_mem hpath hmem
      have hgone := hshrinking.conn?_eq hpath other
      rw [if_pos hmem] at hgone
      refine ⟨?_, hgone⟩
      -- being held is what the return leaves alone, also for the one returned
      have hheld : w.view.ctx.held? other = step.before.view.ctx.held? other := by
        rw [← hrun]
        exact hreturns.held?_run enabled hw other
      rw [← Context.isSome_held?] at hlive ⊢
      exact (congrArg Option.isSome hheld).symm.trans hlive
    case deeds => exact hdeeds
    case not_called => exact not_isCall_of_dismantling hdeeds
    case kept =>
      intro hnot
      have hkept := hshrinking.conn?_eq hpath id
      rw [if_neg hnot] at hkept
      refine hkept.trans ?_
      show w.ctx.conn? id = some conn
      rw [hconn, if_pos rfl]
    case conns =>
      intro other hne hnot
      have hkept := hshrinking.conn?_eq hpath other
      rw [if_neg hnot] at hkept
      refine hkept.trans ?_
      show w.ctx.conn? other = _
      rw [hconn, if_neg hne]
    case pools =>
      intro other hne
      have hsame := hshrinking.get?_of_ne hpath hne
      refine hsame.trans ?_
      show w.view.ctx.pools.get? other = _
      rw [← hrun]
      exact Act.get?_run enabled fun htouches => hne (hreturns.eq_of_touches htouches)
  · exact hshrinking.registry_eq hpath

/-- A connection that its pool has lent is put back, and the pool shrinks. -/
theorem requeues_of_busy (hw : step.before.ctx.Orderly) (hsound : step.before.ctx.Sound)
    (hreclaim : step.operation = .reclaim id) {pool : Pool}
    (hpool : step.before.ctx.pools.get? key = some pool) (hbusy : id ∈ pool.busy)
    (hqueued : queued = { pool with free := pool.free ++ [id], busy := pool.busy.erase id }) :
    ∃ conn, step.before.ctx.conn? id = some conn ∧ conn.membership = .busy key ∧
      step.Requeues id key (conn.returnedTo key) queued queued.excess ∧
      step.after.ctx.registry = step.before.ctx.registry := by
  rw [← Context.collection_busy_of_get? hpool] at hbusy
  obtain ⟨conn, hconn, hmembership⟩ := hw.conn?_of_mem hbusy
  obtain ⟨pool₁, -, heq, enabled, hrun⟩ := Worker.reclaim_of_busy hw hconn hmembership
  generalize (step.before.putBack id key).log _ = w at heq hrun
  have hctx : w.ctx = step.before.ctx.transfer id conn (·.returnedTo key) :=
    Worker.ctx_of_view hrun.symm
  have hnodup : pool.busy.Nodup := by
    rw [← Context.collection_busy_of_get? hpool]
    exact hw.nodup _
  have hpool₁ : w.ctx.pools.get? key = some queued := by
    rw [hctx, Context.get?_transfer_returnedTo hmembership hpool, Pool.dropBusy,
      ← Context.erase_eq_filter_ne hnodup, hqueued]
    rfl
  have hperform : step.before.perform step.operation = (.status (.ok ()), w.shrink key) := by
    rw [hreclaim, Worker.perform, heq]
  obtain ⟨hrequeues, hregistry⟩ := requeues_of_returns hw hsound
    (.takenBack id conn key pool₁.load) ⟨rfl, rfl⟩ enabled hrun rfl hpool₁
    (congrArg Prod.fst hperform) (congrArg Prod.snd hperform)
  refine ⟨conn, hconn, hmembership, hrequeues, ?_⟩
  rw [hregistry, hctx]
  exact Context.registry_transfer_returnedTo hmembership

/-- A direct connection is taken over by a pool with room, which shrinks then. -/
theorem requeues_of_room (hw : step.before.ctx.Orderly) (hsound : step.before.ctx.Sound)
    (hreclaim : step.operation = .reclaim id) {conn : Connection ρ κ}
    (hconn : step.before.ctx.conn? id = some conn) (hmembership : conn.membership = .registry)
    (hoverflow : conn.overflowOf = some key) {pool : Pool}
    (hpool : step.before.ctx.pools.get? key = some pool) (hroom : pool.size < pool.config.maxSize)
    (hqueued : queued = { pool with free := pool.free ++ [id] }) :
    step.Requeues id key (conn.adoptedBy key) queued queued.excess ∧
      step.after.ctx.registry = step.before.ctx.registry.filter (· ≠ id) := by
  obtain ⟨pool₁, -, heq, enabled, hrun⟩ :=
    Worker.reclaimDirect_of_room hconn hmembership hoverflow hpool hroom
  generalize (step.before.adopt id key).log _ = w at heq hrun
  have hctx : w.ctx = step.before.ctx.transfer id conn (·.adoptedBy key) :=
    Worker.ctx_of_view hrun.symm
  have hpool₁ : w.ctx.pools.get? key = some queued := by
    rw [hctx, Context.get?_transfer_adoptedBy hmembership hpool, hqueued]
    rfl
  have hperform : step.before.perform step.operation = (.status (.ok ()), w.shrink key) := by
    rw [hreclaim, Worker.perform, Worker.reclaim_of_overflow hconn hmembership hoverflow, heq]
  obtain ⟨hrequeues, hregistry⟩ := requeues_of_returns hw hsound
    (.adopted id conn key pool₁.size) ⟨rfl, rfl⟩ enabled hrun rfl hpool₁
    (congrArg Prod.fst hperform) (congrArg Prod.snd hperform)
  refine ⟨hrequeues, ?_⟩
  rw [hregistry, hctx]
  exact Context.registry_transfer_adoptedBy hmembership

namespace Requeues

/-- What has come back cannot be taken back once more. -/
theorem reclaim_again (h : step.Requeues id key conn queued queued.excess)
    (hfree : conn.membership = .free key) : ∃ error,
      step.after.perform (.reclaim id) = (.status (.error error), step.after) := by
  by_cases hmem : id ∈ queued.free.take queued.excess
  · refine ⟨.unknownConnection id, ?_⟩
    rw [Worker.perform, Worker.reclaim_of_none (h.released id hmem).2]
  · refine ⟨.notBorrowed id, ?_⟩
    rw [Worker.perform, Worker.reclaim_of_not_lent (h.kept hmem)]
    · intro k hbusy
      rw [hfree] at hbusy
      cases hbusy
    · intro k hregistry
      rw [hfree] at hregistry
      cases hregistry

/-- Where a pool with a floor gives up its excess, the connection that came
    back last stays, at the end of the queue. -/
theorem stays (h : step.Requeues id key conn queued queued.excess) {front : List ConnId}
    (hqueue : queued.free = front ++ [id]) (hnot : id ∉ front)
    (hfloor : 1 ≤ queued.config.minSize) :
    step.after.ctx.conn? id = some conn ∧
      (queued.free.drop queued.excess).getLast? = some id := by
  have hle : queued.excess ≤ front.length := by
    rw [Pool.excess, Pool.size, hqueue, List.length_append, List.length_singleton]
    omega
  constructor
  · refine h.kept fun hmem => ?_
    rw [hqueue, List.take_append_of_le_length hle] at hmem
    exact hnot (List.mem_of_mem_take hmem)
  · rw [hqueue, List.drop_append_of_le_length hle, List.getLast?_append]
    rfl

/-- What is lent elsewhere is not given up. -/
theorem conn?_of_busy (h : step.Requeues id key conn queued queued.excess)
    (hw : step.before.ctx.Orderly) {pool : Pool}
    (hpool : step.before.ctx.pools.get? key = some pool) (hqueue : queued.free = pool.free ++ [id])
    {other : ConnId} (hne : other ≠ id) {k : PoolKey}
    (hbusy : other ∈ step.before.ctx.collection (.busy k)) :
    step.after.ctx.conn? other = step.before.ctx.conn? other := by
  refine h.conns other hne fun hmem => ?_
  have hmem' := List.mem_of_mem_take hmem
  rw [hqueue] at hmem'
  rcases List.mem_append.1 hmem' with hfree | hid
  · -- nothing is both idle and lent
    rw [← Context.collection_free_of_get? hpool, hw.mem_collection] at hfree
    rw [hw.mem_collection, hfree] at hbusy
    cases hbusy
  · exact hne (List.mem_singleton.1 hid)

end Requeues

/-- Whether a step releases the connection under `id` without a word to anyone,
    and leaves everything else as it is. -/
structure Dismisses (step : Step ω ρ κ) (id : ConnId) : Prop where
  answer : step.answer = .status (.ok ())
  gone : step.after.ctx.conn? id = none
  deeds : step.events.filter Event.isDeed = step.before.ctx.dismantling id
  not_called : ∀ event ∈ step.events, event.isCall = false
  conns : ∀ other, other ≠ id → step.after.ctx.conn? other = step.before.ctx.conn? other
  pools : ∀ key, step.after.ctx.pools.get? key = step.before.ctx.pools.get? key

/-- A direct connection that finds no room in its pool is released. -/
theorem dismisses_of_full (hwatched : step.before.ctx.Watched)
    (hreclaim : step.operation = .reclaim id) {conn : Connection ρ κ}
    (hconn : step.before.ctx.conn? id = some conn) (hmembership : conn.membership = .registry)
    (hoverflow : conn.overflowOf = some key)
    (hfull : ∀ pool, step.before.ctx.pools.get? key = some pool →
      ¬pool.size < pool.config.maxSize) :
    step.Dismisses id ∧
      step.after.ctx.registry = step.before.ctx.registry.filter (· ≠ id) := by
  obtain ⟨w, heq, hpath⟩ := Worker.reclaimDirect_of_full hconn hmembership hoverflow hfull
  have hperform : step.before.perform step.operation = (.status (.ok ()), w) := by
    rw [hreclaim, Worker.perform, Worker.reclaim_of_overflow hconn hmembership hoverflow, heq]
  have hafter : step.after = w := congrArg Prod.snd hperform
  rw [← hafter] at hpath
  have hctx : step.after.ctx = step.before.ctx.without id conn := by
    rw [← Worker.ctx_view, ← hpath.run_eq]
    rfl
  have hdeeds : step.events.filter Event.isDeed = step.before.ctx.dismantling id := by
    rw [events_eq hpath, List.flatMap_singleton, Context.dismantling_of_conn? hconn]
    exact Ending.filter_isDeed_dismissed (hwatched id conn hconn) key
  constructor
  · constructor
    case answer => exact congrArg Prod.fst hperform
    case gone =>
      rw [hctx, Context.conn?_without, if_pos rfl]
    case deeds => exact hdeeds
    case not_called =>
      have hlist : step.events.filter Event.isDeed = [id].flatMap step.before.ctx.dismantling := by
        rw [hdeeds, List.flatMap_singleton]
      exact not_isCall_of_dismantling hlist
    case conns =>
      intro other hne
      rw [hctx, Context.conn?_without, if_neg hne]
    case pools =>
      intro other
      rw [hctx, Context.without, hmembership]
      rfl
  · rw [hctx, Context.without, hmembership]
    rfl

theorem Dismisses.reclaim_again (h : step.Dismisses id) : ∃ error,
    step.after.perform (.reclaim id) = (.status (.error error), step.after) := by
  refine ⟨.unknownConnection id, ?_⟩
  rw [Worker.perform, Worker.reclaim_of_none h.gone]

end Step

namespace Worker

/-- Taking back a connection that its pool has lent, in closed form.  It goes to
    the back of the idle queue, and of the `f` connections that are idle then,
    with `b` lent, the pool gives up the oldest `k = min (f - b) (f + b - m)`, `m`
    being its floor.  That brings the pool into its band and is the least that
    does, it does not take it below its floor, it concerns nothing that is lent,
    and with a floor it spares the connection that came back. -/
theorem requeues_of_run (configs : Registry) (env : ω) (operations : List (Operation ρ κ))
    (ha : ((fresh configs env).afterAll operations).ctx.conns.slots.length ≤ 2 ^ 32) :
    ∀ step ∈ (fresh configs env).steps operations, ∀ id key pool,
      step.operation = .reclaim id → step.before.ctx.pools.get? key = some pool →
      id ∈ pool.busy →
      let f := pool.free.length + 1
      let b := pool.busy.length - 1
      let k := min (f - b) (f + b - pool.config.minSize)
      let queued : Pool := { pool with free := pool.free ++ [id], busy := pool.busy.erase id }
      let left : Pool := { queued with free := queued.free.drop k }
      ∃ conn, step.before.ctx.conn? id = some conn ∧
        step.Requeues id key (conn.returnedTo key) queued k ∧
        step.after.ctx.registry = step.before.ctx.registry ∧
        left.InBand ∧ (∀ n < k, ¬{ queued with free := queued.free.drop n }.InBand) ∧
        (pool.config.minSize ≤ pool.size → pool.config.minSize ≤ left.size) ∧
        (∀ other other', other ∈ step.before.ctx.collection (.busy other') → other ≠ id →
          step.after.ctx.conn? other = step.before.ctx.conn? other) ∧
        (1 ≤ pool.config.minSize →
          step.after.ctx.conn? id = some (conn.returnedTo key) ∧ left.free.getLast? = some id) := by
  intro step hmem id key pool hreclaim hpool hbusy f b k queued left
  obtain ⟨hw, hsound, -⟩ := sound_of_mem_steps ha hmem
  obtain ⟨conn, hconn, hmembership, hrequeues, hregistry⟩ :=
    Step.requeues_of_busy hw hsound hreclaim hpool hbusy rfl
  have hlength : (pool.busy.erase id).length = b := List.length_erase_of_mem hbusy
  have hexcess : queued.excess = k := by
    simp only [Pool.excess, Pool.size, queued, List.length_append, List.length_singleton, hlength]
    rfl
  have hleft : left = queued.shrunk := by
    rw [Pool.shrunk, hexcess]
  have hnot : id ∉ pool.free := by
    rw [← Context.collection_free_of_get? hpool, hw.mem_collection,
      Context.membership?_of_conn? hconn, hmembership]
    exact fun hfree => Membership.noConfusion (Option.some.inj hfree)
  refine ⟨conn, hconn, ?_, hregistry, ?_, ?_, ?_, ?_, ?_⟩
  · rw [← hexcess]
    exact hrequeues
  · rw [hleft]
    exact queued.inBand_shrunk
  · intro n hlt
    exact Pool.not_inBand_drop (hexcess ▸ hlt)
  · intro hfloor
    -- what is not lent any more is idle now
    have hsize : pool.size ≤ queued.size := by
      have hpos := List.length_pos_of_mem hbusy
      simp only [Pool.size, queued, List.length_append, List.length_singleton, hlength]
      omega
    have hfloor' : queued.config.minSize ≤ queued.size := Nat.le_trans hfloor hsize
    rw [hleft]
    exact Pool.minSize_le_size_shrunk hfloor'
  · intro other k' hother hne
    exact hrequeues.conn?_of_busy hw hpool rfl hne hother
  · intro hfloor
    have hstays := hrequeues.stays rfl hnot hfloor
    rw [hexcess] at hstays
    exact hstays

/-- One pool, which opens three connections at once. -/
def widePool : Registry :=
  KeyMap.empty.insert "k" ⟨"k", .uri "u", 1, 3, 3⟩

/-- The pool after it has lent one of its three connections. -/
def wideQueue : Pool :=
  ⟨⟨"k", .uri "u", 1, 3, 3⟩, [⟨1, 0⟩, ⟨2, 0⟩], [⟨0, 0⟩], 0⟩

/-- A client whose sessions connect at once. -/
def quickStage : Scripted.Stage := {}

/-- One connection is lent and taken back. -/
def surplusRun : List (Operation String String) :=
  [.acquire "k" none none, .reclaim ⟨0, 0⟩]

/-- Two of the three connections are given up, and the one that came back stays. -/
theorem requeues_of_surplusRun :
    ((fresh widePool quickStage).afterAll surplusRun).ctx.conns.slots.length ≤ 2 ^ 32 ∧
      ∃ step ∈ (fresh widePool quickStage).steps surplusRun, step.operation = .reclaim ⟨0, 0⟩ ∧
        step.before.ctx.pools.get? "k" = some wideQueue ∧ ⟨0, 0⟩ ∈ wideQueue.busy ∧
        ∃ conn, step.Requeues ⟨0, 0⟩ "k" conn
            { wideQueue with free := [⟨1, 0⟩, ⟨2, 0⟩, ⟨0, 0⟩], busy := [] } 2 ∧
          step.after.ctx.conn? ⟨0, 0⟩ = some conn := by
  have ha : ((fresh widePool quickStage).afterAll surplusRun).ctx.conns.slots.length ≤ 2 ^ 32 := by
    decide +kernel
  have hmem : ⟨(fresh widePool quickStage).afterAll (surplusRun.take 1), .reclaim ⟨0, 0⟩⟩ ∈
      (fresh widePool quickStage).steps surplusRun :=
    List.mem_cons_of_mem _ List.mem_cons_self
  have hpool : ((fresh widePool quickStage).afterAll (surplusRun.take 1)).ctx.pools.get? "k" =
      some wideQueue := rfl
  obtain ⟨conn, -, hrequeues, -, -, -, -, -, hstays⟩ := requeues_of_run widePool quickStage
    surplusRun ha _ hmem ⟨0, 0⟩ "k" wideQueue rfl hpool List.mem_cons_self
  exact ⟨ha, _, hmem, rfl, hpool, List.mem_cons_self, _, hrequeues, (hstays (by decide)).1⟩

/-- Taking back a direct connection that was lent in the stead of a pool.  If the
    pool has room, it takes the connection over, which then is idle with nothing
    left of its caller, and shrinks as above; if it is full, the connection is
    released and the pool stays as it is.  Either way the pool keeps to its
    ceiling, the rest of the registry list its order, and the connection cannot
    be taken back twice. -/
theorem overflow_requeues_of_run (configs : Registry) (env : ω)
    (operations : List (Operation ρ κ))
    (ha : ((fresh configs env).afterAll operations).ctx.conns.slots.length ≤ 2 ^ 32) :
    ∀ step ∈ (fresh configs env).steps operations, ∀ id conn key,
      step.operation = .reclaim id → step.before.ctx.conn? id = some conn →
      conn.membership = .registry → conn.overflowOf = some key →
      ∃ pool, step.before.ctx.pools.get? key = some pool ∧ pool.size ≤ pool.config.maxSize ∧
        (pool.size < pool.config.maxSize →
          let f := pool.free.length + 1
          let b := pool.busy.length
          let k := min (f - b) (f + b - pool.config.minSize)
          step.Requeues id key (conn.adoptedBy key) { pool with free := pool.free ++ [id] } k ∧
            (1 ≤ pool.config.minSize → step.after.ctx.conn? id = some (conn.adoptedBy key))) ∧
        (pool.size = pool.config.maxSize → step.Dismisses id) ∧
        (∃ pool', step.after.ctx.pools.get? key = some pool' ∧
          pool'.config = pool.config ∧ pool'.size ≤ pool'.config.maxSize) ∧
        step.after.ctx.registry = step.before.ctx.registry.filter (· ≠ id) ∧
        ∃ error, step.after.perform (.reclaim id) = (.status (.error error), step.after) := by
  intro step hmem id conn key hreclaim hconn hmembership hoverflow
  obtain ⟨hw, hsound, -⟩ := sound_of_mem_steps ha hmem
  obtain ⟨-, pool, hpool⟩ := (hsound.of_conn? hw hconn).of_overflowOf key hoverflow
  have hsize := hw.size_le_of_get? hpool
  have hnot : id ∉ pool.free := by
    rw [← Context.collection_free_of_get? hpool, hw.mem_collection,
      Context.membership?_of_conn? hconn, hmembership]
    exact fun hfree => Membership.noConfusion (Option.some.inj hfree)
  refine ⟨pool, hpool, hsize, ?_⟩
  rcases Nat.lt_or_eq_of_le hsize with hroom | hfull
  · obtain ⟨hrequeues, hregistry⟩ :=
      Step.requeues_of_room hw hsound hreclaim hconn hmembership hoverflow hpool hroom rfl
    have hexcess : { pool with free := pool.free ++ [id] }.excess =
        min (pool.free.length + 1 - pool.busy.length)
          (pool.free.length + 1 + pool.busy.length - pool.config.minSize) := by
      rw [Pool.excess, Pool.size, List.length_append, List.length_singleton]
    have hshrunk : { pool with free := pool.free ++ [id] }.shrunk.size ≤ pool.config.maxSize := by
      rw [Pool.size_shrunk]
      simp only [Pool.size, List.length_append, List.length_singleton] at hroom ⊢
      omega
    refine ⟨fun _ => ⟨?_, fun hfloor => (hrequeues.stays rfl hnot hfloor).1⟩,
      fun hfull => absurd hfull (Nat.ne_of_lt hroom), ⟨_, hrequeues.pool, rfl, hshrunk⟩, hregistry,
      hrequeues.reclaim_again rfl⟩
    rw [← hexcess]
    exact hrequeues
  · obtain ⟨hdismisses, hregistry⟩ := Step.dismisses_of_full hsound.watched hreclaim hconn
      hmembership hoverflow fun pool' hpool' hroom => by
        rw [hpool] at hpool'
        obtain rfl := Option.some.inj hpool'
        exact absurd hfull (Nat.ne_of_lt hroom)
    refine ⟨fun hroom => absurd hfull (Nat.ne_of_lt hroom), fun _ => hdismisses,
      ⟨pool, (hdismisses.pools key).trans hpool, rfl, hsize⟩, hregistry, hdismisses.reclaim_again⟩

/-- A direct connection is lent because the pool is full, and taken back after
    the pool has lost its own. -/
def adoptingRun : List (Operation String String) :=
  [.acquire "k" none none, .acquire "k" none none, .disconnect ⟨0, 0⟩ none,
    .advance ⟨0, 0⟩ .readable, .reclaim ⟨1, 0⟩]

/-- The pool after it has lost the one connection of its own. -/
def emptiedPool : Pool :=
  ⟨⟨"k", .uri "u", 1, 1, 1⟩, [], [], 1⟩

theorem overflow_requeues_of_adoptingRun :
    ((fresh smallPool slowStage).afterAll adoptingRun).ctx.conns.slots.length ≤ 2 ^ 32 ∧
      ∃ step ∈ (fresh smallPool slowStage).steps adoptingRun,
        step.operation = .reclaim ⟨1, 0⟩ ∧ ∃ conn : Connection String String,
          step.before.ctx.conn? ⟨1, 0⟩ = some conn ∧ conn.membership = .registry ∧
          conn.overflowOf = some "k" ∧ step.before.ctx.pools.get? "k" = some emptiedPool ∧
          step.Requeues ⟨1, 0⟩ "k" (conn.adoptedBy "k") { emptiedPool with free := [⟨1, 0⟩] } 0 ∧
          ∃ error, step.after.perform (.reclaim ⟨1, 0⟩) = (.status (.error error), step.after) := by
  have ha : ((fresh smallPool slowStage).afterAll adoptingRun).ctx.conns.slots.length ≤ 2 ^ 32 := by
    decide +kernel
  have hmem : ⟨(fresh smallPool slowStage).afterAll (adoptingRun.take 4), .reclaim ⟨1, 0⟩⟩ ∈
      (fresh smallPool slowStage).steps adoptingRun :=
    List.mem_of_getElem? (i := 4) rfl
  have hemptied : ((fresh smallPool slowStage).afterAll (adoptingRun.take 4)).ctx.pools.get? "k" =
      some emptiedPool := rfl
  obtain ⟨pool, hpool, -, hroom, -, -, -, hagain⟩ := overflow_requeues_of_run smallPool slowStage
    adoptingRun ha _ hmem ⟨1, 0⟩ _ "k" rfl rfl rfl rfl
  obtain rfl : emptiedPool = pool := Option.some.inj (hemptied.symm.trans hpool)
  exact ⟨ha, _, hmem, rfl, _, rfl, rfl, rfl, hpool, (hroom (by decide)).1, hagain⟩

end Worker
end ConnPool
