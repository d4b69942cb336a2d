/-
  ConnPool.Proofs.Worker.Shrinking

  How pools shrink, as acts.

  A pool that took something in releases its oldest idle connections until it
  is slack no longer.  Each release makes it less slack by one, so how many go
  is known beforehand (`Pool.excess`), and with it the queue that is left.
-/

import ConnPool.Proofs.Worker.Release

namespace ConnPool

variable {ω ρ κ : Type}

namespace Pool

/-- How many idle connections a pool gives up before it is slack no longer. -/
def excess (pool : Pool) : Nat :=
  min (pool.free.length - pool.busy.length) (pool.size - pool.config.minSize)

theorem isSlack_iff (pool : Pool) : pool.isSlack = true ↔ 0 < pool.excess := by
  rw [isSlack, Bool.and_eq_true, decide_eq_true_eq, decide_eq_true_eq, excess, size]
  omega

/-- A slack pool that gives up an idle connection has one less to give up. -/
theorem excess_of_slack {pool : Pool} {oldest : ConnId} {rest : List ConnId}
    (hfree : pool.free = oldest :: rest) (h : 0 < pool.excess) :
    pool.excess = { pool with free := rest }.excess + 1 := by
  simp only [excess, size, hfree, List.length_cons] at h ⊢
  omega

theorem excess_le_length (pool : Pool) : pool.excess ≤ pool.free.length :=
  Nat.le_trans (Nat.min_le_left _ _) (Nat.sub_le _ _)

/-- The pool without its excess: the oldest of its idle connections are gone. -/
def shrunk (pool : Pool) : Pool :=
  { pool with free := pool.free.drop pool.excess }

theorem size_shrunk (pool : Pool) : pool.shrunk.size = pool.size - pool.excess := by
  have hle := pool.excess_le_length
  simp only [shrunk, size, List.length_drop]
  omega

/-- Shrinking does not take a pool below its floor. -/
theorem minSize_le_size_shrunk {pool : Pool} (h : pool.config.minSize ≤ pool.size) :
    pool.config.minSize ≤ pool.shrunk.size := by
  have hle : pool.excess ≤ pool.size - pool.config.minSize := Nat.min_le_right _ _
  rw [size_shrunk]
  omega

/-- A pool that lends nothing shrinks to its floor. -/
theorem size_shrunk_of_busy_eq_nil {pool : Pool} (h : pool.config.minSize ≤ pool.size)
    (hbusy : pool.busy = []) : pool.shrunk.size = pool.config.minSize := by
  have hexcess : pool.excess = pool.size - pool.config.minSize := by
    simp only [excess, size, hbusy, List.length_nil]
    omega
  rw [size_shrunk, hexcess]
  omega

/-- Whether at most half of a pool is idle, or the pool is not above its
    floor. -/
def InBand (pool : Pool) : Prop :=
  2 * pool.free.length ≤ pool.size ∨ pool.size ≤ pool.config.minSize

theorem inBand_iff (pool : Pool) : pool.InBand ↔ pool.excess = 0 := by
  rw [InBand, excess, size]
  omega

/-- What a pool that has given up idle connections still has to give up. -/
theorem excess_drop {pool : Pool} {n : Nat} (h : n ≤ pool.excess) :
    { pool with free := pool.free.drop n }.excess = pool.excess - n := by
  have hle := pool.excess_le_length
  simp only [excess, size, List.length_drop] at h hle ⊢
  omega

/-- A pool without its excess is in its band. -/
theorem inBand_shrunk (pool : Pool) : pool.shrunk.InBand := by
  rw [inBand_iff, shrunk, excess_drop (Nat.le_refl _), Nat.sub_self]

/-- Giving up less than the excess is not enough. -/
theorem not_inBand_drop {pool : Pool} {n : Nat} (h : n < pool.excess) :
    ¬{ pool with free := pool.free.drop n }.InBand := by
  rw [inBand_iff, excess_drop (Nat.le_of_lt h)]
  omega

end Pool

/-- An act that makes the pool under `key` smaller by an idle connection. -/
def Act.Shrinks (key : PoolKey) : Act ρ κ → Prop
  | finished _ _ (.shrunk k _) => k = key
  | _ => False

theorem Act.Shrinks.eq_finished {key : PoolKey} {act : Act ρ κ} (h : act.Shrinks key) :
    ∃ id conn load, act = .finished id conn (.shrunk key load) := by
  unfold Act.Shrinks at h
  split at h
  · rename_i id conn k load
    obtain rfl : k = key := h
    exact ⟨id, conn, load, rfl⟩
  · exact h.elim

/-- Acts that end the idle connections under `ids`, one after another, because
    the pool under `key` has too much idle. -/
inductive Shrinking (key : PoolKey) : List ConnId → List (Act ρ κ) → Prop
  | nil : Shrinking key [] []
  | cons (id : ConnId) (conn : Connection ρ κ) (load : PoolLoad) {ids : List ConnId}
      {acts : List (Act ρ κ)} (rest : Shrinking key ids acts) :
      Shrinking key (id :: ids) (.finished id conn (.shrunk key load) :: acts)

theorem Shrinking.shrinks {key : PoolKey} {ids : List ConnId} {acts : List (Act ρ κ)}
    (h : Shrinking key ids acts) : ∀ act ∈ acts, act.Shrinks key := by
  induction h with
  | nil => exact List.forall_mem_nil _
  | cons id conn load _ ih => exact List.forall_mem_cons.2 ⟨rfl, ih⟩

theorem Act.run_finished (v : View ρ κ) (id : ConnId) (conn : Connection ρ κ) (ending : Ending κ) :
    (Act.finished id conn ending).run v =
      (v.withCtx (·.without id conn)).tell (ending.events id conn) := rfl

/-- The oldest idle connection of a pool that is taken out leaves the rest. -/
theorem Context.Orderly.get?_without_oldest {ctx : Context ρ κ} (hw : ctx.Orderly) {key : PoolKey}
    {pool : Pool} (hpool : ctx.pools.get? key = some pool) {oldest : ConnId} {rest : List ConnId}
    (hfree : pool.free = oldest :: rest) {conn : Connection ρ κ}
    (hmembership : conn.membership = .free key) :
    (ctx.without oldest conn).pools.get? key = some { pool with free := rest } := by
  have hnodup : (oldest :: rest).Nodup := by
    rw [← hfree, ← collection_free_of_get? hpool]
    exact hw.nodup (.free key)
  have hrest : (oldest :: rest).filter (· ≠ oldest) = rest := by
    rw [← erase_eq_filter_ne hnodup, List.erase_cons_head]
  rw [Context.without, hmembership, strike, Context.modifyPool, KeyMap.get?_modify, if_pos rfl, hpool,
    Option.map_some, Pool.dropFree, hfree, hrest]

namespace Worker

variable [Environment ω]

/-- The loop that shrinks the pool under `key`: as long as the pool is slack,
    the front of its idle queue is released, or dropped if it is stale. -/
inductive ShrinkLoop (key : PoolKey) : Worker ω ρ κ → Worker ω ρ κ → Prop
  | absent {w : Worker ω ρ κ} (hpool : w.ctx.pools.get? key = none) : ShrinkLoop key w w
  | firm {w : Worker ω ρ κ} {pool : Pool} (hpool : w.ctx.pools.get? key = some pool)
      (hfirm : pool.isSlack = false) : ShrinkLoop key w w
  | drained {w : Worker ω ρ κ} {pool : Pool} (hpool : w.ctx.pools.get? key = some pool)
      (hslack : pool.isSlack = true) (hfree : pool.free = []) : ShrinkLoop key w w
  | released {w w₁ w' : Worker ω ρ κ} {pool : Pool} {oldest : ConnId} {rest : List ConnId}
      (hpool : w.ctx.pools.get? key = some pool) (hslack : pool.isSlack = true)
      (hfree : pool.free = oldest :: rest)
      (hrelease : (w.log (.shrinking oldest key pool.load)).release oldest (.ok ()) = (true, w₁))
      (hnext : ShrinkLoop key w₁ w') : ShrinkLoop key w w'
  | stale {w w₁ w' : Worker ω ρ κ} {pool : Pool} {oldest : ConnId} {rest : List ConnId}
      (hpool : w.ctx.pools.get? key = some pool) (hslack : pool.isSlack = true)
      (hfree : pool.free = oldest :: rest)
      (hrelease : (w.log (.shrinking oldest key pool.load)).release oldest (.ok ()) = (false, w₁))
      (hnext : ShrinkLoop key (w₁.modifyPool key fun pool => { pool with free := pool.free.drop 1 })
        w') : ShrinkLoop key w w'

/-- The oldest idle connection of a pool is live, and its release takes it off
    the front of the queue. -/
theorem release_oldest {w : Worker ω ρ κ} (hw : w.ctx.Orderly) {key : PoolKey} {pool : Pool}
    (hpool : w.ctx.pools.get? key = some pool) {oldest : ConnId} {rest : List ConnId}
    (hfree : pool.free = oldest :: rest) :
    ∃ conn w₁, (w.log (.shrinking oldest key pool.load)).release oldest (.ok ()) = (true, w₁) ∧
      (Act.finished oldest conn (.shrunk key pool.load)).Enabled w.view ∧
      (Act.finished oldest conn (.shrunk key pool.load)).run w.view = w₁.view ∧
      w₁.ctx.Orderly ∧ w₁.ctx.pools.get? key = some { pool with free := rest } := by
  have hmem : oldest ∈ w.ctx.collection (.free key) := by
    rw [Context.collection_free_of_get? hpool, hfree]
    exact List.mem_cons_self
  obtain ⟨conn, hconn, hmembership⟩ := hw.conn?_of_mem hmem
  have hlive : (w.log (.shrinking oldest key pool.load)).ctx.conn? oldest = some conn := hconn
  obtain ⟨hfst, hview⟩ := view_release hlive (.ok ())
  rcases hrelease : (w.log (.shrinking oldest key pool.load)).release oldest (.ok ())
    with ⟨live, w₁⟩
  rw [hrelease] at hfst hview
  obtain rfl : live = true := hfst
  have hrun : (Act.finished oldest conn (.shrunk key pool.load)).run w.view = w₁.view := by
    simp only at hview
    rw [hview, Act.run_finished, view_log, View.withCtx_tell, View.tell_tell]
    simp only [Ending.events, Ending.heralds, Ending.calls, List.append_assoc]
  have hctx : w₁.ctx = w.ctx.without oldest conn := ctx_of_view hrun.symm
  refine ⟨conn, w₁, rfl, ⟨hconn, hmembership⟩, hrun, ?_, ?_⟩
  · rw [hctx]
    exact hw.without hconn
  · rw [hctx]
    exact hw.get?_without_oldest hpool hfree hmembership

/-- A pool shrinks from the front of its idle queue, by its excess. -/
theorem shrinkAlong_path {key : PoolKey} {pool : Pool} {queue : List ConnId} {w : Worker ω ρ κ}
    (hw : w.ctx.Orderly) (hpool : w.ctx.pools.get? key = some pool) (hqueue : pool.free = queue) :
    ShrinkLoop key w (shrinkAlong key queue w) ∧
      (∃ acts, Shrinking key (queue.take pool.excess) acts ∧
        Path w.view acts (shrinkAlong key queue w).view) ∧
      (shrinkAlong key queue w).ctx.pools.get? key =
        some { pool with free := queue.drop pool.excess } := by
  -- over the idle queue, which loses its front with each release
  induction queue generalizing w pool with
  | nil =>
      have hsame : { pool with free := [] } = pool := by rw [← hqueue]
      have hfirm : pool.isSlack = false := by
        rw [Pool.isSlack, hqueue]
        simp
      rw [List.take_nil, List.drop_nil, hsame]
      exact ⟨.firm hpool hfirm, ⟨[], .nil, .nil _⟩, hpool⟩
  | cons oldest rest ih =>
      rw [shrinkAlong, hpool]
      simp only
      split
      · rename_i hslack
        have hexcess := Pool.excess_of_slack hqueue (pool.isSlack_iff.1 hslack)
        obtain ⟨conn, w₁, hrelease, enabled, hrun, hw₁, hpool₁⟩ := release_oldest hw hpool hqueue
        rw [hrelease]
        simp only
        obtain ⟨hloop, ⟨acts, hshrinking, hpath⟩, hleft⟩ := ih hw₁ hpool₁ rfl
        rw [hexcess, List.take_succ_cons, List.drop_succ_cons]
        rw [← hrun] at hpath
        exact ⟨.released hpool hslack hqueue hrelease hloop,
          ⟨_, .cons oldest conn pool.load hshrinking, .cons enabled hpath⟩, hleft⟩
      · rename_i hnot
        have hexcess : pool.excess = 0 :=
          Nat.eq_zero_of_not_pos fun hpos => hnot (pool.isSlack_iff.2 hpos)
        have hsame : { pool with free := oldest :: rest } = pool := by rw [← hqueue]
        rw [hexcess, List.take_zero, List.drop_zero, hsame]
        exact ⟨.firm hpool (Bool.eq_false_iff.2 hnot), ⟨[], .nil, .nil _⟩, hpool⟩

/-- A pool gives up its excess, its oldest idle connections first. -/
theorem shrink_shrinking {w : Worker ω ρ κ} (hw : w.ctx.Orderly) {key : PoolKey} {pool : Pool}
    (hpool : w.ctx.pools.get? key = some pool) :
    ShrinkLoop key w (w.shrink key) ∧
      (∃ acts, Shrinking key (pool.free.take pool.excess) acts ∧
        Path w.view acts (w.shrink key).view) ∧
      (w.shrink key).ctx.pools.get? key = some pool.shrunk := by
  rw [shrink, hpool]
  exact shrinkAlong_path hw hpool rfl

theorem shrink_path {w : Worker ω ρ κ} (hw : w.ctx.Orderly) {key : PoolKey} {pool : Pool}
    (hpool : w.ctx.pools.get? key = some pool) :
    ∃ acts, (∀ act ∈ acts, act.Shrinks key) ∧ Path w.view acts (w.shrink key).view ∧
      (w.shrink key).ctx.pools.get? key = some pool.shrunk := by
  obtain ⟨-, ⟨acts, hshrinking, hpath⟩, hpool'⟩ := shrink_shrinking hw hpool
  exact ⟨acts, hshrinking.shrinks, hpath, hpool'⟩

end Worker
end ConnPool
