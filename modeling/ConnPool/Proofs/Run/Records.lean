/-
  ConnPool.Proofs.Run.Records

  The records of live connections along runs.

  What the fields of a record say of each other, of the pools and of the
  registry is established by the first handshake step of a connection and kept
  by everything that an operation does, refusals and failures included.
-/

import ConnPool.Proofs.Run.Membership
import ConnPool.Proofs.Worker.Calling
import ConnPool.Proofs.Worker.Marking
import ConnPool.Proofs.Worker.Resources

namespace ConnPool

variable {ω ρ κ : Type} [Environment ω]

/-- What the record of a live connection says, and what it says of the pools
    of its context. -/
structure Connection.Sound (conn : Connection ρ κ) (ctx : Context ρ κ) : Prop where
  not_closed : conn.state ≠ .closed
  registered : conn.registered = true
  connected_iff : conn.state = .connected ↔ conn.lastPoll = some .ok
  connecting_iff : conn.state = .connecting ↔
    conn.lastPoll = some .reading ∨ conn.lastPoll = some .writing
  of_connected : conn.state = .connected →
    conn.onConnect = none ∧ conn.onDisconnect = none ∧ conn.disconnectPending = false
  of_onDisconnect : ∀ callback, conn.onDisconnect = some callback → conn.disconnectPending = true
  of_free : ∀ key, conn.membership = .free key → conn.request = none ∧ conn.onConnect = none ∧
    conn.onDisconnect = none ∧ conn.disconnectPending = false
  of_overflowOf : ∀ key, conn.overflowOf = some key →
    conn.membership = .registry ∧ ∃ pool, ctx.pools.get? key = some pool
  of_pooled : ∀ key, conn.membership = .free key ∨ conn.membership = .busy key →
    conn.overflowOf = none ∧ ∃ pool, ctx.pools.get? key = some pool

/-- What is known of the records and the pools of a context. -/
structure Context.Sound (ctx : Context ρ κ) : Prop where
  coherent : ctx.Coherent
  watched : ctx.Watched
  marked : ctx.Marked
  configured : ctx.Configured

namespace Context

theorem Sound.fresh (configs : Registry) : ({ configs } : Context ρ κ).Sound where
  coherent id conn hconn := by cases hconn
  watched id conn hconn := by cases hconn
  marked id conn key hconn := by cases hconn
  configured key config hconfig := by cases hconfig

/-- In a sound context in order the record of every live connection is sound. -/
theorem Sound.of_conn? {ctx : Context ρ κ} (h : ctx.Sound) (hw : ctx.Orderly) {id : ConnId}
    {conn : Connection ρ κ} (hconn : ctx.conn? id = some conn) : conn.Sound ctx := by
  have hcoherent := h.coherent id conn hconn
  obtain ⟨hregistered, poll, hpoll, hlast, hstate⟩ := h.watched id conn hconn
  constructor
  case not_closed => exact hcoherent.not_closed
  case registered => exact hregistered
  case connected_iff =>
    rw [hstate, hlast]
    cases poll <;> simp
  case connecting_iff =>
    rw [hstate, hlast]
    cases poll with
    | failed => exact absurd rfl hpoll
    | ok | reading | writing => simp
  case of_connected =>
    intro hconnected
    obtain ⟨honConnect, hpending⟩ := hcoherent.connected hconnected
    exact ⟨honConnect, hcoherent.onDisconnect_of_connected hconnected, hpending⟩
  case of_onDisconnect =>
    intro callback hkeeps
    refine hcoherent.pending ?_
    rw [hkeeps]
    exact Option.some_ne_none callback
  case of_free =>
    intro key hfree
    refine hcoherent.free ?_
    rw [hfree]
    rfl
  case of_overflowOf =>
    intro key hmark
    obtain ⟨hdirect, hpool⟩ := h.marked id conn key hconn hmark
    exact ⟨hdirect, exists_pool_of_poolConfig? hpool⟩
  case of_pooled =>
    intro key hpooled
    have hkey : conn.membership.pool? = some key := by
      rcases hpooled with heq | heq <;> rw [heq] <;> rfl
    exact ⟨h.marked.overflowOf_eq_none hconn hkey,
      exists_pool_of_poolConfig? (hw.hasCollection hconn key hkey)⟩

end Context

/-- Every path keeps a context sound. -/
theorem Path.sound {v v' : View ρ κ} {acts : List (Act ρ κ)} (h : Path v acts v')
    (hw : v.ctx.Orderly) (hv : v.ctx.Sound) : v'.ctx.Sound where
  coherent := h.coherent hw hv.coherent
  watched := h.watched hw hv.watched
  marked := h.marked hw hv.marked
  configured := h.configured hv.configured

/-- A connection that a step finds connected is connected after it, or gone. -/
theorem Step.connected_of_live {step : Step ω ρ κ} {acts : List (Act ρ κ)}
    (hcourse : Course step.operation step.answer acts)
    (hpath : Path step.before.view acts step.after.view) (hw : step.before.ctx.Orderly)
    {id : ConnId} {conn conn' : Connection ρ κ} (hbefore : step.before.ctx.conn? id = some conn)
    (hconnected : conn.state = .connected) (hafter : step.after.ctx.conn? id = some conn') :
    conn'.state = .connected := by
  have hends := hcourse.not_ends_of_live hpath hw (Option.isSome_of_eq_some hafter)
  obtain ⟨found, hfound, hstate⟩ := hpath.connected hw hends ⟨conn, hbefore, hconnected⟩
  obtain rfl : found = conn' := Option.some.inj (hfound.symm.trans hafter)
  exact hstate

namespace Worker

theorem sound_of_run (configs : Registry) (env : ω) (operations : List (Operation ρ κ))
    (ha : ((fresh configs env).afterAll operations).ctx.conns.slots.length ≤ 2 ^ 32) :
    ((fresh configs env).afterAll operations).ctx.Orderly ∧
      ((fresh configs env).afterAll operations).ctx.Sound ∧
      ((fresh configs env).afterAll operations).ctx.configs = configs := by
  refine run_induction (P := fun _ w => w.ctx.Sound ∧ w.ctx.configs = configs)
    (Context.Orderly.fresh configs : (fresh configs env : Worker ω ρ κ).ctx.Orderly)
    ⟨.fresh configs, rfl⟩ ?_ operations ha
  rintro history w operation acts hw - hpath ⟨hsound, hconfigs⟩
  exact ⟨hpath.sound hw hsound, hpath.configs_eq.trans hconfigs⟩

/-- Each step of a run starts from a sound context in order. -/
theorem sound_of_mem_steps {configs : Registry} {env : ω} {operations : List (Operation ρ κ)}
    (ha : ((fresh configs env).afterAll operations).ctx.conns.slots.length ≤ 2 ^ 32)
    {step : Step ω ρ κ} (hmem : step ∈ (fresh configs env).steps operations) :
    step.before.ctx.Orderly ∧ step.before.ctx.Sound ∧ step.before.ctx.configs = configs := by
  obtain ⟨first, hbefore, -⟩ := exists_run_of_mem_steps hmem
  have hslots : step.before.view.slotCount ≤ 2 ^ 32 :=
    Nat.le_trans (slotCount_le_perform step.before step.operation)
      (addressable_of_mem_steps ha hmem)
  rw [hbefore] at hslots ⊢
  exact sound_of_run configs env first hslots

/-- After every run the records of all live connections are sound and all
    pools are configured as the registry says; and no step of the run took a
    connection from connected back to connecting. -/
theorem records_of_run (configs : Registry) (env : ω) (operations : List (Operation ρ κ))
    (ha : ((fresh configs env).afterAll operations).ctx.conns.slots.length ≤ 2 ^ 32) :
    (∀ id conn, ((fresh configs env).afterAll operations).ctx.conn? id = some conn →
      conn.Sound ((fresh configs env).afterAll operations).ctx) ∧
    (∀ key pool, ((fresh configs env).afterAll operations).ctx.pools.get? key = some pool →
      configs.get? key = some pool.config) ∧
    ∀ step ∈ (fresh configs env).steps operations, ∀ id conn conn',
      step.before.ctx.conn? id = some conn → conn.state = .connected →
        step.after.ctx.conn? id = some conn' → conn'.state = .connected := by
  obtain ⟨hw, hsound, hconfigs⟩ := sound_of_run configs env operations ha
  refine ⟨fun id conn hconn => hsound.of_conn? hw hconn, fun key pool hpool => ?_,
    fun step hmem id conn conn' hbefore hconnected hafter => ?_⟩
  · have hconfig := hsound.configured key pool.config (Context.poolConfig?_of_get? hpool)
    rw [hconfigs] at hconfig
    exact hconfig
  · obtain ⟨hstep, acts, hcourse, hpath⟩ :=
      course_of_mem_steps (Context.Orderly.fresh configs) operations ha step hmem
    exact Step.connected_of_live hcourse hpath hstep hbefore hconnected hafter

theorem records_of_overflowRun :
    ((fresh smallPool slowStage).afterAll overflowRun).ctx.conns.slots.length ≤ 2 ^ 32 ∧
      ∀ id conn, ((fresh smallPool slowStage).afterAll overflowRun).ctx.conn? id = some conn →
        conn.Sound ((fresh smallPool slowStage).afterAll overflowRun).ctx :=
  have ha := by decide +kernel
  ⟨ha, (records_of_run smallPool slowStage overflowRun ha).1⟩

end Worker
end ConnPool
