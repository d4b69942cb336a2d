/-
  ConnPool.Proofs.Run.Spawning

  What it comes to when a pool is asked to open idle connections.

  As many sessions are asked for as there is room for, one after another, and no
  further than to the first opening that fails.  What is opened joins the back of
  the idle queue, in order, and nothing else changes; of an opening that fails
  nothing is left.  The answer depends on the queue alone: it is an error just if
  nothing is idle in the end.
-/

import ConnPool.Proofs.Run.Acquiring

namespace ConnPool

variable {ω ρ κ : Type}

/-! ## What is opened, and what is left alone -/

/-- A connection that waits to be lent by the pool under `key`. -/
structure Connection.IdleIn (conn : Connection ρ κ) (key : PoolKey) : Prop where
  membership : conn.membership = .free key
  state : conn.state = .connecting ∨ conn.state = .connected
  request : conn.request = none
  onConnect : conn.onConnect = none
  onDisconnect : conn.onDisconnect = none
  not_pending : conn.disconnectPending = false
  overflowOf : conn.overflowOf = none

theorem Connection.Sound.idleIn {conn : Connection ρ κ} {ctx : Context ρ κ} (h : conn.Sound ctx)
    {key : PoolKey} (hfree : conn.membership = .free key) : conn.IdleIn key := by
  obtain ⟨hrequest, honConnect, honDisconnect, hpending⟩ := h.of_free key hfree
  refine ⟨hfree, ?_, hrequest, honConnect, honDisconnect, hpending,
    (h.of_pooled key (.inl hfree)).1⟩
  cases hstate : conn.state with
  | closed => exact absurd hstate h.not_closed
  | connecting => exact .inl rfl
  | connected => exact .inr rfl

/-- What a pool has in its idle queue waits to be lent by it. -/
theorem Context.Sound.idleIn_of_mem {ctx : Context ρ κ} (h : ctx.Sound) (hw : ctx.Orderly)
    {key : PoolKey} {pool : Pool} (hpool : ctx.pools.get? key = some pool) {id : ConnId}
    (hmem : id ∈ pool.free) {conn : Connection ρ κ} (hconn : ctx.conn? id = some conn) :
    conn.IdleIn key := by
  rw [← Context.collection_free_of_get? hpool] at hmem
  obtain ⟨conn', hconn', hfree⟩ := hw.conn?_of_mem hmem
  obtain rfl : conn = conn' := Option.some.inj (hconn.symm.trans hconn')
  exact (h.of_conn? hw hconn).idleIn hfree

theorem Act.LeavesNothing.listed_eq_nil {act : Act ρ κ} (h : act.LeavesNothing)
    (membership : Membership) : act.listed membership = [] := by
  cases act with
  | noted _ | openFailed _ _ _ _ | openSpoiled _ _ _ => rfl
  | asked _ _ _ | poolCreated _ _ | opened _ _ _ _ | stepped _ _ _ | lent _ _ _ _ _ _
  | takenBack _ _ _ _ | adopted _ _ _ _ | tagged _ _ _ | deferred _ _ _ | finished _ _ _
  | poolsDropped => exact h.elim

namespace Growing

variable {key : PoolKey} {target : Target} {count : Nat} {ids : List ConnId}
  {acts : List (Act ρ κ)} {v v' : View ρ κ}

/-- What is done for a pool that grows opens a connection, or leaves nothing
    behind. -/
theorem opens_or_leavesNothing (h : Growing key target count ids acts) :
    ∀ act ∈ acts, (∃ id ∈ ids, ∃ conn poll, act = .opened id target conn poll) ∨
      act.LeavesNothing := by
  induction h with
  | done => exact List.forall_mem_nil _
  | opened id conn poll hidle hrest ih =>
      refine List.forall_mem_cons.2 ⟨.inl ⟨id, List.mem_cons_self, conn, poll, rfl⟩, ?_⟩
      intro act hmem
      refine (ih act hmem).imp_left ?_
      rintro ⟨other, hother, hopens⟩
      exact ⟨other, List.mem_cons_of_mem _ hother, hopens⟩
  | stopped count error act hopening record =>
      exact List.forall_mem_cons.2
        ⟨.inr hopening.leavesNothing, List.forall_mem_singleton.2 (.inr trivial)⟩

/-- Connections that are not opened stay as they are. -/
theorem conn?_of_not_mem (h : Growing key target count ids acts) (hpath : Path v acts v')
    (hw : v.ctx.Orderly) {id : ConnId} (hid : id ∉ ids) : v'.ctx.conn? id = v.ctx.conn? id := by
  refine hpath.conn?_eq hw fun act hmem => ?_
  rcases h.opens_or_leavesNothing act hmem with ⟨other, hother, conn, poll, rfl⟩ | hleaves
  · rintro ⟨⟩
    exact hid hother
  · rw [hleaves.change_eq_none]
    exact (Option.some_ne_none id).symm

/-- Other pools stay as they are. -/
theorem get?_of_ne (h : Growing key target count ids acts) (hpath : Path v acts v')
    {other : PoolKey} (hother : other ≠ key) :
    v'.ctx.pools.get? other = v.ctx.pools.get? other :=
  hpath.get?_eq fun act hmem htouches => hother ((h.idle act hmem).eq_of_touches htouches)

/-- The registry list stays as it is. -/
theorem registry_eq (h : Growing key target count ids acts) (hpath : Path v acts v')
    (hw : v.ctx.Orderly) : v'.ctx.registry = v.ctx.registry := by
  have hlisted : acts.flatMap (Act.listed .registry) = [] := by
    refine List.flatMap_eq_nil_iff.2 fun act hmem => ?_
    have hidle := h.idle act hmem
    rcases h.opens_or_leavesNothing act hmem with ⟨id, hid, conn, poll, rfl⟩ | hleaves
    · rw [Act.listed, hidle.1]
      rfl
    · exact hleaves.listed_eq_nil _
  have hcollection : v'.ctx.collection .registry =
      v.ctx.collection .registry ++ acts.flatMap (Act.listed .registry) :=
    hpath.collection_eq_append hw fun act hmem => (h.idle act hmem).struck_eq_nil _
  rw [hlisted, List.append_nil] at hcollection
  exact hcollection

/-- What is taken hold of belongs to a connection that is opened, or is a session
    that is torn down. -/
theorem of_mem_resources (h : Growing key target count ids acts) (hpath : Path v acts v')
    (hw : v.ctx.Orderly) (hv : v.ctx.Watched) {event : Event ρ κ}
    (hresource : event.isResource = true) (hmem : event ∈ acts.flatMap Act.events) :
    (∃ id ∈ ids, ∃ conn : Connection ρ κ,
        v'.ctx.held? id = some (conn.session, conn.socket) ∧
          (event = .started conn.session target ∨
            ∃ interest, event = .registered conn.socket interest id none)) ∨
      ∃ session, .tornDown session ∈ acts.flatMap Act.events ∧
        (event = .tornDown session ∨ ∃ target, event = .started session target) := by
  obtain ⟨act, hact, hevent⟩ := List.mem_flatMap.1 hmem
  obtain ⟨earlier, later, v₁, rfl, hfirst, enabled, hlater⟩ := hpath.of_mem hact
  have hw₁ := hfirst.orderly hw
  have hv₁ := hfirst.watched hw hv
  rcases h.opens_or_leavesNothing act hact with ⟨id, hid, conn, poll, rfl⟩ | hleaves
  · -- what is opened is there to the end
    have hlive : ((Act.opened id target conn poll).run v₁).ctx.conn? id =
        some (conn.stepped poll) := by
      rw [Act.conn?_run enabled hw₁]
      exact if_pos rfl
    have hends : ∀ act ∈ later, ¬act.Ends id := fun act hmem =>
      (h.idle act (List.mem_append_right _ (List.mem_cons_of_mem _ hmem))).not_ends id
    have hheld := hlater.held?_of_live (Act.orderly_run enabled hw₁)
      (Option.isSome_of_eq_some hlive) hends
    rw [Context.held?_of_conn? hlive] at hheld
    rw [Act.mem_resources enabled hv₁ hresource] at hevent
    refine .inl ⟨id, hid, conn, hheld, ?_⟩
    rcases List.mem_cons.1 hevent with rfl | hevent
    · exact .inl rfl
    · exact .inr ⟨poll.interest, List.mem_singleton.1 hevent⟩
  · obtain ⟨session, htorn, hcases⟩ := hleaves.of_mem_events enabled hv₁ hresource hevent
    exact .inr ⟨session, List.mem_flatMap.2 ⟨act, hact, htorn⟩, hcases⟩

end Growing

/-! ## The step -/

variable [Environment ω]

namespace Step

/-- Whether a step opens the connections under `ids` for the pool under `key`,
    out of `count` that it is asked for. -/
structure Spawns (step : Step ω ρ κ) (key : PoolKey) (count : Nat) (pool : Pool)
    (ids : List ConnId) : Prop where
  /-- The openings follow one another, up to the first that fails. -/
  openings : ∃ w w' record, step.before.poolAt key = (.ok pool, w) ∧
    Worker.Openings key pool.config.target (min count pool.room) w ids w' ∧
    step.after = w'.log record
  length_le : ids.length ≤ min count pool.room
  /-- One session is asked for for each connection that is opened, and one more
      where an opening failed. -/
  dials : dials step.events = List.replicate ids.length pool.config.target ++
    if ids.length < min count pool.room then [pool.config.target] else []
  /-- What is opened is new, and has the sessions that are started, in order. -/
  opened : ∀ i id, ids[i]? = some id → step.before.ctx.conn? id = none ∧
    ∃ conn, step.after.ctx.conn? id = some conn ∧ conn.session = step.before.started + i ∧
      conn.IdleIn key
  grown : step.after.ctx.pools.get? key = some { pool with free := pool.free ++ ids }
  size_eq : step.after.ctx.poolSize key = pool.size + ids.length
  size_le : pool.size + ids.length ≤ pool.config.maxSize
  /-- No other connection is there that was not there before, or changed. -/
  conns : ∀ id, id ∉ ids → step.after.ctx.conn? id = step.before.ctx.conn? id
  pools : ∀ other, other ≠ key →
    step.after.ctx.pools.get? other = step.before.ctx.pools.get? other
  registry : step.after.ctx.registry = step.before.ctx.registry
  /-- A session that is started and torn down is that of a failed opening. -/
  sessions : ∀ session target, .started session target ∈ step.events →
    .tornDown session ∈ step.events ∨
      ∃ id ∈ ids, ∃ conn, step.after.ctx.conn? id = some conn ∧ conn.session = session
  watches : ∀ socket interest id, .registered socket interest id none ∈ step.events → id ∈ ids
  calls : step.events.filter Event.isCall = []
  answer : step.answer = .status
    (if pool.free ++ ids = [] then .error (.poolExhausted key) else .ok ())

variable {step : Step ω ρ κ} {key : PoolKey} {count : Nat}

/-- Where what a step takes hold of goes that opens the connections under `ids`
    towards `target`: to one of these, or back. -/
inductive Traced (step : Step ω ρ κ) (ids : List ConnId) (target : Target) : Event ρ κ → Prop where
  | owned {id : ConnId} {conn : Connection ρ κ} (hid : id ∈ ids)
      (hconn : step.after.ctx.conn? id = some conn) :
      Traced step ids target (.started conn.session target)
  | watched {id : ConnId} {conn : Connection ρ κ} (hid : id ∈ ids) (interest : Interest) :
      Traced step ids target (.registered conn.socket interest id none)
  | spent {session : SessionNo} (htorn : .tornDown session ∈ step.events) (target' : Target) :
      Traced step ids target (.started session target')
  | tornDown (session : SessionNo) : Traced step ids target (.tornDown session)

theorem Traced.of_started {ids : List ConnId} {target target' : Target} {session : SessionNo}
    (h : step.Traced ids target (.started session target')) :
    .tornDown session ∈ step.events ∨
      ∃ id ∈ ids, ∃ conn, step.after.ctx.conn? id = some conn ∧ conn.session = session := by
  cases h with
  | owned hid hconn => exact .inr ⟨_, hid, _, hconn, rfl⟩
  | spent htorn => exact .inl htorn

theorem Traced.of_registered {ids : List ConnId} {target : Target} {socket : Int}
    {interest : Interest} {id : ConnId}
    (h : step.Traced ids target (.registered socket interest id none)) : id ∈ ids := by
  cases h with
  | watched hid => exact hid

/-- What a step that makes a pool grow takes hold of is traced. -/
theorem traced_of_mem (hw : step.before.ctx.Orderly) (hwatched : step.before.ctx.Watched)
    {pool : Pool} {first acts : List (Act ρ κ)} {ids : List ConnId} {target : Target}
    {v v' : View ρ κ} {record : LogRecord} (hfinding : Finding step.before.ctx key pool first)
    (hfirst : Path step.before.view first v) (hgrowing : Growing key target count ids acts)
    (hpath : Path v acts v') (hafter : step.after.ctx = v'.ctx)
    (hevents : step.events =
      first.flatMap Act.events ++ (acts.flatMap Act.events ++ [.logged record]))
    (event : Event ρ κ) (hmem : event ∈ step.events) (hresource : event.isResource = true) :
    step.Traced ids target event := by
  have hacts : acts.flatMap Act.events ⊆ step.events := by
    rw [hevents]
    exact fun _ hmem => List.mem_append_right _ (List.mem_append_left _ hmem)
  rw [hevents] at hmem
  rcases List.mem_append.1 hmem with hmem | hmem
  · -- finding the pool takes hold of nothing
    obtain ⟨-, -, -, hnotes⟩ := hfinding.run hfirst
    rw [hnotes event hmem] at hresource
    cases hresource
  rcases List.mem_append.1 hmem with hmem | hmem
  · rcases hgrowing.of_mem_resources hpath (hfirst.orderly hw) (hfirst.watched hw hwatched)
      hresource hmem with ⟨id, hid, conn, hheld, hevent⟩ | ⟨session, htorn, hevent⟩
    · -- the connection holds the session and the socket that it was opened with
      rw [← hafter] at hheld
      obtain ⟨conn', hconn', hholds⟩ := Option.map_eq_some_iff.1 hheld
      obtain ⟨hsession, hsocket⟩ := Prod.mk.inj hholds
      rw [← hsession, ← hsocket] at hevent
      rcases hevent with rfl | ⟨interest, rfl⟩
      · exact .owned hid hconn'
      · exact .watched hid interest
    · rcases hevent with rfl | ⟨target', rfl⟩
      · exact .tornDown session
      · exact .spent (hacts htorn) target'
  · obtain rfl := List.mem_singleton.1 hmem
    cases hresource

/-- A pool under a registered key is found, or created, and grows. -/
theorem spawns (hw : step.before.ctx.Orderly) (hsound : step.before.ctx.Sound)
    (ha : step.after.ctx.conns.Addressable) (hspawn : step.operation = .spawn key count)
    {config : PoolConfig} (hconfig : step.before.ctx.configs.get? key = some config) :
    ∃ pool ids, pool = (step.before.ctx.pools.get? key).getD { config } ∧
      pool.config = config ∧ step.Spawns key count pool ids := by
  obtain ⟨pool, w, first, hlook, hget, hpool, hsame, hfinding, hfirst⟩ :=
    exists_finding hsound hconfig
  have hfinds := finds_of_finding hget hfinding hfirst
  have hw₁ := hfinds.orderly hw
  -- the step is the finding of the pool, the openings in it, and one record
  rcases houtcome : w.spawn key count with ⟨status, w'⟩
  have hperform : step.before.perform step.operation = (.status status, w') := by
    rw [hspawn, Worker.perform, Worker.spawn_of_poolAt hlook hget, houtcome]
  obtain rfl : step.after = w' := congrArg Prod.snd hperform
  obtain ⟨ids, acts, w₂, record, pool', hopenings, hgrowing, hpath, hlast, -, hfree, rfl⟩ :=
    Worker.spawn_openings hw₁ hget houtcome ha
  have hafter : step.after.ctx = w₂.ctx := by
    rw [hlast]
    rfl
  have hrest : Path w.view (acts ++ [.noted [.logged record]]) step.after.view := by
    rw [hlast]
    exact hpath.append (Worker.path_log w₂ record)
  have hall := hfirst.append hrest
  obtain ⟨hdials, hcalls⟩ := hfinds.events_eq hrest
  have hgrown : step.after.ctx.pools.get? key = some { pool with free := pool.free ++ ids } := by
    rw [hafter]
    exact hgrowing.get?_eq hpath hget
  have hlength := hgrowing.length_le
  have hevents : step.events =
      first.flatMap Act.events ++ (acts.flatMap Act.events ++ [.logged record]) := by
    rw [events_eq hall, List.flatMap_append, List.flatMap_append]
    rfl
  have htraced := traced_of_mem hw hsound.watched hfinding hfirst hgrowing hpath hafter hevents
  refine ⟨pool, ids, hpool, hsame, ?_⟩
  constructor
  case openings => exact ⟨w, w₂, record, hlook, hopenings, hlast⟩
  case length_le => exact hlength
  case dials =>
    rw [hdials, List.flatMap_append, dials_append, hgrowing.dials_eq]
    exact List.append_nil _
  case opened =>
    intro i id hid
    obtain ⟨hnone, socket, hheld⟩ := hgrowing.held?_eq hpath hw₁ hid
    -- what is held is a live connection, and it is idle because it is listed
    rw [hfinds.started, Worker.ctx_view, ← hafter] at hheld
    obtain ⟨conn, hconn, hholds⟩ := Option.map_eq_some_iff.1 hheld
    have hlisted : id ∈ pool.free ++ ids := List.mem_append_right _ (List.mem_of_getElem? hid)
    refine ⟨(hfinds.conns id).symm.trans hnone, conn, hconn, congrArg Prod.fst hholds, ?_⟩
    exact (hall.sound hw hsound).idleIn_of_mem (hall.orderly hw) hgrown hlisted hconn
  case grown => exact hgrown
  case size_eq =>
    rw [Context.poolSize_of_get? hgrown]
    simp only [Pool.size, List.length_append]
    omega
  case size_le =>
    have hsize := hw₁.size_le_of_get? hget
    have hroom : ids.length ≤ pool.room := Nat.le_trans hlength (Nat.min_le_right _ _)
    rw [Pool.room] at hroom
    omega
  case conns =>
    intro id hid
    rw [hafter, ← hfinds.conns id]
    exact hgrowing.conn?_of_not_mem hpath hw₁ hid
  case pools =>
    intro other hother
    rw [hafter]
    refine (hgrowing.get?_of_ne hpath hother).trans ?_
    obtain ⟨-, -, hpools, -⟩ := hfinding.run hfirst
    exact (hpools other).resolve_right fun hnew => hother hnew.1
  case registry =>
    rw [hafter, ← hfinds.registry]
    exact hgrowing.registry_eq hpath hw₁
  case sessions => exact fun session target hmem => (htraced _ hmem rfl).of_started
  case watches => exact fun socket interest id hmem => (htraced _ hmem rfl).of_registered
  case calls =>
    rw [hcalls]
    exact hrest.not_isCall_of_idle (Worker.idle_append_noted hgrowing.idle record)
  case answer =>
    rw [← hfree]
    exact congrArg Prod.fst hperform

end Step

namespace Worker

/-- What it comes to when a pool is asked to open idle connections, for every
    registered key and every count. -/
theorem spawns_of_run (configs : Registry) (env : ω) (operations : List (Operation ρ κ))
    (ha : ((fresh configs env).afterAll operations).ctx.conns.slots.length ≤ 2 ^ 32) :
    ∀ step ∈ (fresh configs env).steps operations, ∀ key count config,
      step.operation = .spawn key count → step.before.ctx.configs.get? key = some config →
      ∃ (pool : Pool) (ids : List ConnId),
        pool = (step.before.ctx.pools.get? key).getD { config } ∧ pool.config = config ∧
        step.Spawns key count pool ids := by
  intro step hmem key count config hspawn hconfig
  obtain ⟨hw, hsound, -⟩ := sound_of_mem_steps ha hmem
  exact step.spawns hw hsound (addressable_of_mem_steps ha hmem) hspawn hconfig

/-- No session can be started at first; of the next ones, the first is slow to
    connect, and the event loop refuses the socket of the third. -/
def patchyStage : Scripted.Stage :=
  { scripts := [{ refuse := true }, { polls := [(.reading, none)] }, {},
      { registrations := [some "full"] }] }

/-- The pool is asked for two connections, and then for as many as can be. -/
def spawningRun : List (Operation String String) :=
  [.spawn "k" 2, .spawn "k" (2 ^ 64 - 1)]

/-- The pool that a run leaves, with these connections idle. -/
def widePoolOf (free : List ConnId) : Pool :=
  ⟨⟨"k", .uri "u", 1, 3, 3⟩, free, [], 0⟩

/-- The first opening fails, and the pool is created for nothing; then two
    connections are opened for it, and a third one is not. -/
theorem spawns_of_spawningRun :
    ((fresh widePool patchyStage).afterAll spawningRun).ctx.conns.slots.length ≤ 2 ^ 32 ∧
      ∃ failed ∈ (fresh widePool patchyStage).steps spawningRun,
      ∃ grown ∈ (fresh widePool patchyStage).steps spawningRun,
        failed.Spawns "k" 2 (widePoolOf []) [] ∧
        failed.answer = .status (.error (.poolExhausted "k")) ∧
        grown.Spawns "k" (2 ^ 64 - 1) (widePoolOf []) [⟨0, 0⟩, ⟨1, 0⟩] ∧
        dials grown.events = [.uri "u", .uri "u", .uri "u"] ∧
        grown.answer = .status (.ok ()) := by
  have ha : ((fresh widePool patchyStage).afterAll spawningRun).ctx.conns.slots.length ≤ 2 ^ 32 := by
    decide +kernel
  have hall := spawns_of_run widePool patchyStage spawningRun ha
  have hfailed : ⟨fresh widePool patchyStage, .spawn "k" 2⟩ ∈
      (fresh widePool patchyStage).steps spawningRun := List.mem_cons_self
  have hgrown : ⟨(fresh widePool patchyStage).afterAll (spawningRun.take 1),
      .spawn "k" (2 ^ 64 - 1)⟩ ∈ (fresh widePool patchyStage).steps spawningRun :=
    List.mem_of_getElem? (i := 1) rfl
  refine ⟨ha, _, hfailed, _, hgrown, ?_⟩
  obtain ⟨pool, ids, hpool, -, hspawns⟩ := hall _ hfailed "k" _ _ rfl rfl
  obtain ⟨pool', ids', hpool', -, hspawns'⟩ := hall _ hgrown "k" _ _ rfl rfl
  obtain rfl : pool = widePoolOf [] := hpool.trans rfl
  obtain rfl : pool' = widePoolOf [] := hpool'.trans rfl
  obtain rfl : [] = ids := congrArg Pool.free (Option.some.inj (rfl.trans hspawns.grown))
  obtain rfl : [⟨0, 0⟩, ⟨1, 0⟩] = ids' :=
    congrArg Pool.free (Option.some.inj (rfl.trans hspawns'.grown))
  exact ⟨hspawns, hspawns.answer, hspawns', hspawns'.dials, hspawns'.answer⟩

end Worker
end ConnPool
