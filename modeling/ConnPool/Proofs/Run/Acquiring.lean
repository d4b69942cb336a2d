/-
  ConnPool.Proofs.Run.Acquiring

  What the acquisition of a connection comes to, for every registered key.

      something idle     one that is idle is lent, and no session is started
      room left          the pool grows by what can be opened, one of which is lent
      full               a direct connection is opened and lent

  A caller is called once, with success, if the connection that it is lent is
  connected; otherwise its callback is kept until the handshake ends.
-/

import ConnPool.Proofs.Run.Returning
import ConnPool.Proofs.Run.Undoing
import ConnPool.Proofs.Worker.Acquiring

namespace ConnPool

variable {ω ρ κ : Type} [Environment ω]

namespace Step

/-- Whether a step lends the connection under `id` of the pool under `key`,
    which is left with `rest` idle. -/
structure Grants (step : Step ω ρ κ) (key : PoolKey) (request : Option ρ) (onConnect : Option κ)
    (pool : Pool) (id : ConnId) (rest : List ConnId) : Prop where
  answer : step.answer = .opened (.ok id)
  pool : step.after.ctx.pools.get? key =
    some { pool with free := rest, busy := pool.busy ++ [id] }
  lent : ∃ conn, step.after.ctx.conn? id = some conn ∧ conn.membership = .busy key ∧
    conn.request = request ∧ conn.onConnect = if conn.state = .connected then none else onConnect
  /-- Of all callbacks, that of the caller is called, if it can be told. -/
  calls : step.events.filter Event.isCall =
    if step.after.ctx.state? id = some .connected then
      onConnect.toList.map (.connectCalled · id (.ok ()) request)
    else []

/-- Whether a step lends an idle connection of the pool under `key`. -/
structure LendsIdle (step : Step ω ρ κ) (key : PoolKey) (request : Option ρ)
    (onConnect : Option κ) (pool : Pool) : Prop where
  granted : ∃ id rest, step.before.ctx.Prefers pool.free id rest ∧
    step.Grants key request onConnect pool id rest ∧
    (∃ conn, step.before.ctx.conn? id = some conn ∧
      step.after.ctx.conn? id = some (conn.lentBy key request onConnect)) ∧
    ∀ other, other ≠ id → step.after.ctx.conn? other = step.before.ctx.conn? other
  /-- No session is asked for. -/
  dials : dials step.events = []
  started : step.after.started = step.before.started

/-- Whether a step opens the connections under `ids` for the pool under `key`,
    one after another, and lends one of them, if any. -/
structure Grows (step : Step ω ρ κ) (key : PoolKey) (request : Option ρ) (onConnect : Option κ)
    (pool : Pool) (ids : List ConnId) : Prop where
  length_le : ids.length ≤ pool.config.growth pool.size
  /-- Openings go on until enough have gone well or one fails. -/
  dials : dials step.events = List.replicate ids.length pool.config.target ++
    if ids.length < pool.config.growth pool.size then [pool.config.target] else []
  /-- What is opened is new, and has the sessions that are started, in order. -/
  opened : ∀ i id, ids[i]? = some id → step.before.ctx.conn? id = none ∧
    ∃ socket, step.after.ctx.held? id = some (step.before.started + i, socket)
  size_eq : step.after.ctx.poolSize key = pool.size + ids.length
  size_le : pool.size + ids.length ≤ pool.config.maxSize
  granted : ids ≠ [] → ∃ id rest, step.after.ctx.Prefers ids id rest ∧
    step.Grants key request onConnect pool id rest
  exhausted : ids = [] → step.answer = .opened (.error (.poolExhausted key)) ∧
    step.events.filter Event.isCall = [] ∧ step.after.ctx.pools.get? key = some pool

/-- Whether a step lends a direct connection, under `id`, in the stead of the
    pool under `key`. -/
structure Overflows (step : Step ω ρ κ) (key : PoolKey) (request : Option ρ)
    (onConnect : Option κ) (pool : Pool) (id : ConnId) : Prop where
  answer : step.answer = .opened (.ok id)
  isNew : step.before.ctx.conn? id = none
  lent : ∃ conn, step.after.ctx.conn? id = some conn ∧ conn.membership = .registry ∧
    conn.overflowOf = some key ∧ conn.session = step.before.started ∧ conn.request = request ∧
    conn.onConnect = if conn.state = .connected then none else onConnect
  pool : step.after.ctx.pools.get? key =
    some { pool with overflowCount := pool.overflowCount + 1 }
  registry : step.after.ctx.registry = step.before.ctx.registry ++ [id]
  calls : step.events.filter Event.isCall =
    if step.after.ctx.state? id = some .connected then
      onConnect.toList.map (.connectCalled · id (.ok ()) request)
    else []

/-- Whether a step fails to open a direct connection in the stead of the pool
    under `key`, and leaves everything as it is. -/
structure FailsToOverflow (step : Step ω ρ κ) (key : PoolKey) (request : Option ρ)
    (onConnect : Option κ) (pool : Pool) (error : PoolError) : Prop where
  answer : step.answer = .opened (.error error)
  conns : ∀ id, step.after.ctx.conn? id = step.before.ctx.conn? id
  pool : step.after.ctx.pools.get? key = some pool
  registry : step.after.ctx.registry = step.before.ctx.registry
  /-- The caller is told the failure if the opening came to have a connection. -/
  calls : (step.events.filter Event.isCall = [] ∧
      ∃ reason, error = .allocation reason ∨ error = .socketMode reason) ∨
    ∃ id, step.events.filter Event.isCall =
      onConnect.toList.map (.connectCalled · id (.error error) request)

/-! ## The pool that is asked -/

/-- What a step that acquires has come to once it has found the pool under
    `key`, or created it. -/
structure Finds (step : Step ω ρ κ) (key : PoolKey) (pool : Pool) (v : View ρ κ) : Prop where
  pool : v.ctx.pools.get? key = some pool
  conns : ∀ id, v.ctx.conn? id = step.before.ctx.conn? id
  registry : v.ctx.registry = step.before.ctx.registry
  started : v.started = step.before.started
  path : ∃ first, Path step.before.view first v ∧
    ConnPool.dials (first.flatMap Act.events) = [] ∧
      (first.flatMap Act.events).filter Event.isCall = []

variable {step : Step ω ρ κ} {key : PoolKey} {request : Option ρ} {onConnect : Option κ}
  {pool : Pool} {v : View ρ κ}

omit [Environment ω] in
theorem Finds.orderly (h : step.Finds key pool v) (hw : step.before.ctx.Orderly) :
    v.ctx.Orderly := by
  obtain ⟨first, hpath, -⟩ := h.path
  exact hpath.orderly hw

omit [Environment ω] in
/-- Writing a record down changes nothing of what is found. -/
theorem Finds.noted (h : step.Finds key pool v) {record : LogRecord} {v' : View ρ κ}
    (hpath : Path v [.noted [.logged record]] v') : step.Finds key pool v' := by
  obtain ⟨first, hfirst, hdials, hcalls⟩ := h.path
  obtain rfl := hpath.run_eq
  refine ⟨h.pool, h.conns, h.registry, h.started, _, hfirst.append hpath, ?_, ?_⟩
  · rw [List.flatMap_append, dials_append, hdials]
    rfl
  · rw [List.flatMap_append, List.filter_append, hcalls]
    rfl

/-- A session is asked for, or a callback called, only after the pool is
    found. -/
theorem Finds.events_eq (h : step.Finds key pool v) {acts : List (Act ρ κ)}
    (hpath : Path v acts step.after.view) :
    ConnPool.dials step.events = ConnPool.dials (acts.flatMap Act.events) ∧
      step.events.filter Event.isCall = (acts.flatMap Act.events).filter Event.isCall := by
  obtain ⟨first, hfirst, hdials, hcalls⟩ := h.path
  rw [Step.events_eq (hfirst.append hpath), List.flatMap_append, dials_append, List.filter_append,
    hdials, hcalls]
  exact ⟨rfl, rfl⟩

omit [Environment ω] in
/-- The pool under a registered key is found as it is, or empty. -/
theorem exists_finding (hsound : step.before.ctx.Sound) {config : PoolConfig}
    (hconfig : step.before.ctx.configs.get? key = some config) :
    ∃ (pool : Pool) (w : Worker ω ρ κ) (first : List (Act ρ κ)),
      step.before.poolAt key = (.ok pool, w) ∧ w.ctx.pools.get? key = some pool ∧
        pool = (step.before.ctx.pools.get? key).getD { config } ∧ pool.config = config ∧
        Finding step.before.ctx key pool first ∧ Path step.before.view first w.view := by
  rcases hlook : step.before.poolAt key with ⟨result, w⟩
  rcases Worker.poolAt_cases hlook with
    ⟨-, -, -, hnone⟩ | ⟨pool, first, rfl, hget, hfinding, hpath⟩
  · rw [hnone] at hconfig
    cases hconfig
  refine ⟨pool, w, first, rfl, hget, ?_, ?_, hfinding, hpath⟩
  · cases hfinding with
    | found _ hpool => rw [hpool, Option.getD_some]
    | created config' hnone hconfig' =>
        rw [hconfig] at hconfig'
        rw [hnone, Option.some.inj hconfig', Option.getD_none]
  · cases hfinding with
    | found _ hpool =>
        have hsame := hsound.configured key pool.config (Context.poolConfig?_of_get? hpool)
        rw [hconfig] at hsame
        exact (Option.some.inj hsame).symm
    | created config' hnone hconfig' =>
        rw [hconfig] at hconfig'
        exact (Option.some.inj hconfig').symm

omit [Environment ω] in
/-- Finding the pool changes no connection, and starts no session. -/
theorem finds_of_finding {w : Worker ω ρ κ} {first : List (Act ρ κ)}
    (hget : w.ctx.pools.get? key = some pool) (hfinding : Finding step.before.ctx key pool first)
    (hpath : Path step.before.view first w.view) : step.Finds key pool w.view := by
  obtain ⟨hconns, hregistry, -, -⟩ := hfinding.run hpath
  have hcalls := hpath.not_isCall_of_idle hfinding.idle
  cases hfinding with
  | found _ hpool =>
      exact ⟨hget, hconns, hregistry, congrArg View.started hpath.eq_of_nil, _, hpath, rfl, hcalls⟩
  | created config hnone hconfig =>
      exact ⟨hget, hconns, hregistry, congrArg View.started hpath.run_eq.symm, _, hpath, rfl,
        hcalls⟩

/-- What an acquisition finds, and how it goes on. -/
theorem exists_finds (hsound : step.before.ctx.Sound)
    (hacquire : step.operation = .acquire key request onConnect) {config : PoolConfig}
    (hconfig : step.before.ctx.configs.get? key = some config) :
    ∃ (pool : Pool) (w : Worker ω ρ κ) (outcome : Except PoolError ConnId),
      pool = (step.before.ctx.pools.get? key).getD { config } ∧
      pool.config = config ∧ step.Finds key pool w.view ∧
      w.acquire key request onConnect = (outcome, step.after) ∧ step.answer = .opened outcome := by
  obtain ⟨pool, w, first, hlook, hget, hpool, hsame, hfinding, hpath⟩ :=
    exists_finding hsound hconfig
  have hstep := Worker.acquire_of_poolAt hlook hget request onConnect
  rcases houtcome : w.acquire key request onConnect with ⟨outcome, w'⟩
  have hperform : step.before.perform step.operation = (.opened outcome, w') := by
    rw [hacquire, Worker.perform, hstep, houtcome]
  have hafter : step.after = w' := congrArg Prod.snd hperform
  exact ⟨pool, w, outcome, hpool, hsame, finds_of_finding hget hfinding hpath, hafter ▸ houtcome,
    congrArg Prod.fst hperform⟩

/-! ## Lending an idle connection -/

/-- A connection that is lent is one that its pool had idle, and of all
    callbacks that of its caller is called if it is connected. -/
theorem grants_of_lent (hw : v.ctx.Orderly) {id : ConnId} {conn : Connection ρ κ}
    {load : PoolLoad} (hpool : v.ctx.pools.get? key = some pool)
    (hlent : Path v [.lent id conn key request onConnect load] step.after.view)
    (hanswer : step.answer = .opened (.ok id))
    (hcalls : step.events.filter Event.isCall =
      (Act.lent id conn key request onConnect load).events.filter Event.isCall) :
    step.Grants key request onConnect pool id (pool.free.erase id) ∧
      v.ctx.conn? id = some conn ∧
      step.after.ctx.conn? id = some (conn.lentBy key request onConnect) := by
  have hrun := hlent.run_eq
  obtain ⟨hconn, hfree⟩ := hlent.enabled
  have hlive : step.after.ctx.conn? id = some (conn.lentBy key request onConnect) := by
    rw [← Worker.ctx_view, ← hrun, Act.conn?_run hlent.enabled hw]
    exact if_pos rfl
  have hstate : step.after.ctx.state? id = some conn.state := by
    rw [Context.state?, hlive]
    rfl
  refine ⟨⟨hanswer, ?_, ⟨_, hlive, rfl, rfl, rfl⟩, ?_⟩, hconn, hlive⟩
  · rw [← Worker.ctx_view, ← hrun]
    exact hw.get?_transfer_lentBy hpool hfree request onConnect
  · rw [hcalls, Act.filter_isCall hlent.enabled, hstate, Act.told]
    by_cases hconnected : conn.state = .connected
    · rw [if_pos hconnected, if_pos (congrArg some hconnected), filter_isCall_connectCall]
      rfl
    · rw [if_neg hconnected, if_neg fun h => hconnected (Option.some.inj h)]
      rfl

/-- A pool with an idle connection lends one of them. -/
theorem lendsIdle_of_free {w : Worker ω ρ κ} (hw : step.before.ctx.Orderly)
    (hfinds : step.Finds key pool w.view) (hfree : pool.free ≠ [])
    {outcome : Except PoolError ConnId}
    (hacquire : w.acquire key request onConnect = (outcome, step.after))
    (hanswer : step.answer = .opened outcome) : step.LendsIdle key request onConnect pool := by
  have hw₁ := hfinds.orderly hw
  obtain ⟨id, conn, load, rfl, hpick, hlent⟩ :=
    Worker.acquire_of_free hw₁ hfinds.pool hfree hacquire
  obtain ⟨hdials, hcalls⟩ := hfinds.events_eq hlent
  rw [List.flatMap_singleton] at hdials hcalls
  obtain ⟨hgrants, hconn, hlive⟩ := grants_of_lent hw₁ hfinds.pool hlent hanswer hcalls
  -- finding the pool changes no state, so what is preferred then is preferred before
  have hprefers : step.before.ctx.Prefers pool.free id (pool.free.erase id) := by
    refine (Worker.prefers_of_pickFree? hpick).congr fun other => ?_
    exact congrArg (Option.map Connection.state) (hfinds.conns other).symm
  constructor
  case granted =>
    refine ⟨id, _, hprefers, hgrants, ⟨conn, (hfinds.conns id).symm.trans hconn, hlive⟩, ?_⟩
    intro other hne
    rw [← hfinds.conns other]
    refine hlent.conn?_eq hw₁ (List.forall_mem_singleton.2 fun hsame => ?_)
    exact hne (Option.some.inj hsame).symm
  case dials => rw [hdials, dials_lent]
  case started =>
    rw [← hfinds.started]
    exact (congrArg View.started hlent.run_eq).symm

/-! ## Growing -/

omit [Environment ω] in
/-- The pool, and what was opened for it, after the openings. -/
theorem Finds.grown (hw : step.before.ctx.Orderly) (hfinds : step.Finds key pool v)
    (hfree : pool.free = []) {count : Nat} {ids : List ConnId} {acts : List (Act ρ κ)}
    (hgrowing : Growing key pool.config.target count ids acts) {record : LogRecord}
    {v' : View ρ κ} (hpath : Path v (acts ++ [.noted [.logged record]]) v') :
    v'.ctx.pools.get? key = some { pool with free := ids } ∧
      (∀ i id, ids[i]? = some id → step.before.ctx.conn? id = none ∧
        ∃ socket, v'.ctx.held? id = some (step.before.started + i, socket)) ∧
      ConnPool.dials ((acts ++ [Act.noted [.logged record]]).flatMap Act.events) =
        List.replicate ids.length pool.config.target ++
          (if ids.length < count then [pool.config.target] else []) ∧
      ((acts ++ [Act.noted [.logged record]]).flatMap Act.events).filter Event.isCall = [] := by
  obtain ⟨v₁, hopenings, hctx⟩ := hpath.of_noted
  refine ⟨?_, ?_, ?_, ?_⟩
  · have hpool := hgrowing.get?_eq hopenings hfinds.pool
    rw [hfree, List.nil_append] at hpool
    rw [hctx, hpool]
  · intro i id hid
    obtain ⟨hnone, hheld⟩ := hgrowing.held?_eq hopenings (hfinds.orderly hw) hid
    rw [hfinds.started] at hheld
    rw [hctx, ← hfinds.conns id]
    exact ⟨hnone, hheld⟩
  · rw [List.flatMap_append, dials_append, hgrowing.dials_eq]
    exact List.append_nil _
  · exact hpath.not_isCall_of_idle
      (List.forall_mem_append.2 ⟨hgrowing.idle, List.forall_mem_singleton.2 trivial⟩)

/-- A pool without idle connections that has room grows, and lends one of the
    connections that are opened, if any. -/
theorem grows_of_room {w : Worker ω ρ κ} (hw : step.before.ctx.Orderly)
    (ha : step.after.ctx.conns.Addressable) (hfinds : step.Finds key pool w.view)
    (hfree : pool.free = [])
    (hroom : pool.size < pool.config.maxSize) {outcome : Except PoolError ConnId}
    (hacquire : w.acquire key request onConnect = (outcome, step.after))
    (hanswer : step.answer = .opened outcome) :
    ∃ ids, step.Grows key request onConnect pool ids := by
  obtain ⟨ids, acts, record, hgrowing, hends⟩ :=
    Worker.acquire_of_room (hfinds.orderly hw) hfinds.pool hfree hroom hacquire ha
  have hlength := hgrowing.length_le
  have hsize : pool.size + ids.length ≤ pool.config.maxSize := by
    have hgrowth := pool.config.growth_le_sub pool.size
    omega
  refine ⟨ids, ?_⟩
  rcases hends with
    ⟨hids, rfl, hpath⟩ | ⟨hids, id, conn, load, pool₁, v₁, rfl, hpath, hpool₁, hpick, hlent⟩
  · -- nothing was opened, and the pool stays as it was found
    obtain ⟨hpool, hopened, hdials, hcalls⟩ := hfinds.grown hw hfree hgrowing hpath
    obtain ⟨hdials', hcalls'⟩ := hfinds.events_eq hpath
    have hsame : step.after.ctx.pools.get? key = some pool := by
      rw [← Worker.ctx_view, hpool, hids, ← hfree]
    constructor
    case length_le => exact hlength
    case dials => exact hdials'.trans hdials
    case opened => exact hopened
    case size_eq =>
      rw [Context.poolSize_of_get? hsame, hids]
      rfl
    case size_le => exact hsize
    case granted => exact fun hne => absurd hids hne
    case exhausted => exact fun _ => ⟨hanswer, hcalls'.trans hcalls, hsame⟩
  · -- one of what was opened is lent
    obtain ⟨hpool, hopened, hdials, hcalls⟩ := hfinds.grown hw hfree hgrowing hpath
    obtain ⟨hdials', hcalls'⟩ := hfinds.events_eq (hpath.append hlent)
    rw [List.flatMap_append, List.flatMap_singleton] at hdials' hcalls'
    rw [dials_append, dials_lent, List.append_nil] at hdials'
    rw [List.filter_append, hcalls, List.nil_append] at hcalls'
    have hw₁ : v₁.ctx.Orderly := hpath.orderly (hfinds.orderly hw)
    obtain rfl : { pool with free := ids } = pool₁ := Option.some.inj (hpool.symm.trans hpool₁)
    obtain ⟨hgrants, -, -⟩ := grants_of_lent hw₁ hpool₁ hlent hanswer hcalls'
    have hprefers := Worker.prefers_of_pickFree? hpick
    constructor
    case length_le => exact hlength
    case dials => exact hdials'.trans hdials
    case opened =>
      intro i id' hid
      -- lending ends nothing, so what was opened is still there
      obtain ⟨hnone, socket, hheld⟩ := hopened i id' hid
      refine ⟨hnone, socket, ?_⟩
      have hlive : (v₁.ctx.conn? id').isSome := by
        rw [← Context.isSome_held?, hheld]
        rfl
      rw [← hheld]
      exact hlent.held?_of_live hw₁ hlive (List.forall_mem_singleton.2 fun hends => hends)
    case size_eq =>
      have hpick : id ∈ ids := hprefers.mem
      rw [Context.poolSize_of_get? hgrants.pool]
      simp only [Pool.size, hfree, List.length_erase_of_mem hpick, List.length_append,
        List.length_singleton, List.length_nil]
      have hpos := List.length_pos_of_mem hpick
      omega
    case size_le => exact hsize
    case granted =>
      refine fun _ => ⟨id, _, hprefers.congr fun other => ?_, hgrants.answer, hgrants.pool,
        hgrants.lent, hgrants.calls⟩
      exact hlent.state?_of_lent hw₁ other
    case exhausted => exact fun hnil => absurd hnil hids

/-! ## Lending a direct connection -/

/-- A direct connection that is opened in the stead of a pool, and listed as
    such. -/
theorem overflows_of_opened (hw : step.before.ctx.Orderly) (hfinds : step.Finds key pool v)
    {id : ConnId} {target : Target} {conn : Connection ρ κ} {poll : PollReport}
    (hopening : Opening target request onConnect .registry (.ok id) (.opened id target conn poll))
    (hpath : Path v [.opened id target conn poll, .tagged id (conn.stepped poll) key]
      step.after.view)
    (hanswer : step.answer = .opened (.ok id)) :
    ConnPool.dials step.events = [target] ∧ step.Overflows key request onConnect pool id := by
  obtain ⟨hdials, hcalls⟩ := hfinds.events_eq hpath
  rw [List.flatMap_cons, dials_append, hopening.dials_eq] at hdials
  obtain ⟨v₁, hopen, htag⟩ := Path.of_append (show Path v ([_] ++ [_]) _ from hpath)
  have hw₁ := hfinds.orderly hw
  have hw₂ := hopen.orderly hw₁
  obtain ⟨-, hsession, -, hid, -, -, ha⟩ := hopen.enabled
  cases hopening with
  | opened _ _ _ hrequest honConnect hmembership =>
      -- tagging is the last thing that is done to the record
      have hlive : step.after.ctx.conn? id =
          some { conn.stepped poll with overflowOf := some key } := by
        rw [← Worker.ctx_view, ← htag.run_eq, Act.conn?_run htag.enabled hw₂]
        exact if_pos rfl
      have hstate : step.after.ctx.state? id = some (conn.stepped poll).state := by
        rw [Context.state?, hlive]
        rfl
      refine ⟨hdials, ?_⟩
      constructor
      case answer => exact hanswer
      case isNew =>
        rw [← hfinds.conns id, hid]
        exact Context.conn?_nextId hw₁.arena ha
      case lent =>
        refine ⟨_, hlive, hmembership, rfl, hsession.trans hfinds.started, hrequest, ?_⟩
        rw [← honConnect]
        by_cases hpoll : poll = .ok
        · simp [Connection.stepped, hpoll]
        · simp [Connection.stepped, hpoll]
      case pool =>
        have hsame : v₁.ctx.pools.get? key = some pool := by
          rw [← hfinds.pool]
          refine hopen.get?_eq (List.forall_mem_singleton.2 ?_)
          rw [Act.Touches, hmembership]
          exact (Option.some_ne_none key).symm
        rw [← Worker.ctx_view, ← htag.run_eq]
        show (v₁.ctx.pools.modify key _).get? key = _
        rw [KeyMap.get?_modify, if_pos rfl, hsame]
        rfl
      case registry =>
        rw [← Worker.ctx_view, ← htag.run_eq, ← hfinds.registry]
        show v₁.ctx.registry = _
        rw [← hopen.run_eq]
        exact Act.registry_run_opened hopen.enabled hmembership
      case calls =>
        rw [hcalls, hstate, List.flatMap_cons, List.filter_append, Act.filter_isCall hopen.enabled,
          Act.told]
        by_cases hpoll : poll = .ok
        · have hconnected : (conn.stepped poll).state = .connected := if_pos hpoll
          rw [if_pos hpoll, if_pos (congrArg some hconnected), filter_isCall_connectCall,
            Connection.connectCall, hrequest, honConnect]
          exact List.append_nil _
        · have hconnecting : (conn.stepped poll).state = .connecting := if_neg hpoll
          rw [if_neg hpoll, hconnecting]
          rfl

/-- An opening in the stead of a pool that fails. -/
theorem failsToOverflow_of_failed (hw : step.before.ctx.Orderly) (hfinds : step.Finds key pool v)
    {target : Target} {error : PoolError} {act : Act ρ κ}
    (hopening : Opening target request onConnect .registry (.error error) act)
    (hpath : Path v [act] step.after.view) (hanswer : step.answer = .opened (.error error)) :
    ConnPool.dials step.events = [target] ∧
      step.FailsToOverflow key request onConnect pool error := by
  obtain ⟨hdials, hcalls⟩ := hfinds.events_eq hpath
  rw [List.flatMap_singleton] at hdials hcalls
  have hleaves : ∀ act' ∈ [act], act'.LeavesNothing :=
    List.forall_mem_singleton.2 hopening.leavesNothing
  refine ⟨hdials.trans hopening.dials_eq, ?_⟩
  constructor
  case answer => exact hanswer
  case conns =>
    intro id
    rw [← hfinds.conns id]
    refine hpath.conn?_eq (hfinds.orderly hw) fun act' hmem => ?_
    rw [(hleaves act' hmem).change_eq_none]
    exact (Option.some_ne_none id).symm
  case pool =>
    rw [← hfinds.pool]
    exact hpath.get?_eq fun act' hmem => (hleaves act' hmem).not_touches key
  case registry =>
    rw [← hfinds.registry]
    exact hpath.registry_eq hleaves
  case calls =>
    rw [hcalls]
    exact hopening.filter_isCall_of_error hpath.enabled

/-- A pool that is full lends a direct connection that is opened for it, or
    answers why that failed. -/
theorem overflows_of_full {w : Worker ω ρ κ} (hw : step.before.ctx.Orderly)
    (ha : step.after.ctx.conns.Addressable) (hfinds : step.Finds key pool w.view)
    (hfree : pool.free = [])
    (hfull : ¬pool.size < pool.config.maxSize) {outcome : Except PoolError ConnId}
    (hacquire : w.acquire key request onConnect = (outcome, step.after))
    (hanswer : step.answer = .opened outcome) :
    ConnPool.dials step.events = [pool.config.target] ∧
      ((∃ id, step.Overflows key request onConnect pool id) ∨
        ∃ error, step.FailsToOverflow key request onConnect pool error) := by
  rw [Worker.acquire_of_full hfinds.pool hfree hfull] at hacquire
  obtain ⟨record, act, hopening, hends⟩ :=
    Worker.lendDirect_path (hfinds.orderly hw) hfinds.pool hacquire ha
  rcases hends with ⟨id, conn, poll, rfl, rfl, hpath⟩ | ⟨error, rfl, hpath⟩
  · obtain ⟨v, hnoted, hrest⟩ := Path.of_append (show Path _ ([_] ++ [_, _]) _ from hpath)
    exact (overflows_of_opened hw (hfinds.noted hnoted) hopening hrest hanswer).imp_right
      fun h => .inl ⟨id, h⟩
  · obtain ⟨v, hnoted, hrest⟩ := Path.of_append (show Path _ ([_] ++ [_]) _ from hpath)
    exact (failsToOverflow_of_failed hw (hfinds.noted hnoted) hopening hrest hanswer).imp_right
      fun h => .inr ⟨error, h⟩

end Step

namespace Worker

/-- The acquisition of a connection, for every registered key.  What is lent is
    the first connection that is connected, or else the oldest, of those that the
    pool has idle; where it has none and is not full, of those that are opened
    for it, as many as it grows by, or up to the first opening that fails; and a
    direct connection where it is full. -/
theorem acquires_of_run (configs : Registry) (env : ω) (operations : List (Operation ρ κ))
    (ha : ((fresh configs env).afterAll operations).ctx.conns.slots.length ≤ 2 ^ 32) :
    ∀ step ∈ (fresh configs env).steps operations, ∀ key request onConnect config,
      step.operation = .acquire key request onConnect →
      step.before.ctx.configs.get? key = some config →
      ∃ pool : Pool, pool = (step.before.ctx.pools.get? key).getD { config } ∧
        pool.config = config ∧ pool.size ≤ config.maxSize ∧
        (pool.free ≠ [] → step.LendsIdle key request onConnect pool) ∧
        (pool.free = [] → pool.size < config.maxSize →
          ∃ ids, step.Grows key request onConnect pool ids ∧
            (ids = [] → 1 ≤ config.spawnBatch → dials step.events = [config.target])) ∧
        (pool.free = [] → pool.size = config.maxSize →
          dials step.events = [config.target] ∧
            ((∃ id, step.Overflows key request onConnect pool id) ∨
              ∃ error, step.FailsToOverflow key request onConnect pool error)) := by
  intro step hmem key request onConnect config hacquire hconfig
  obtain ⟨hw, hsound, -⟩ := sound_of_mem_steps ha hmem
  have haddressable := addressable_of_mem_steps ha hmem
  obtain ⟨pool, w, outcome, hpool, rfl, hfinds, houtcome, hanswer⟩ :=
    Step.exists_finds hsound hacquire hconfig
  refine ⟨pool, hpool, rfl, (hfinds.orderly hw).size_le_of_get? hfinds.pool, ?_, ?_, ?_⟩
  · exact fun hfree => Step.lendsIdle_of_free hw hfinds hfree houtcome hanswer
  · intro hfree hroom
    obtain ⟨ids, hgrows⟩ :=
      Step.grows_of_room hw haddressable hfinds hfree hroom houtcome hanswer
    refine ⟨ids, hgrows, fun hids hbatch => ?_⟩
    rw [hgrows.dials, hids, List.length_nil, if_pos (PoolConfig.growth_pos hbatch hroom)]
    rfl
  · intro hfree hfull
    have hnot : ¬pool.size < pool.config.maxSize := Nat.not_lt.2 (Nat.le_of_eq hfull.symm)
    exact Step.overflows_of_full hw haddressable hfinds hfree hnot houtcome hanswer

/-- The pool lends the connection that it opens first, then one in its stead,
    and then the first one again. -/
def lendingRun : List (Operation String String) :=
  [.acquire "k" (some "first") (some "called"), .acquire "k" none none, .reclaim ⟨0, 0⟩,
    .acquire "k" none (some "again")]

/-- The pool that a run leaves, with so many connections lent in its stead. -/
def smallPoolOf (free busy : List ConnId) (overflowCount : Nat) : Pool :=
  ⟨⟨"k", .uri "u", 1, 1, 1⟩, free, busy, overflowCount⟩

theorem acquires_of_lendingRun :
    ((fresh smallPool quickStage).afterAll lendingRun).ctx.conns.slots.length ≤ 2 ^ 32 ∧
      ∃ grown ∈ (fresh smallPool quickStage).steps lendingRun,
      ∃ direct ∈ (fresh smallPool quickStage).steps lendingRun,
      ∃ idle ∈ (fresh smallPool quickStage).steps lendingRun,
        (∃ ids, grown.Grows "k" (some "first") (some "called") (smallPoolOf [] [] 0) ids ∧
          grown.answer = .opened (.ok ⟨0, 0⟩)) ∧
        (∃ id, direct.Overflows "k" none none (smallPoolOf [] [⟨0, 0⟩] 0) id) ∧
        idle.LendsIdle "k" none (some "again") (smallPoolOf [⟨0, 0⟩] [] 1) := by
  have ha : ((fresh smallPool quickStage).afterAll lendingRun).ctx.conns.slots.length ≤ 2 ^ 32 := by
    decide +kernel
  have hall := acquires_of_run smallPool quickStage lendingRun ha
  have hgrown : ⟨fresh smallPool quickStage, .acquire "k" (some "first") (some "called")⟩ ∈
      (fresh smallPool quickStage).steps lendingRun := List.mem_cons_self
  have hdirect : ⟨(fresh smallPool quickStage).afterAll (lendingRun.take 1),
      .acquire "k" none none⟩ ∈ (fresh smallPool quickStage).steps lendingRun :=
    List.mem_of_getElem? (i := 1) rfl
  have hidle : ⟨(fresh smallPool quickStage).afterAll (lendingRun.take 3),
      .acquire "k" none (some "again")⟩ ∈ (fresh smallPool quickStage).steps lendingRun :=
    List.mem_of_getElem? (i := 3) rfl
  refine ⟨ha, _, hgrown, _, hdirect, _, hidle, ?_, ?_, ?_⟩
  · obtain ⟨pool, hpool, -, -, -, hroom, -⟩ := hall _ hgrown "k" _ _ _ rfl rfl
    obtain rfl : pool = smallPoolOf [] [] 0 := hpool.trans rfl
    obtain ⟨ids, hgrows, -⟩ := hroom rfl (by decide)
    exact ⟨ids, hgrows, rfl⟩
  · obtain ⟨pool, hpool, -, -, -, -, hfull⟩ := hall _ hdirect "k" _ _ _ rfl rfl
    obtain rfl : pool = smallPoolOf [] [⟨0, 0⟩] 0 := hpool.trans rfl
    rcases (hfull rfl rfl).2 with hoverflows | ⟨error, hfails⟩
    · exact hoverflows
    · cases hfails.answer
  · obtain ⟨pool, hpool, -, -, hlends, -⟩ := hall _ hidle "k" _ _ _ rfl rfl
    obtain rfl : pool = smallPoolOf [⟨0, 0⟩] [] 1 := hpool.trans rfl
    exact hlends (List.cons_ne_nil _ _)

end Worker
end ConnPool
