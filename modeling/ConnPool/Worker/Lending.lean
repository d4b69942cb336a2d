/-
  ConnPool.Worker.Lending

  How pools lend connections and take them back.

      acquire   something free        lend it, a connected one first
                room left             spawn, then lend
                full                  lend a direct connection
      reclaim   lent by the pool      forget the caller, back to the queue, shrink
                direct                adopt it if there is room, else release it
      shrink    while the pool is slack, release its oldest idle connection
-/

import ConnPool.Worker.Handshake

namespace ConnPool
namespace Worker

variable {ω ρ κ : Type}

/-- Creates an empty pool under `key` if the key is registered and has no pool
    yet. -/
def ensurePool (w : Worker ω ρ κ) (key : PoolKey) : Status × Worker ω ρ κ :=
  if w.ctx.pools.contains key then (.ok (), w)
  else
    match w.ctx.configs.get? key with
    | none => (.error (.configurationNotFound key), w)
    | some config =>
      let w := w.log (.poolCreated key config.minSize config.maxSize)
      (.ok (), w.withCtx fun ctx => { ctx with pools := ctx.pools.insert key { config } })

/-- The pool under `key`, created empty if need be. -/
def poolAt (w : Worker ω ρ κ) (key : PoolKey) : Except PoolError Pool × Worker ω ρ κ :=
  match w.ensurePool key with
  | (.error e, w) => (.error e, w)
  | (.ok (), w) =>
    match w.ctx.pools.get? key with
    | none => (.error (.configurationNotFound key), w.miss (.configurationNotFound key))
    | some pool => (.ok pool, w)

/-- The idle connection to lend next: the first connected one, else the
    oldest. -/
def pickFree? (ctx : Context ρ κ) (pool : Pool) : Option ConnId :=
  (pool.free.find? fun id => ctx.state? id = some .connected) <|> pool.free.head?

/-- Lends an idle connection of a pool.  The connect callback of one that is
    connected is told at once; one still connecting keeps it. -/
def lendFree (w : Worker ω ρ κ) (key : PoolKey) (request : Option ρ) (onConnect : Option κ) :
    Except PoolError ConnId × Worker ω ρ κ :=
  match w.ctx.pools.get? key with
  | none => (.error (.configurationNotFound key), w.miss (.configurationNotFound key))
  | some pool =>
    match pickFree? w.ctx pool with
    | none => (.error (.poolExhausted key), w.miss (.poolExhausted key))
    | some id =>
      let lent := { pool with free := pool.free.erase id, busy := pool.busy ++ [id] }
      let w := w.modifyPool key fun _ => lent
      match w.ctx.conn? id with
      | none => (.error (.unknownConnection id), w.miss (.unknownConnection id))
      | some conn =>
        let w := w.modifyConn id ({ · with membership := .busy key, request, onConnect })
        let w := w.log (.lent id key conn.state lent.load)
        (.ok id, if conn.state = .connected then w.confirmConnect id else w)

variable [Environment ω]

/-! ## Growing -/

/-- Opens idle connections one after another, up to the first that fails.
    `requested` is the whole number asked for and `opened` counts those open so
    far; answers how many were opened. -/
def openFree (key : PoolKey) (target : Target) (requested : Nat) :
    (remaining opened : Nat) → Worker ω ρ κ → Nat × Worker ω ρ κ
  | 0, opened, w => (opened, w)
  | remaining + 1, opened, w =>
    match w.establish target none none (.free key) with
    | (.ok _, w) => openFree key target requested remaining (opened + 1) w
    | (.error e, w) => (opened, w.log (.spawnStopped key e opened requested))

/-- Opens up to `count` idle connections, never past the ceiling of the pool.
    Fails if nothing is idle afterwards. -/
def spawn (w : Worker ω ρ κ) (key : PoolKey) (count : Nat) : Status × Worker ω ρ κ :=
  match w.poolAt key with
  | (.error e, w) => (.error e, w)
  | (.ok pool, w) =>
    let requested := min count pool.room
    let (opened, w) := openFree key pool.config.target requested requested 0 w
    match w.ctx.pools.get? key with
    | none => (.error (.configurationNotFound key), w.miss (.configurationNotFound key))
    | some pool =>
      let w := w.log (.spawned key requested opened pool.load)
      if pool.free = [] then (.error (.poolExhausted key), w) else (.ok (), w)

/-- Opens a direct connection to lend, because the pool is full. -/
def lendDirect (w : Worker ω ρ κ) (key : PoolKey) (request : Option ρ) (onConnect : Option κ) :
    Except PoolError ConnId × Worker ω ρ κ :=
  match w.ctx.pools.get? key with
  | none => (.error (.configurationNotFound key), w.miss (.configurationNotFound key))
  | some pool =>
    let w := w.log (.overflowing key pool.size pool.config.maxSize)
    match w.establish pool.config.target request onConnect .registry with
    | (.error e, w) => (.error e, w)
    | (.ok id, w) =>
      let w := w.modifyConn id ({ · with overflowOf := some key })
      (.ok id, w.modifyPool key fun pool => { pool with overflowCount := pool.overflowCount + 1 })

/-- Lends a connection of the pool under `key`, opening some if none is idle,
    or a direct one if the pool is full. -/
def acquire (w : Worker ω ρ κ) (key : PoolKey) (request : Option ρ) (onConnect : Option κ) :
    Except PoolError ConnId × Worker ω ρ κ :=
  match w.poolAt key with
  | (.error e, w) => (.error e, w)
  | (.ok pool, w) =>
    if pool.free ≠ [] then
      w.lendFree key request onConnect
    else if pool.size < pool.config.maxSize then
      match w.spawn key (pool.config.growth pool.size) with
      | (.error e, w) => (.error e, w)
      | (.ok (), w) => w.lendFree key request onConnect
    else
      w.lendDirect key request onConnect

/-! ## Shrinking -/

/-- Releases connections from the front of a queue while the pool is slack.
    Each release strikes its id from the pool's queue, so the queue walked here
    and the pool's own stay in step. -/
def shrinkAlong (key : PoolKey) : (queue : List ConnId) → Worker ω ρ κ → Worker ω ρ κ
  | [], w => w
  | oldest :: rest, w =>
    match w.ctx.pools.get? key with
    | none => w.miss (.configurationNotFound key)
    | some pool =>
      if pool.isSlack then
        match (w.log (.shrinking oldest key pool.load)).release oldest (.ok ()) with
        | (true, w) => shrinkAlong key rest w
        | (false, w) =>
          let w := w.miss (.unknownConnection oldest)
          shrinkAlong key rest (w.modifyPool key fun pool => { pool with free := pool.free.drop 1 })
      else w

/-- Releases the oldest idle connections of a pool while it is slack. -/
def shrink (w : Worker ω ρ κ) (key : PoolKey) : Worker ω ρ κ :=
  match w.ctx.pools.get? key with
  | none => w.miss (.configurationNotFound key)
  | some pool => shrinkAlong key pool.free w

/-! ## Taking back -/

/-- Takes back a direct connection that was lent because the pool was full: it
    becomes idle in the pool if there is room, else it is released. -/
def reclaimDirect (w : Worker ω ρ κ) (id : ConnId) (key : PoolKey) : Status × Worker ω ρ κ :=
  let hasRoom := (w.ctx.pools.get? key).any fun pool => pool.size < pool.config.maxSize
  match w.ctx.conn? id with
  | none => (.error (.unknownConnection id), w.miss (.unknownConnection id))
  | some _ =>
    let w := w.modifyConn id Connection.withoutCaller
    if hasRoom then
      let w := w.modifyConn id ({ · with overflowOf := none })
      let w := w.withCtx (·.strike id .registry)
      let w := w.modifyConn id ({ · with membership := .free key })
      let w := w.withCtx (·.enlist id (.free key))
      let w := match w.ctx.pools.get? key with
        | some pool => w.log (.adopted id key pool.size)
        | none => w.miss (.configurationNotFound key)
      (.ok (), w.shrink key)
    else
      let (_, w) := (w.log (.stillFull id key)).release id (.ok ())
      (.ok (), w)

/-- Takes back a lent connection.  Its caller is forgotten, and the pool
    shrinks if too much of it is idle. -/
def reclaim (w : Worker ω ρ κ) (id : ConnId) : Status × Worker ω ρ κ :=
  match w.ctx.conn? id with
  | none => (.error (.unknownConnection id), w)
  | some conn =>
    match conn.membership, conn.overflowOf with
    | .busy key, _ =>
      let w := w.modifyConn id ({ ·.withoutCaller with membership := .free key })
      let w := w.modifyPool key fun pool => (pool.dropBusy id).pushFree id
      match w.ctx.pools.get? key with
      | none => (.error (.configurationNotFound key), w.miss (.configurationNotFound key))
      | some pool =>
        let w := w.log (.reclaimed id key conn.state pool.load)
        (.ok (), w.shrink key)
    | .registry, some key => w.reclaimDirect id key
    | _, _ => (.error (.notBorrowed id), w)

end Worker
end ConnPool
