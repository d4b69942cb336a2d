/-
  ConnPool.Context.Basic

  What one execution context holds: the configurations it may use, its
  connections, the list of those that no pool owns, and its pools.

  Three collections list connections: the registry list, the idle queues and
  the busy lists.
-/

import ConnPool.Arena
import ConnPool.Pool.Basic
import ConnPool.Pool.Registry
import ConnPool.Conn.Record

namespace ConnPool

/-- Connections and pools of one execution context. -/
structure Context (ρ κ : Type) where
  configs : Registry
  conns : Arena (Connection ρ κ) := {}
  /-- Live connections that no pool owns, oldest first. -/
  registry : List ConnId := []
  /-- Pools, each created when its key is first used. -/
  pools : KeyMap Pool := {}

namespace Context

variable {ρ κ : Type}

/-! ## Looking at connections -/

/-- The connection under `id`, unless the id is stale. -/
def conn? (ctx : Context ρ κ) (id : ConnId) : Option (Connection ρ κ) :=
  ctx.conns.get? id

/-- The state of a live connection. -/
def state? (ctx : Context ρ κ) (id : ConnId) : Option ConnState :=
  (ctx.conn? id).map (·.state)

/-- The socket of a live connection. -/
def socket? (ctx : Context ρ κ) (id : ConnId) : Option Int :=
  (ctx.conn? id).map (·.socket)

/-- What the latest handshake step of a live connection reported. -/
def lastPoll? (ctx : Context ρ κ) (id : ConnId) : Option PollReport :=
  (ctx.conn? id).bind (·.lastPoll)

/-- Whether `id` is live and owned by a pool. -/
def isPooled (ctx : Context ρ κ) (id : ConnId) : Bool :=
  (ctx.conn? id).any (·.membership.pool?.isSome)

/-- The ids of all live connections, in slot order. -/
def ids (ctx : Context ρ κ) : List ConnId :=
  ctx.conns.ids

/-- How many connections are live. -/
def count (ctx : Context ρ κ) : Nat :=
  ctx.conns.size

/-! ## Looking at pools -/

/-- The figures of the pool under `key`, once it exists. -/
def figures? (ctx : Context ρ κ) (key : PoolKey) : Option PoolFigures :=
  (ctx.pools.get? key).map Pool.figures

/-- One record of figures per pool, in key order. -/
def statistics (ctx : Context ρ κ) : List LogRecord :=
  ctx.pools.entries.map fun (key, pool) => .statistics key pool.figures

/-- A summary by counts. -/
def summary (ctx : Context ρ κ) : String :=
  s!"PgContext \x7b connections: {ctx.count}, registry: {ctx.registry.length}, "
    ++ s!"pools: {ctx.pools.size}, .. \x7d"

/-! ## Changing collections -/

/-- Changes the connection under `id`; a stale id changes nothing. -/
def modifyConn (ctx : Context ρ κ) (id : ConnId) (f : Connection ρ κ → Connection ρ κ) :
    Context ρ κ :=
  { ctx with conns := ctx.conns.modify id f }

/-- Changes the pool under `key`, if there is one. -/
def modifyPool (ctx : Context ρ κ) (key : PoolKey) (f : Pool → Pool) : Context ρ κ :=
  { ctx with pools := ctx.pools.modify key f }

/-- Lists `id` at the end of a collection. -/
def enlist (ctx : Context ρ κ) (id : ConnId) : Membership → Context ρ κ
  | .registry => { ctx with registry := ctx.registry ++ [id] }
  | .free key => ctx.modifyPool key (·.pushFree id)
  | .busy key => ctx.modifyPool key (·.pushBusy id)

/-- Strikes `id` from a collection. -/
def strike (ctx : Context ρ κ) (id : ConnId) : Membership → Context ρ κ
  | .registry => { ctx with registry := ctx.registry.filter (· ≠ id) }
  | .free key => ctx.modifyPool key (·.dropFree id)
  | .busy key => ctx.modifyPool key (·.dropBusy id)

end Context

end ConnPool
