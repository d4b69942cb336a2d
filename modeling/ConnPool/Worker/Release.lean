/-
  ConnPool.Worker.Release

  How connections end.  Every end starts with `withdraw`, which makes the id
  stale, stops watching the socket and strikes the id from its collection;
  then the callbacks are told, and last the session is torn down.

  `release` tells the disconnect callback, `abort` the connect callback and a
  pending disconnect, and `shutdown` ends everything.
-/

import ConnPool.Worker.Basic

namespace ConnPool
namespace Worker

variable {ω ρ κ : Type}

/-! ## Callbacks -/

/-- Tells a withdrawn connection's connect callback, if it has one. -/
def tellConnect (w : Worker ω ρ κ) (id : ConnId) (conn : Connection ρ κ) (status : Status) :
    Worker ω ρ κ :=
  match conn.onConnect with
  | some callback => w.emit (.connectCalled callback id status conn.request)
  | none => w

/-- Tells a withdrawn connection's disconnect callback, if it has one. -/
def tellDisconnect (w : Worker ω ρ κ) (id : ConnId) (conn : Connection ρ κ) (status : Status) :
    Worker ω ρ κ :=
  match conn.onDisconnect with
  | some callback => w.emit (.disconnectCalled callback id status conn.request)
  | none => w

/-- Tells a live connection's connect callback that it is connected, and
    forgets the callback. -/
def confirmConnect (w : Worker ω ρ κ) (id : ConnId) : Worker ω ρ κ :=
  match w.ctx.conn? id with
  | some conn =>
    (w.modifyConn id ({ · with onConnect := none })).tellConnect id conn (.ok ())
  | none => w

/-! ## Ends -/

variable [Environment ω]

/-- Takes a connection out of the context, the event loop and its
    collection.  Its session is left to the caller. -/
def withdraw (w : Worker ω ρ κ) (id : ConnId) : Option (Connection ρ κ) × Worker ω ρ κ :=
  match w.ctx.conns.remove id with
  | (none, _) => (none, w)
  | (some conn, conns) =>
    let w := w.withCtx ({ · with conns })
    let w := if conn.registered then w.deregisterSocket conn.socket else w
    (some conn, w.withCtx (·.strike id conn.membership))

/-- Ends a connection whose handshake failed.  The connect callback is told
    the failure, and a disconnect that waited for the handshake is answered
    with the same failure after it. -/
def abort (w : Worker ω ρ κ) (id : ConnId) (error : PoolError) : Worker ω ρ κ :=
  match w.withdraw id with
  | (none, w) => w
  | (some conn, w) =>
    let w := w.tellConnect id conn (.error error)
    let w := if conn.disconnectPending then w.tellDisconnect id conn (.error error) else w
    w.tearDown conn.session

/-- Ends a connection and tells its disconnect callback `status`.  Answers
    whether the connection was live. -/
def release (w : Worker ω ρ κ) (id : ConnId) (status : Status) : Bool × Worker ω ρ κ :=
  match w.withdraw id with
  | (none, w) => (false, w)
  | (some conn, w) =>
    let w := w.log (.released id conn.socket status.isOk)
    let w := w.tellDisconnect id conn status
    (true, w.tearDown conn.session)

/-- Ends one connection because the whole context ends. -/
def shutdownConn (w : Worker ω ρ κ) (id : ConnId) : Worker ω ρ κ :=
  match w.withdraw id with
  | (none, w) => w
  | (some conn, w) =>
    let w := w.tellConnect id conn (.error .shutdown)
    let w := w.tellDisconnect id conn (.ok ())
    w.tearDown conn.session

/-- Ends every connection, in slot order, and drops all pools.  Handshakes
    still running report the shutdown.  Answers how many connections ended. -/
def shutdown (w : Worker ω ρ κ) : Nat × Worker ω ρ κ :=
  let ids := w.ctx.ids
  let w := ids.foldl shutdownConn w
  let w := w.withCtx ({ · with pools := .empty })
  (ids.length, w.log (.shutDown ids.length))

end Worker
end ConnPool
