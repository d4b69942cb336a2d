/-
  ConnPool.Worker.Basic

  An execution context at work: the context itself, the environment around it,
  and the trace of what was done to the outside.

  The operations of this family are functions on workers.  An operation that
  can fail answers its outcome together with the worker that it leaves behind,
  since a failure may have had effects.
-/

import ConnPool.Context.Basic
import ConnPool.Environment

namespace ConnPool

/-- An execution context, its environment, and what has happened so far. -/
structure Worker (ω ρ κ : Type) where
  ctx : Context ρ κ
  env : ω
  /-- How many sessions have been started; the number of the next one. -/
  started : Nat := 0
  /-- What was done to the outside, oldest first. -/
  trace : List (Event ρ κ) := []
  /-- What operations did not find where they count on it, oldest first, as the
      errors that say so.  Nothing depends on this. -/
  missed : List PoolError := []

namespace Worker

variable {ω ρ κ : Type}

/-! ## Bookkeeping -/

/-- Adds an event to the trace. -/
def emit (w : Worker ω ρ κ) (event : Event ρ κ) : Worker ω ρ κ :=
  { w with trace := w.trace ++ [event] }

/-- Writes a log record. -/
def log (w : Worker ω ρ κ) (record : LogRecord) : Worker ω ρ κ :=
  w.emit (.logged record)

/-- Writes log records in order. -/
def logAll (w : Worker ω ρ κ) (records : List LogRecord) : Worker ω ρ κ :=
  records.foldl log w

/-- Notes a lookup in vain of something that should have been there. -/
def miss (w : Worker ω ρ κ) (error : PoolError) : Worker ω ρ κ :=
  { w with missed := w.missed ++ [error] }

/-- Changes the context. -/
def withCtx (w : Worker ω ρ κ) (f : Context ρ κ → Context ρ κ) : Worker ω ρ κ :=
  { w with ctx := f w.ctx }

/-- Changes the connection under `id`; a stale id changes nothing. -/
def modifyConn (w : Worker ω ρ κ) (id : ConnId) (f : Connection ρ κ → Connection ρ κ) :
    Worker ω ρ κ :=
  w.withCtx (·.modifyConn id f)

/-- Changes the pool under `key`, if there is one. -/
def modifyPool (w : Worker ω ρ κ) (key : PoolKey) (f : Pool → Pool) : Worker ω ρ κ :=
  w.withCtx (·.modifyPool key f)

/-- Notes it if the pool that a membership names does not exist. -/
def expectPool (w : Worker ω ρ κ) (membership : Membership) : Worker ω ρ κ :=
  match membership.pool? with
  | none => w
  | some key =>
    match w.ctx.pools.get? key with
    | none => w.miss (.configurationNotFound key)
    | some _ => w

/-- Lists a connection where its membership says. -/
def link (w : Worker ω ρ κ) (id : ConnId) : Worker ω ρ κ :=
  match w.ctx.conn? id with
  | none => w.miss (.unknownConnection id)
  | some conn => (w.expectPool conn.membership).withCtx (·.enlist id conn.membership)

/-- Gives a connection its id. -/
def addConn (w : Worker ω ρ κ) (conn : Connection ρ κ) : ConnId × Worker ω ρ κ :=
  let (id, conns) := w.ctx.conns.insert conn
  (id, w.withCtx ({ · with conns }))

/-! ## Questions to the environment -/

variable [Environment ω]

/-- Puts a question to the environment. -/
def ask {α : Type} (w : Worker ω ρ κ) (question : StateM ω α) : α × Worker ω ρ κ :=
  let (answer, env) := question.run w.env
  (answer, { w with env })

/-- Starts a session; answers its number, or nothing if it was refused. -/
def startSession (w : Worker ω ρ κ) (target : Target) : Option SessionNo × Worker ω ρ κ :=
  match w.ask (Environment.start target w.started) with
  | (.started, w) =>
    (some w.started, { w with started := w.started + 1 }.emit (.started w.started target))
  | (.refused log, w) => (none, (w.emit (.startRefused target)).logAll log)

/-- How a session fares. -/
def sessionHealth (w : Worker ω ρ κ) (session : SessionNo) : SessionHealth × Worker ω ρ κ :=
  w.ask (Environment.status session)

/-- Makes a session's socket non-blocking; answers why not, if refused. -/
def setNonblocking (w : Worker ω ρ κ) (session : SessionNo) : Option String × Worker ω ρ κ :=
  let (refusal, w) := w.ask (Environment.setNonblocking session)
  (refusal, w.emit (.nonblocking session refusal))

/-- A session's socket. -/
def sessionSocket (w : Worker ω ρ κ) (session : SessionNo) : Int × Worker ω ρ κ :=
  w.ask (Environment.socket session)

/-- Advances a session's handshake by one step. -/
def pollSession (w : Worker ω ρ κ) (session : SessionNo) : PollReport × Worker ω ρ κ :=
  let (poll, w) := w.ask (Environment.poll session)
  (poll, w.emit (.polled session poll))

/-- A session's latest error text. -/
def errorText (w : Worker ω ρ κ) (session : SessionNo) : String × Worker ω ρ κ :=
  w.ask (Environment.errorText session)

/-- A session's latest error text, or `fallback` where it is empty. -/
def errorTextOr (w : Worker ω ρ κ) (session : SessionNo) (fallback : String) :
    String × Worker ω ρ κ :=
  let (text, w) := w.errorText session
  (if text = "" then fallback else text, w)

/-- Ends a session. -/
def tearDown (w : Worker ω ρ κ) (session : SessionNo) : Worker ω ρ κ :=
  let ((), w) := w.ask (Environment.tearDown session)
  w.emit (.tornDown session)

/-- Has a socket watched; answers why not, if refused. -/
def registerSocket (w : Worker ω ρ κ) (socket : Int) (interest : Interest) (id : ConnId) :
    Option String × Worker ω ρ κ :=
  let (refusal, w) := w.ask (Environment.register socket interest id)
  (refusal, w.emit (.registered socket interest id refusal))

/-- Has a socket watched no longer. -/
def deregisterSocket (w : Worker ω ρ κ) (socket : Int) : Worker ω ρ κ :=
  let ((), w) := w.ask (Environment.deregister socket)
  w.emit (.deregistered socket)

end Worker

end ConnPool
