/-
  ConnPool.Worker.Operation

  The operations that a host may perform on an execution context, as data, and
  runs of them.  A run from a fresh context is how every reachable state of a
  context comes about.
-/

import ConnPool.Worker.Lending

namespace ConnPool

/-- A call made directly on the session of a connection. -/
inductive SessionCall where
  | status
  | nonblocking
  | socket
  | poll
  | errorText
  deriving DecidableEq

/-- What a call on a session answers. -/
inductive SessionReply where
  | status (status : SessionHealth)
  | nonblocking (refusal : Option String)
  | socket (socket : Int)
  | poll (poll : PollReport)
  | errorText (text : String)
  deriving DecidableEq

/-- One operation on an execution context. -/
inductive Operation (ρ κ : Type) where
  | connect (request : Option ρ) (onConnect : Option κ) (keys values : List String)
      (expandDbname : Bool)
  | connectUri (request : Option ρ) (onConnect : Option κ) (uri : String)
  | acquire (key : PoolKey) (request : Option ρ) (onConnect : Option κ)
  | spawn (key : PoolKey) (count : Nat)
  | reclaim (id : ConnId)
  | disconnect (id : ConnId) (onDisconnect : Option κ)
  | advance (id : ConnId) (event : Readiness)
  | session (id : ConnId) (call : SessionCall)
  | shutdown

/-- What an operation answers. -/
inductive Answer where
  | opened (outcome : Except PoolError ConnId)
  | status (status : Status)
  | state (state : Option ConnState)
  | session (reply : Option SessionReply)
  | released (count : Nat)

namespace Worker

variable {ω ρ κ : Type}

/-- A worker that has done nothing yet. -/
def fresh (configs : Registry) (env : ω) : Worker ω ρ κ where
  ctx := { configs }
  env := env

variable [Environment ω]

/-- Calls directly on a session. -/
def callSession (w : Worker ω ρ κ) (session : SessionNo) :
    SessionCall → SessionReply × Worker ω ρ κ
  | .status => let (status, w) := w.sessionHealth session; (.status status, w)
  | .nonblocking => let (refusal, w) := w.setNonblocking session; (.nonblocking refusal, w)
  | .socket => let (socket, w) := w.sessionSocket session; (.socket socket, w)
  | .poll => let (poll, w) := w.pollSession session; (.poll poll, w)
  | .errorText => let (text, w) := w.errorText session; (.errorText text, w)

/-- Performs one operation. -/
def perform (w : Worker ω ρ κ) : Operation ρ κ → Answer × Worker ω ρ κ
  | .connect request onConnect keys values expandDbname =>
    let (outcome, w) := w.connect request onConnect keys values expandDbname
    (.opened outcome, w)
  | .connectUri request onConnect uri =>
    let (outcome, w) := w.connectUri request onConnect uri
    (.opened outcome, w)
  | .acquire key request onConnect =>
    let (outcome, w) := w.acquire key request onConnect
    (.opened outcome, w)
  | .spawn key count =>
    let (status, w) := w.spawn key count
    (.status status, w)
  | .reclaim id =>
    let (status, w) := w.reclaim id
    (.status status, w)
  | .disconnect id onDisconnect =>
    let (status, w) := w.disconnect id onDisconnect
    (.status status, w)
  | .advance id event =>
    let (state, w) := w.advance id event
    (.state state, w)
  | .session id call =>
    match w.ctx.conn? id with
    | none => (.session none, w)
    | some conn =>
      let (reply, w) := w.callSession conn.session call
      (.session (some reply), w)
  | .shutdown =>
    let (count, w) := w.shutdown
    (.released count, w)

/-- Performs operations in order. -/
def performAll (w : Worker ω ρ κ) : List (Operation ρ κ) → List Answer × Worker ω ρ κ
  | [] => ([], w)
  | operation :: rest =>
    let (answer, w) := w.perform operation
    let (answers, w) := w.performAll rest
    (answer :: answers, w)

end Worker

end ConnPool
