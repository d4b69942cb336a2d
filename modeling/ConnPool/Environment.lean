/-
  ConnPool.Environment

  What an execution context deals with but does not own: the sessions of the
  database client and the event loop that watches their sockets.

  An environment is a state type `ω` with one answer to each question that a
  context may put; every answer may change the state.  Nothing is assumed
  about the answers.  Sessions are known by number, in the order of their
  starts.

  `Event` is one thing that a context does to the outside, and a run leaves a
  trace of them.
-/

import ConnPool.Log
import ConnPool.Target
import ConnPool.Conn.Record

namespace ConnPool

/-- The answer to a request for a session. -/
inductive StartAnswer where
  | started
  /-- No session; the client may have logged why. -/
  | refused (log : List LogRecord)

/-- The sessions and the event loop around an execution context, as answers
    over a state. -/
class Environment (ω : Type) where
  /-- Starts a session towards `target`; if it starts it is known by the number
      `session` from then on. -/
  start (target : Target) (session : SessionNo) : StateM ω StartAnswer
  /-- How the session fares. -/
  status (session : SessionNo) : StateM ω SessionHealth
  /-- Makes the session's socket non-blocking, or tells why it cannot be. -/
  setNonblocking (session : SessionNo) : StateM ω (Option String)
  /-- The session's socket. -/
  socket (session : SessionNo) : StateM ω Int
  /-- Advances the session's handshake by one step. -/
  poll (session : SessionNo) : StateM ω PollReport
  /-- The session's latest error text. -/
  errorText (session : SessionNo) : StateM ω String
  /-- Ends the session. -/
  tearDown (session : SessionNo) : StateM ω Unit
  /-- Watches a socket, or changes what it is watched for; notifications carry
      `id`.  Tells why the socket is refused, if it is. -/
  register (socket : Int) (interest : Interest) (id : ConnId) : StateM ω (Option String)
  /-- Watches a socket no longer. -/
  deregister (socket : Int) : StateM ω Unit

/-- One thing that an execution context did to the outside. -/
inductive Event (ρ κ : Type) where
  | startRefused (target : Target)
  | started (session : SessionNo) (target : Target)
  | nonblocking (session : SessionNo) (refusal : Option String)
  | polled (session : SessionNo) (poll : PollReport)
  | tornDown (session : SessionNo)
  | registered (socket : Int) (interest : Interest) (id : ConnId) (refusal : Option String)
  | deregistered (socket : Int)
  | connectCalled (callback : κ) (id : ConnId) (status : Status) (request : Option ρ)
  | disconnectCalled (callback : κ) (id : ConnId) (status : Status) (request : Option ρ)
  | logged (record : LogRecord)

end ConnPool
