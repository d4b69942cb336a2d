/-
  ConnPool.Client.Session

  Sessions over the database client: what an execution context wants to know
  of a session, answered by a client connection.  A start that the client
  refuses gives no session and a log record that says why.

  A build without a client refuses every start in the same way.
-/

import ConnPool.Client.Connection
import ConnPool.Target
import ConnPool.Log

namespace ConnPool
namespace Client

/-- The record of a start that the client refused. -/
def refusal (target : Target) (error : ClientError) : LogRecord :=
  .clientUnavailable target.kind error.message

/-- What a build without a client answers to every start. -/
def startWithoutClient (_target : Target) : Except ClientError Handle :=
  .error .notAvailable

variable {σ : Type} [Api σ]

/-- Starts a connection towards a target. -/
def startTarget : Target → StateM σ (Except ClientError Handle)
  | .params pairs expandDbname => startPairs pairs expandDbname
  | .uri text => start text

/-- Starts a session towards a target, or logs why there is none. -/
def startSession (target : Target) : StateM σ (Except LogRecord Handle) := do
  match ← startTarget target with
  | .ok handle => pure (.ok handle)
  | .error e => pure (.error (refusal target e))

namespace Session

/-- How a session fares: only a connection that is known to be bad is bad. -/
def status (handle : Handle) : StateM σ SessionHealth :=
  (fun | .bad => .bad | .ok | .inProgress => .ok) <$> Client.status handle

/-- Makes the socket non-blocking; answers why not, if refused. -/
def setNonblocking (handle : Handle) : StateM σ (Option String) := do
  match ← Client.setNonblocking handle true with
  | .ok () => pure none
  | .error e => pure (some e.message)

/-- A session in a word. -/
def describe (handle : Handle) : StateM σ String :=
  (fun text => s!"LibpqSession \x7b conn: {text} \x7d") <$> Client.describe handle

end Session

end Client
end ConnPool
