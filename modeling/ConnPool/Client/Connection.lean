/-
  ConnPool.Client.Connection

  Connections of the database client: texts go in as C takes them, codes come
  back as what they mean, and error texts come back as text.

  A text with a zero byte cannot be handed to C and is refused before any
  function is called.  For parameters all keys are looked at before the first
  value.
-/

import ConnPool.Client.Api
import ConnPool.Conn.Handshake
import ConnPool.Text.Utf8
import ConnPool.Text.Blank

namespace ConnPool
namespace Client

/-- Why the client refused. -/
inductive ClientError where
  | outOfMemory
  | invalidArgument (reason : String)
  | nonBlocking (reason : String)
  /-- There is no client in this build. -/
  | notAvailable
  deriving DecidableEq

/-- The text of a refusal. -/
def ClientError.message : ClientError → String
  | outOfMemory => "libpq could not allocate a connection object"
  | invalidArgument reason => s!"invalid argument: {reason}"
  | nonBlocking reason => s!"could not set non-blocking mode: {reason}"
  | notAvailable => "not available on this platform"

/-- How a connection fares. -/
inductive ConnStatus where
  | ok
  | bad
  /-- The handshake is under way. -/
  | inProgress
  deriving DecidableEq

/-- What a status code means. -/
def ConnStatus.ofCode (code : Int) : ConnStatus :=
  if code = 0 then ok else if code = 1 then bad else inProgress

/-- What the code of a handshake step means.  Code 4 is obsolete and is read as
    waiting for the socket to be writable. -/
def pollOfCode (code : Int) : PollReport :=
  if code = 3 then .ok
  else if code = 1 then .reading
  else if code = 2 ∨ code = 4 then .writing
  else .failed

/-! ## Starting -/

/-- A parameter text as C takes it. -/
def parameter (text : String) : Except ClientError CText :=
  match cText? text with
  | some memory => .ok memory
  | none => .error (.invalidArgument s!"parameter `{text}` contains a NUL byte")

/-- Texts as C takes them, up to the first that cannot be. -/
def parameters : List String → Except ClientError (List CText)
  | [] => .ok []
  | text :: rest =>
    match parameter text with
    | .error e => .error e
    | .ok memory =>
      match parameters rest with
      | .error e => .error e
      | .ok memories => .ok (memory :: memories)

variable {σ : Type} [Api σ]

/-- A handle that is there, or no memory. -/
def checkHandle : Option Handle → Except ClientError Handle
  | some handle => .ok handle
  | none => .error .outOfMemory

/-- Starts a connection from a connection string. -/
def start (conninfo : String) : StateM σ (Except ClientError Handle) :=
  match cText? conninfo with
  | none => pure (.error (.invalidArgument "conninfo contains a NUL byte"))
  | some memory => checkHandle <$> Api.connectStart memory

/-- Starts a connection from keyword/value pairs. -/
def startPairs (pairs : List (String × String)) (expandDbname : Bool) :
    StateM σ (Except ClientError Handle) :=
  match parameters (pairs.map Prod.fst) with
  | .error e => pure (.error e)
  | .ok keys =>
    match parameters (pairs.map Prod.snd) with
    | .error e => pure (.error e)
    | .ok values =>
      checkHandle <$> Api.connectStartParams (terminated keys) (terminated values)
        (if expandDbname then 1 else 0)

/-! ## Using a connection -/

/-- How a connection fares. -/
def status (handle : Handle) : StateM σ ConnStatus :=
  ConnStatus.ofCode <$> Api.status handle

/-- Advances the handshake by one step. -/
def poll (handle : Handle) : StateM σ PollReport :=
  pollOfCode <$> Api.connectPoll handle

/-- The socket of a connection. -/
def socket (handle : Handle) : StateM σ Int :=
  Api.socket handle

/-- The text in memory, as far as it can be read, without the white space at
    its end. -/
def textOf (memory : CText) : String :=
  String.ofList (Text.trimEnd (Text.readLossy (readText memory)))

/-- The latest error text, empty if there is none. -/
def errorMessage (handle : Handle) : StateM σ String :=
  (fun memory => (memory.map textOf).getD "") <$> Api.errorMessage handle

/-- Switches non-blocking mode on or off. -/
def setNonblocking (handle : Handle) (on : Bool) : StateM σ (Except ClientError Unit) := do
  let code ← Api.setNonblocking handle (if on then 1 else 0)
  if code = -1 then
    let reason ← errorMessage handle
    pure (.error (.nonBlocking reason))
  else
    pure (.ok ())

/-- Ends a connection. -/
def finish (handle : Handle) : StateM σ Unit :=
  Api.finish handle

/-- A connection in a word, told apart by its socket. -/
def describe (handle : Handle) : StateM σ String :=
  (fun socket => s!"PgConnection \x7b socket: {socket}, .. \x7d") <$> Api.socket handle

end Client
end ConnPool
