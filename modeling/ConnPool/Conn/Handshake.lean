/-
  ConnPool.Conn.Handshake

  The vocabulary of a handshake: what one poll step reports, how a session
  fares right after its start, the state of the connection around it, what
  the event loop is asked to watch for, and what it reports back.

      closed --start--> connecting --poll ok--> connected --release--> closed
                          |    ^
                          |    +-- poll reading/writing: wait for readiness
                          +------- poll failed, error, timeout: closed
-/

namespace ConnPool

/-! ## Watching sockets -/

/-- What to watch a socket for, as a bit mask.  Errors and hang-ups are
    reported whatever the mask. -/
structure Interest where
  bits : UInt8
  deriving DecidableEq

namespace Interest

/-- Neither reading nor writing. -/
def none : Interest := ⟨0b00⟩

def readable : Interest := ⟨0b01⟩

def writable : Interest := ⟨0b10⟩

/-- Everything that either side watches for. -/
def union (a b : Interest) : Interest := ⟨a.bits ||| b.bits⟩

def isReadable (i : Interest) : Bool := i.bits &&& readable.bits != 0

def isWritable (i : Interest) : Bool := i.bits &&& writable.bits != 0

def isEmpty (i : Interest) : Bool := i.bits == 0

end Interest

/-- What the event loop reports about a socket. -/
inductive Readiness where
  | readable
  | writable
  | error
  /-- The peer hung up. -/
  | closed
  /-- The event loop gave up waiting. -/
  | timeout
  deriving DecidableEq

/-- The name of a readiness report in logs. -/
def Readiness.label : Readiness → String
  | readable => "Readable"
  | writable => "Writable"
  | error => "Error"
  | closed => "Closed"
  | timeout => "Timeout"

/-! ## Handshake steps -/

/-- What one handshake step reports. -/
inductive PollReport where
  | failed
  /-- The handshake is complete. -/
  | ok
  /-- Poll again once the socket is readable. -/
  | reading
  /-- Poll again once the socket is writable. -/
  | writing
  deriving DecidableEq

namespace PollReport

/-- What the socket is watched for until the next step. -/
def interest : PollReport → Interest
  | reading => .readable
  | writing => .writable
  | failed | ok => .none

/-- The name of a step's report in logs. -/
def label : PollReport → String
  | failed => "Failed"
  | ok => "Ok"
  | reading => "Reading"
  | writing => "Writing"

end PollReport

/-- How a session fares; `bad` right after the start means that the attempt is
    known to be doomed. -/
inductive SessionHealth where
  | ok
  | bad
  deriving DecidableEq

/-- The state of a connection. -/
inductive ConnState where
  | closed
  | connecting
  | connected
  deriving DecidableEq

namespace ConnState

/-- The state in running text. -/
def text : ConnState → String
  | closed => "closed"
  | connecting => "connecting"
  | connected => "connected"

/-- The name of the state. -/
def label : ConnState → String
  | closed => "Closed"
  | connecting => "Connecting"
  | connected => "Connected"

end ConnState

end ConnPool
