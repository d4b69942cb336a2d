/-
  ConnPool.Log

  The log.  Each kind of record is a constructor that holds what the record
  is about; `level`, `message` and `fields` say how it is written.

  Targets enter a record by their kind only, so no record can hold the
  contents of a target.
-/

import ConnPool.PoolError
import ConnPool.Pool.Figures
import ConnPool.Conn.Handshake

namespace ConnPool

/-- How urgent a log record is. -/
inductive LogLevel where
  | trace
  | debug
  | info
  | warn
  | error
  deriving DecidableEq

/-- The level as it is written. -/
def LogLevel.text : LogLevel → String
  | trace => "TRACE"
  | debug => "DEBUG"
  | info => "INFO"
  | warn => "WARN"
  | error => "ERROR"

/-- The value of one field of a log record. -/
inductive LogValue where
  | text (value : String)
  | int (value : Int)
  | nat (value : Nat)
  | flag (value : Bool)
  deriving DecidableEq

/-- One log record. -/
inductive LogRecord where
  -- configuration
  | poolRegistered (key : PoolKey) (kind : String) (minSize maxSize : Nat)
  -- opening
  | clientUnavailable (kind : String) (reason : String)
  | sessionRefused (kind : String)
  | connectError (kind : String) (reason : String)
  | socketModeRefused (kind : String) (reason : String)
  | opened (id : ConnId) (socket : Int) (state : Option ConnState)
  -- handshake
  | handshakeStep (id : ConnId) (poll : PollReport) (disconnectRequested : Bool)
  | handshakeFailed (id : ConnId) (reason : String)
  | handshakeComplete (id : ConnId) (socket : Int)
  | deferredRelease (id : ConnId)
  | registrationRefused (id : ConnId) (socket : Int) (reason : String)
  | disconnectDeferred (id : ConnId) (state : ConnState)
  -- readiness
  | staleReadiness (id : ConnId) (event : Readiness)
  | stepEndedConnection (id : ConnId) (error : PoolError)
  | handshakeAborted (id : ConnId) (event : Readiness) (reason : String)
  | connectionLost (id : ConnId) (event : Readiness) (reason : String)
  | readinessIgnored (id : ConnId) (event : Readiness) (state : ConnState)
  -- release
  | released (id : ConnId) (socket : Int) (ok : Bool)
  | shutDown (count : Nat)
  -- pools
  | poolCreated (key : PoolKey) (minSize maxSize : Nat)
  | spawnStopped (key : PoolKey) (error : PoolError) (opened requested : Nat)
  | spawned (key : PoolKey) (requested opened : Nat) (load : PoolLoad)
  | lent (id : ConnId) (key : PoolKey) (state : ConnState) (load : PoolLoad)
  | overflowing (key : PoolKey) (size maxSize : Nat)
  | reclaimed (id : ConnId) (key : PoolKey) (state : ConnState) (load : PoolLoad)
  | stillFull (id : ConnId) (key : PoolKey)
  | adopted (id : ConnId) (key : PoolKey) (size : Nat)
  | shrinking (id : ConnId) (key : PoolKey) (load : PoolLoad)
  | statistics (key : PoolKey) (figures : PoolFigures)
  deriving DecidableEq

namespace LogRecord

/-- How urgent a record is. -/
def level : LogRecord → LogLevel
  | handshakeStep .. | staleReadiness .. | readinessIgnored .. => .trace
  | shutDown .. | statistics .. => .info
  | clientUnavailable .. | sessionRefused .. | connectionLost .. | spawnStopped .. => .warn
  | connectError .. | socketModeRefused .. | handshakeFailed .. | registrationRefused ..
  | handshakeAborted .. => .error
  | _ => .debug

/-- What a record says. -/
def message : LogRecord → String
  | poolRegistered .. => "registered pool configuration"
  | clientUnavailable .. => "libpq could not start session"
  | sessionRefused .. => "could not allocate database session"
  | connectError .. => "connect error"
  | socketModeRefused .. => "could not set socket non-blocking"
  | opened .. => "opened connection"
  | handshakeStep .. => "handshake step"
  | handshakeFailed .. => "handshake failed"
  | handshakeComplete .. => "handshake complete"
  | deferredRelease .. => "handshake complete, releasing on deferred disconnect"
  | registrationRefused .. => "event loop registration failed"
  | disconnectDeferred .. => "disconnect deferred until handshake ends"
  | staleReadiness .. => "readiness for released connection ignored"
  | stepEndedConnection .. => "handshake step ended connection"
  | handshakeAborted .. => "handshake aborted"
  | connectionLost .. => "established connection lost"
  | readinessIgnored .. => "readiness not handled by lifecycle"
  | released .. => "released connection"
  | shutDown .. => "execution context shut down"
  | poolCreated .. => "created pool instance"
  | spawnStopped .. => "spawn stopped early"
  | spawned .. => "spawned pool connections"
  | lent .. => "lent pooled connection"
  | overflowing .. => "pool full, opening direct connection"
  | reclaimed .. => "reclaimed connection"
  | stillFull .. => "pool still full, closing direct connection"
  | adopted .. => "adopted direct connection into pool"
  | shrinking .. => "shrinking pool"
  | statistics .. => "pool statistics"

/-- An optional state as it is written in a field. -/
def stateField : Option ConnState → String
  | some state => s!"Some({state.label})"
  | none => "None"

/-- The two fields that tell a pool's load. -/
def loadFields (load : PoolLoad) : List (String × LogValue) :=
  [("size", .nat load.size), ("free", .nat load.free)]

/-- The named fields of a record, in the order in which they are written. -/
def fields : LogRecord → List (String × LogValue)
  | poolRegistered key kind minSize maxSize =>
    [("pool", .text key), ("target_kind", .text kind), ("min_size", .nat minSize),
      ("max_size", .nat maxSize)]
  | clientUnavailable kind reason => [("target_kind", .text kind), ("error", .text reason)]
  | sessionRefused kind => [("target_kind", .text kind)]
  | connectError kind reason => [("target_kind", .text kind), ("error", .text reason)]
  | socketModeRefused kind reason => [("target_kind", .text kind), ("error", .text reason)]
  | opened id socket state =>
    [("conn", .text id.text), ("socket", .int socket), ("state", .text (stateField state))]
  | handshakeStep id poll requested =>
    [("conn", .text id.text), ("poll", .text poll.label),
      ("disconnect_requested", .flag requested)]
  | handshakeFailed id reason => [("conn", .text id.text), ("error", .text reason)]
  | handshakeComplete id socket => [("conn", .text id.text), ("socket", .int socket)]
  | deferredRelease id => [("conn", .text id.text)]
  | registrationRefused id socket reason =>
    [("conn", .text id.text), ("socket", .int socket), ("error", .text reason)]
  | disconnectDeferred id state => [("conn", .text id.text), ("state", .text state.text)]
  | staleReadiness id event => [("conn", .text id.text), ("event", .text event.label)]
  | stepEndedConnection id error => [("conn", .text id.text), ("error", .text error.message)]
  | handshakeAborted id event reason =>
    [("conn", .text id.text), ("event", .text event.label), ("error", .text reason)]
  | connectionLost id event reason =>
    [("conn", .text id.text), ("event", .text event.label), ("error", .text reason)]
  | readinessIgnored id event state =>
    [("conn", .text id.text), ("event", .text event.label), ("state", .text state.text)]
  | released id socket ok =>
    [("conn", .text id.text), ("socket", .int socket), ("ok", .flag ok)]
  | shutDown count => [("released", .nat count)]
  | poolCreated key minSize maxSize =>
    [("pool", .text key), ("min_size", .nat minSize), ("max_size", .nat maxSize)]
  | spawnStopped key error done requested =>
    [("pool", .text key), ("error", .text error.message), ("opened", .nat done),
      ("requested", .nat requested)]
  | spawned key requested done load =>
    [("pool", .text key), ("requested", .nat requested), ("opened", .nat done)]
      ++ loadFields load
  | lent id key state load =>
    [("conn", .text id.text), ("pool", .text key), ("state", .text state.text)]
      ++ loadFields load
  | overflowing key size maxSize =>
    [("pool", .text key), ("size", .nat size), ("max_size", .nat maxSize)]
  | reclaimed id key state load =>
    [("conn", .text id.text), ("pool", .text key), ("state", .text state.text)]
      ++ loadFields load
  | stillFull id key => [("conn", .text id.text), ("pool", .text key)]
  | adopted id key size =>
    [("conn", .text id.text), ("pool", .text key), ("size", .nat size)]
  | shrinking id key load =>
    [("conn", .text id.text), ("pool", .text key)] ++ loadFields load
  | statistics key figures =>
    [("pool", .text key), ("size", .nat figures.size), ("free", .nat figures.free),
      ("busy", .nat figures.busy), ("min_size", .nat figures.minSize),
      ("max_size", .nat figures.maxSize), ("overflow_count", .nat figures.overflowCount)]

end LogRecord

end ConnPool
