/-
  ConnPool.PoolError

  What can go wrong while connecting, lending and releasing, and the text by
  which each is reported.  One failure may be delivered twice, to a callback
  and to the caller, so it is plain data.
-/

import ConnPool.Conn.Id

namespace ConnPool

/-- Names a logical pool. -/
abbrev PoolKey := String

/-- Why an operation on connections or pools failed. -/
inductive PoolError where
  /-- No session could be created at all. -/
  | allocation (reason : String)
  /-- The handshake ended without a connection. -/
  | handshake (reason : String)
  /-- The socket could not be made non-blocking. -/
  | socketMode (reason : String)
  /-- The event loop refused to watch the socket. -/
  | registration (reason : String)
  /-- An established connection broke. -/
  | connectionLost (reason : String)
  | configurationNotFound (key : PoolKey)
  /-- No connection is free and none could be opened. -/
  | poolExhausted (key : PoolKey)
  | duplicatePool (key : PoolKey)
  | invalidConfig (reason : String)
  /-- The id is stale or was never issued. -/
  | unknownConnection (id : ConnId)
  /-- The connection is live but not lent. -/
  | notBorrowed (id : ConnId)
  | shutdown
  deriving DecidableEq

/-- The outcome told to callbacks and callers: fine, or the reason why not. -/
abbrev Status := Except PoolError Unit

namespace PoolError

/-- The text of an error. -/
def message : PoolError → String
  | allocation reason => s!"could not allocate a database session: {reason}"
  | handshake reason => s!"handshake failed: {reason}"
  | socketMode reason => s!"could not switch socket to non-blocking mode: {reason}"
  | registration reason => s!"event loop refused socket registration: {reason}"
  | connectionLost reason => s!"connection lost: {reason}"
  | configurationNotFound key => s!"no pool configuration registered for key `{key}`"
  | poolExhausted key => s!"pool `{key}` could not spawn any usable connection"
  | duplicatePool key => s!"pool `{key}` is already registered"
  | invalidConfig reason => s!"invalid pool configuration: {reason}"
  | unknownConnection id => s!"unknown connection: {id.text}"
  | notBorrowed id => s!"connection {id.text} is not borrowed from a pool"
  | shutdown => "execution context is shutting down"

end PoolError

end ConnPool
