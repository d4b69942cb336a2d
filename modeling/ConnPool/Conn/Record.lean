/-
  ConnPool.Conn.Record

  One live connection: the session it owns, its handshake state, the caller
  bound to it, and the one collection that lists it.

  Requests `ρ` and callbacks `κ` belong to the caller; a connection only keeps
  them and hands them back.
-/

import ConnPool.PoolError
import ConnPool.Conn.Handshake

namespace ConnPool

/-- The number of a session: how many sessions were started before it. -/
abbrev SessionNo := Nat

/-- The one collection that lists a connection. -/
inductive Membership where
  /-- Not pooled. -/
  | registry
  /-- Idle in a pool. -/
  | free (key : PoolKey)
  /-- Lent by a pool. -/
  | busy (key : PoolKey)
  deriving DecidableEq

/-- The pool that owns the connection, if any. -/
def Membership.pool? : Membership → Option PoolKey
  | registry => none
  | free key | busy key => some key

/-- Whether the connection is idle in a pool. -/
def Membership.isFree : Membership → Bool
  | free _ => true
  | registry | busy _ => false

/-- A connection with the request and the callbacks of its caller. -/
structure Connection (ρ κ : Type) where
  session : SessionNo
  socket : Int := -1
  state : ConnState := .closed
  /-- What the latest handshake step reported. -/
  lastPoll : Option PollReport := none
  /-- The caller's request; absent while the connection is idle in a pool. -/
  request : Option ρ := none
  /-- Called once, when the handshake completes or fails. -/
  onConnect : Option κ := none
  /-- Called once, when the connection is released. -/
  onDisconnect : Option κ := none
  /-- Whether a disconnect waits for the handshake to end. -/
  disconnectPending : Bool := false
  membership : Membership
  /-- The pool that was full when this direct connection was lent in its
      stead. -/
  overflowOf : Option PoolKey := none
  /-- Whether the event loop has accepted to watch the socket. -/
  registered : Bool := false

namespace Connection

variable {ρ κ : Type}

/-- Forgets the caller, so that the connection can be idle. -/
def withoutCaller (conn : Connection ρ κ) : Connection ρ κ :=
  { conn with
    request := none
    onConnect := none
    onDisconnect := none
    disconnectPending := false }

end Connection

end ConnPool
