/-
  ConnPool.Proofs.Worker.Ending

  The life of one connection as the outside sees it: what a handshake step
  that keeps the connection does, how its record changes when it is lent and
  taken back, and the ways in which it ends.

  An `Ending` says why a connection ends, and determines what happens then:

      heralds       what leads to the end
      unwatching    the event loop forgets the socket, if it was watched
      calls         the callbacks are told
      teardown      the session ends

  No other callback of the connection is called on the way.
-/

import ConnPool.Worker.Operation

namespace ConnPool

variable {ρ κ : Type}

/-! ## Records -/

namespace Connection

/-- A connection that has just been put into the arena. -/
def IsNew (conn : Connection ρ κ) : Prop :=
  conn = { session := conn.session, socket := conn.socket, request := conn.request,
           onConnect := conn.onConnect, membership := conn.membership }

/-- The connection after a handshake step that reported `poll` and did not
    end it. -/
def stepped (conn : Connection ρ κ) (poll : PollReport) : Connection ρ κ :=
  { conn with
    lastPoll := some poll
    state := if poll = .ok then .connected else .connecting
    registered := true
    onConnect := if poll = .ok then none else conn.onConnect }

/-- The connection lent by the pool under `key`. -/
def lentBy (conn : Connection ρ κ) (key : PoolKey) (request : Option ρ) (onConnect : Option κ) :
    Connection ρ κ :=
  { conn with
    membership := .busy key
    request
    onConnect := if conn.state = .connected then none else onConnect }

/-- The connection taken back by the pool under `key` that lent it. -/
def returnedTo (conn : Connection ρ κ) (key : PoolKey) : Connection ρ κ :=
  { conn.withoutCaller with membership := .free key }

/-- The direct connection taken over by the pool under `key`. -/
def adoptedBy (conn : Connection ρ κ) (key : PoolKey) : Connection ρ κ :=
  { conn.returnedTo key with overflowOf := none }

/-- The connection with a disconnect recorded. -/
def awaiting (conn : Connection ρ κ) (onDisconnect : Option κ) : Connection ρ κ :=
  { conn with onDisconnect, disconnectPending := true }

/-! ## Events -/

/-- The call of the connect callback, if there is one. -/
def connectCall (conn : Connection ρ κ) (id : ConnId) (status : Status) : List (Event ρ κ) :=
  conn.onConnect.toList.map (.connectCalled · id status conn.request)

/-- The call of the disconnect callback, if there is one. -/
def disconnectCall (conn : Connection ρ κ) (id : ConnId) (status : Status) : List (Event ρ κ) :=
  conn.onDisconnect.toList.map (.disconnectCalled · id status conn.request)

/-- The event loop forgets the socket, if it watches it. -/
def unwatching (conn : Connection ρ κ) : List (Event ρ κ) :=
  if conn.registered then [.deregistered conn.socket] else []

/-- What a failed handshake tells the callbacks. -/
def failureCalls (conn : Connection ρ κ) (id : ConnId) (error : PoolError) : List (Event ρ κ) :=
  conn.connectCall id (.error error) ++
    if conn.disconnectPending then conn.disconnectCall id (.error error) else []

/-- What a release tells the log and the disconnect callback. -/
def releaseCalls (conn : Connection ρ κ) (id : ConnId) (status : Status) : List (Event ρ κ) :=
  .logged (.released id conn.socket status.isOk) :: conn.disconnectCall id status

/-- One poll of a handshake. -/
def pollEvents (conn : Connection ρ κ) (id : ConnId) (poll : PollReport) : List (Event ρ κ) :=
  [.polled conn.session poll, .logged (.handshakeStep id poll conn.disconnectPending)]

/-- A handshake step that keeps the connection. -/
def stepEvents (conn : Connection ρ κ) (id : ConnId) (poll : PollReport) : List (Event ρ κ) :=
  conn.pollEvents id poll ++ [.registered conn.socket poll.interest id none] ++
    if poll = .ok then
      .logged (.handshakeComplete id conn.socket) :: conn.connectCall id (.ok ())
    else []

end Connection

/-! ## Endings -/

/-- Why a connection ends. -/
inductive Ending (κ : Type) where
  /-- Its session was bad from the start. -/
  | bad (kind reason : String)
  | pollFailed (reason : String)
  /-- After a step that reported `poll`, the event loop refused the socket. -/
  | refused (poll : PollReport) (reason : String)
  /-- An event other than reading or writing came during the handshake. -/
  | abandoned (event : Readiness) (reason : String)
  /-- The handshake succeeded while a disconnect waited for it. -/
  | deferred
  | disconnected (onDisconnect : Option κ)
  | lost (event : Readiness) (reason : String)
  /-- The pool under `key` had too much idle. -/
  | shrunk (key : PoolKey) (load : PoolLoad)
  /-- A direct connection came back to a pool without room for it. -/
  | dismissed (key : PoolKey)
  | shutDown

namespace Ending

/-- What the ending is a failure with, if it is the failure of a handshake. -/
def failure? : Ending κ → Option PoolError
  | bad _ reason | pollFailed reason | abandoned _ reason => some (.handshake reason)
  | refused _ reason => some (.registration reason)
  | deferred | disconnected _ | lost .. | shrunk .. | dismissed _ | shutDown => none

/-- What leads to the end of a connection. -/
def heralds (id : ConnId) (conn : Connection ρ κ) : Ending κ → List (Event ρ κ)
  | bad kind reason => [.logged (.connectError kind reason)]
  | pollFailed reason => conn.pollEvents id .failed ++ [.logged (.handshakeFailed id reason)]
  | refused poll reason =>
    conn.pollEvents id poll ++
      [.registered conn.socket poll.interest id (some reason),
        .logged (.registrationRefused id conn.socket reason)]
  | abandoned event reason => [.logged (.handshakeAborted id event reason)]
  | deferred => conn.pollEvents id .ok ++ [.logged (.deferredRelease id)]
  | lost event reason => [.logged (.connectionLost id event reason)]
  | shrunk key load => [.logged (.shrinking id key load)]
  | dismissed key => [.logged (.stillFull id key)]
  | disconnected _ | shutDown => []

/-- What the log and the callbacks of a connection are told at its end. -/
def calls (id : ConnId) (conn : Connection ρ κ) : Ending κ → List (Event ρ κ)
  | bad _ reason | pollFailed reason | abandoned _ reason =>
    conn.failureCalls id (.handshake reason)
  | refused _ reason => conn.failureCalls id (.registration reason)
  | deferred | shrunk .. => conn.releaseCalls id (.ok ())
  | disconnected onDisconnect => { conn with onDisconnect }.releaseCalls id (.ok ())
  | lost _ reason => conn.releaseCalls id (.error (.connectionLost reason))
  | dismissed _ => conn.withoutCaller.releaseCalls id (.ok ())
  | shutDown => conn.connectCall id (.error .shutdown) ++ conn.disconnectCall id (.ok ())

/-- All that happens when a connection ends. -/
def events (id : ConnId) (conn : Connection ρ κ) (ending : Ending κ) : List (Event ρ κ) :=
  ending.heralds id conn ++ conn.unwatching ++ ending.calls id conn ++ [.tornDown conn.session]

/-- Which connections can end in this way. -/
def Fits (conn : Connection ρ κ) : Ending κ → Prop
  | bad .. => False
  | pollFailed _ => conn.state = .connecting
  | refused poll _ =>
    conn.state = .connecting ∧ poll ≠ .failed ∧ ¬(poll = .ok ∧ conn.disconnectPending = true)
  | abandoned event _ => conn.state = .connecting ∧ event ≠ .readable ∧ event ≠ .writable
  | deferred => conn.state = .connecting ∧ conn.disconnectPending = true
  | disconnected _ => conn.state = .connected ∨ conn.membership.isFree = true
  | lost event _ => conn.state = .connected ∧ (event = .error ∨ event = .closed)
  | shrunk key _ => conn.membership = .free key
  | dismissed key => conn.membership = .registry ∧ conn.overflowOf = some key
  | shutDown => True

/-- Whether an opening can end in this way. -/
def EndsOpening : Ending κ → Prop
  | bad .. | pollFailed _ => True
  | refused poll _ => poll ≠ .failed
  | abandoned .. | deferred | disconnected _ | lost .. | shrunk .. | dismissed _ | shutDown => False

end Ending
end ConnPool
