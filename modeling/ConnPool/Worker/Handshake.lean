/-
  ConnPool.Worker.Handshake

  How connections come to be.  `establish` starts a session and drives its
  handshake once; from then on readiness reports drive it, through `advance`.

      start refused          error, nothing to clean up
      session bad            the connect callback is told, then release
      not non-blocking       error, the session is torn down
      poll failed            the connect callback is told, then release
      poll ok                connected: watch for errors only, tell the callback
      poll reading/writing   connecting: watch for reading/writing

  A disconnect that arrives during the handshake is recorded, and the
  connection is released by the poll step that ends the handshake.
-/

import ConnPool.Worker.Release

namespace ConnPool
namespace Worker

variable {ω ρ κ : Type} [Environment ω]

/-! ## One step -/

/-- Has a connection's socket watched; a refusal fails the connection. -/
def watchConn (w : Worker ω ρ κ) (id : ConnId) (socket : Int) (interest : Interest) :
    Status × Worker ω ρ κ :=
  match w.registerSocket socket interest id with
  | (none, w) => (.ok (), w.modifyConn id ({ · with registered := true }))
  | (some reason, w) =>
    let w := w.log (.registrationRefused id socket reason)
    (.error (.registration reason), w.abort id (.registration reason))

/-- Polls a handshake once and does what the report asks for. -/
def stepHandshake (w : Worker ω ρ κ) (id : ConnId) : Status × Worker ω ρ κ :=
  match w.ctx.conn? id with
  | none => (.error (.unknownConnection id), w.miss (.unknownConnection id))
  | some conn =>
    let (poll, w) := w.pollSession conn.session
    let w := w.modifyConn id ({ · with lastPoll := some poll })
    let w := w.log (.handshakeStep id poll conn.disconnectPending)
    match poll with
    | .failed =>
      let (reason, w) := w.errorText conn.session
      let w := w.log (.handshakeFailed id reason)
      (.error (.handshake reason), w.abort id (.handshake reason))
    | .ok =>
      let w := w.modifyConn id ({ · with state := .connected })
      if conn.disconnectPending then
        let (_, w) := (w.log (.deferredRelease id)).release id (.ok ())
        (.ok (), w)
      else
        match w.watchConn id conn.socket .none with
        | (.error e, w) => (.error e, w)
        | (.ok (), w) => (.ok (), (w.log (.handshakeComplete id conn.socket)).confirmConnect id)
    | .reading | .writing =>
      let w := w.modifyConn id ({ · with state := .connecting })
      w.watchConn id conn.socket poll.interest

/-! ## Opening -/

/-- Drives the handshake of a connection that was just put in, and lists the
    connection if that goes well. -/
def finishOpening (w : Worker ω ρ κ) (id : ConnId) (socket : Int) :
    Except PoolError ConnId × Worker ω ρ κ :=
  match w.stepHandshake id with
  | (.error e, w) => (.error e, w)
  | (.ok (), w) =>
    let w := w.link id
    (.ok id, w.log (.opened id socket (w.ctx.state? id)))

/-- Starts a session towards `target` and drives its handshake once.  If that
    goes well, the new connection is listed where `membership` says. -/
def establish (w : Worker ω ρ κ) (target : Target) (request : Option ρ) (onConnect : Option κ)
    (membership : Membership) : Except PoolError ConnId × Worker ω ρ κ :=
  match w.startSession target with
  | (none, w) =>
    (.error (.allocation s!"no session for {target.kind} target"),
      w.log (.sessionRefused target.kind))
  | (some session, w) =>
    match w.sessionHealth session with
    | (.bad, w) =>
      let (reason, w) := w.errorText session
      let w := w.log (.connectError target.kind reason)
      let (id, w) := w.addConn { session, request, onConnect, membership }
      (.error (.handshake reason), w.abort id (.handshake reason))
    | (.ok, w) =>
      match w.setNonblocking session with
      | (some reason, w) =>
        let w := w.log (.socketModeRefused target.kind reason)
        (.error (.socketMode reason), w.tearDown session)
      | (none, w) =>
        let (socket, w) := w.sessionSocket session
        let (id, w) := w.addConn { session, socket, request, onConnect, membership }
        w.finishOpening id socket

/-- Opens a direct connection from keyword/value parameters. -/
def connect (w : Worker ω ρ κ) (request : Option ρ) (onConnect : Option κ)
    (keys values : List String) (expandDbname : Bool) :
    Except PoolError ConnId × Worker ω ρ κ :=
  match Target.ofLists keys values expandDbname with
  | .error e => (.error e, w)
  | .ok target => w.establish target request onConnect .registry

/-- Opens a direct connection from a connection string. -/
def connectUri (w : Worker ω ρ κ) (request : Option ρ) (onConnect : Option κ) (uri : String) :
    Except PoolError ConnId × Worker ω ρ κ :=
  w.establish (.uri uri) request onConnect .registry

/-! ## Closing -/

/-- Closes a connection.  While a handshake runs for a caller, the wish is only
    recorded; otherwise the connection is released at once. -/
def disconnect (w : Worker ω ρ κ) (id : ConnId) (onDisconnect : Option κ) :
    Status × Worker ω ρ κ :=
  match w.ctx.conn? id with
  | none => (.error (.unknownConnection id), w)
  | some conn =>
    let w := w.modifyConn id ({ · with onDisconnect })
    if conn.state ≠ .connected ∧ ¬conn.membership.isFree then
      let w := w.modifyConn id ({ · with disconnectPending := true })
      (.ok (), w.log (.disconnectDeferred id conn.state))
    else
      let (_, w) := w.release id (.ok ())
      (.ok (), w)

/-! ## Readiness -/

/-- Why a handshake is given up on an event that is neither reading nor
    writing. -/
def abortReason (w : Worker ω ρ κ) (session : SessionNo) : Readiness → String × Worker ω ρ κ
  | .timeout => ("handshake timed out", w)
  | .closed => ("server closed the connection during handshake", w)
  | _ => w.errorTextOr session "socket error during handshake"

/-- Takes in one readiness report.  Answers the state of the connection
    afterwards, or nothing if it is not live. -/
def advance (w : Worker ω ρ κ) (id : ConnId) (event : Readiness) :
    Option ConnState × Worker ω ρ κ :=
  match w.ctx.conn? id with
  | none => (none, w.log (.staleReadiness id event))
  | some conn =>
    let w := match conn.state, event with
      | .connecting, .readable | .connecting, .writable =>
        match w.stepHandshake id with
        | (.ok (), w) => w
        | (.error e, w) => w.log (.stepEndedConnection id e)
      | .connecting, event =>
        let (reason, w) := w.abortReason conn.session event
        (w.log (.handshakeAborted id event reason)).abort id (.handshake reason)
      | .connected, .error | .connected, .closed =>
        let (reason, w) := w.errorTextOr conn.session "socket closed"
        ((w.log (.connectionLost id event reason)).release id (.error (.connectionLost reason))).2
      | state, _ => w.log (.readinessIgnored id event state)
    (w.ctx.state? id, w)

end Worker
end ConnPool
