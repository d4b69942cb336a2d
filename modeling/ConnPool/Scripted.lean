/-
  ConnPool.Scripted

  An environment that follows scripts: every answer is laid down beforehand.

  Each start takes the next script from a queue, and the session then answers
  from it.  A script also lays down how the event loop answers the
  registrations of the session's socket.  A `Stage` without a client refuses
  every start, as a host does that was built without one.
-/

import ConnPool.Environment
import ConnPool.Client.Session

namespace ConnPool
namespace Scripted

/-- How one session goes. -/
structure Script where
  /-- No session is started at all. -/
  refuse : Bool := false
  bad : Bool := false
  /-- Why the socket cannot be made non-blocking, if it cannot. -/
  nonblocking : Option String := none
  /-- What the handshake steps report, each perhaps with a new error text;
      later steps report that the handshake is complete. -/
  polls : List (PollReport × Option String) := []
  errorText : String := ""
  /-- The socket, where it is not simply the next one. -/
  socket : Option Int := none
  /-- How registrations of the socket are answered, in turn; later ones are
      accepted. -/
  registrations : List (Option String) := []

/-- A session under way. -/
structure Session where
  socket : Int
  bad : Bool
  nonblocking : Option String
  polls : List (PollReport × Option String)
  errorText : String

/-- The scripts still to come, and the sessions and sockets so far. -/
structure Stage where
  /-- Whether there is a client that could start sessions. -/
  hasClient : Bool := true
  scripts : List Script := []
  refuseStarts : Bool := false
  nextSocket : Int := 10
  /-- The sessions started so far, by their numbers. -/
  sessions : List Session := []
  /-- The registration answers laid down for each socket, the newest first. -/
  queues : List (Int × List (Option String)) := []
  /-- Why every registration is refused, while it is. -/
  refuseRegistrations : Option String := none

namespace Stage

/-- The socket of a session. -/
def socketOf (stage : Stage) (session : SessionNo) : Int :=
  (stage.sessions[session]?.map Session.socket).getD (-1)

/-- Takes the next script; once they are used up, scripts are blank. -/
def nextScript (stage : Stage) : Script × Stage :=
  match stage.scripts with
  | [] => ({}, stage)
  | script :: scripts => (script, { stage with scripts })

/-- Starts a session, unless starts are refused or the script says no. -/
def start (stage : Stage) : StartAnswer × Stage :=
  if stage.refuseStarts then (.refused [], stage)
  else
    let (script, stage) := stage.nextScript
    if script.refuse then (.refused [], stage)
    else
      let socket := script.socket.getD stage.nextSocket
      (.started,
        { stage with
          nextSocket := stage.nextSocket + 1
          sessions := stage.sessions ++
            [{ socket, bad := script.bad, nonblocking := script.nonblocking,
               polls := script.polls, errorText := script.errorText }]
          queues := (socket, script.registrations) :: stage.queues })

/-- Takes the next laid-down step of a session. -/
def poll (stage : Stage) (number : SessionNo) : PollReport × Stage :=
  match stage.sessions[number]? with
  | none => (.failed, stage)
  | some session =>
    match session.polls with
    | [] => (.ok, stage)
    | (poll, text) :: polls =>
      let session := { session with polls, errorText := text.getD session.errorText }
      (poll, { stage with sessions := stage.sessions.set number session })

/-- Takes the next laid-down answer for a socket. -/
def nextAnswer (socket : Int) :
    List (Int × List (Option String)) → Option String × List (Int × List (Option String))
  | [] => (none, [])
  | (s, queue) :: rest =>
    if s = socket then (queue.head?.join, (s, queue.tail) :: rest)
    else
      let (answer, rest) := nextAnswer socket rest
      (answer, (s, queue) :: rest)

/-- Answers a registration: a standing refusal wins over the laid-down answer,
    which is used up all the same. -/
def register (stage : Stage) (socket : Int) : Option String × Stage :=
  let (answer, queues) := nextAnswer socket stage.queues
  (stage.refuseRegistrations <|> answer, { stage with queues })

end Stage

instance : Environment Stage where
  start target _ := fun stage =>
    if stage.hasClient then stage.start
    else (.refused [Client.refusal target .notAvailable], stage)
  status number := fun stage =>
    (if (stage.sessions[number]?.map Session.bad).getD true then .bad else .ok, stage)
  setNonblocking number := fun stage => (stage.sessions[number]?.bind Session.nonblocking, stage)
  socket number := fun stage => (stage.socketOf number, stage)
  poll number := fun stage => stage.poll number
  errorText number := fun stage =>
    ((stage.sessions[number]?.map Session.errorText).getD "", stage)
  tearDown _ := pure ()
  register socket _ _ := fun stage => stage.register socket
  deregister _ := pure ()

end Scripted
end ConnPool
