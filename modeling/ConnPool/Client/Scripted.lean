/-
  ConnPool.Client.Scripted

  A client library that follows a script: each function returns the next value
  laid down for it, and zero or null when they are used up.  The calls that
  change something are recorded, with their texts as C reads them.
-/

import ConnPool.Client.Session

namespace ConnPool
namespace Client

/-- A call that the library received. -/
inductive Call where
  | connectStart (conninfo : List UInt8)
  | connectStartParams (keywords values : List (List UInt8)) (expandDbname : Int)
  | setNonblocking (on : Int)
  | finish

/-- What the library returns from now on, and the calls so far. -/
structure Script where
  /-- Whether starts return null. -/
  null : Bool := false
  statuses : List Int := []
  polls : List Int := []
  nonblocking : List Int := []
  sockets : List Int := []
  errors : List (Option CText) := []
  calls : List Call := []

namespace Script

/-- Records a call. -/
def record (script : Script) (call : Call) : Script :=
  { script with calls := script.calls ++ [call] }

/-- What a start returns. -/
def handle? (script : Script) : Option Handle :=
  if script.null then none else some 0

end Script

instance : Api Script where
  connectStart conninfo := fun script =>
    (script.handle?, script.record (.connectStart (readText conninfo)))
  connectStartParams keywords values expandDbname := fun script =>
    (script.handle?,
      script.record (.connectStartParams (readTexts keywords) (readTexts values) expandDbname))
  connectPoll _ := fun script =>
    (script.polls.headD 0, { script with polls := script.polls.tail })
  status _ := fun script =>
    (script.statuses.headD 0, { script with statuses := script.statuses.tail })
  errorMessage _ := fun script =>
    (script.errors.head?.join, { script with errors := script.errors.tail })
  socket _ := fun script =>
    (script.sockets.headD 0, { script with sockets := script.sockets.tail })
  setNonblocking _ on := fun script =>
    (script.nonblocking.headD 0,
      { script with nonblocking := script.nonblocking.tail }.record (.setNonblocking on))
  finish _ := fun script => ((), script.record .finish)

end Client
end ConnPool
