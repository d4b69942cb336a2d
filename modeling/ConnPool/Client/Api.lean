/-
  ConnPool.Client.Api

  The C functions of the database client that a handshake needs: eight of
  them, over whatever state the library has.  Nothing is assumed about what
  they return.
-/

import ConnPool.Client.CText

namespace ConnPool
namespace Client

/-- What stands for a connection object of the library. -/
abbrev Handle := Nat

/-- The functions of the database client, as answers over the library's
    state. -/
class Api (σ : Type) where
  /-- Starts a connection from a connection string; null if there is no memory
      for it. -/
  connectStart (conninfo : CText) : StateM σ (Option Handle)
  /-- Starts a connection from two closed arrays of keywords and values. -/
  connectStartParams (keywords values : List (Option CText)) (expandDbname : Int) :
    StateM σ (Option Handle)
  connectPoll (handle : Handle) : StateM σ Int
  status (handle : Handle) : StateM σ Int
  /-- The latest error text; null if there is none. -/
  errorMessage (handle : Handle) : StateM σ (Option CText)
  socket (handle : Handle) : StateM σ Int
  setNonblocking (handle : Handle) (on : Int) : StateM σ Int
  finish (handle : Handle) : StateM σ Unit

end Client
end ConnPool
