/-
  ConnPool.Target

  Where and how to connect: keyword/value parameters, or one connection
  string.  Logs name a target by its kind only, because parameters and
  connection strings may hold credentials.
-/

import ConnPool.PoolError

namespace ConnPool

/-- What a session is started towards. -/
inductive Target where
  /-- Keyword/value pairs; with `expandDbname` the value of `dbname` may be a
      whole connection string. -/
  | params (pairs : List (String × String)) (expandDbname : Bool)
  /-- A connection string or URI. -/
  | uri (text : String)
  deriving DecidableEq

namespace Target

/-- The kind of a target, which says nothing about its contents. -/
def kind : Target → String
  | params .. => "params"
  | uri _ => "uri"

/-- The parameter target whose keys and values come as two lists, which must
    be equally long. -/
def ofLists (keys values : List String) (expandDbname : Bool) : Except PoolError Target :=
  if keys.length = values.length then
    .ok (params (keys.zip values) expandDbname)
  else
    .error (.invalidConfig s!"{keys.length} parameter keys but {values.length} values")

end Target

end ConnPool
