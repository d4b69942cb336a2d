/-
  ConnPool.Pool.Figures

  What is told about a pool from outside: how full it is, for the log, and its
  figures, for whoever asks.
-/

namespace ConnPool

/-- How many connections a pool holds, and how many of them are idle. -/
structure PoolLoad where
  size : Nat
  free : Nat
  deriving DecidableEq

/-- Figures of one pool. -/
structure PoolFigures where
  /-- Connections that belong to the pool: free and busy ones. -/
  size : Nat
  /-- Idle connections. -/
  free : Nat
  /-- Lent connections. -/
  busy : Nat
  minSize : Nat
  maxSize : Nat
  /-- How many times a direct connection was lent because the pool was full. -/
  overflowCount : Nat
  deriving DecidableEq

end ConnPool
