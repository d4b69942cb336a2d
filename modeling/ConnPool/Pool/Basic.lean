/-
  ConnPool.Pool.Basic

  One pool instance: the ids of its idle connections, oldest first, and of
  those lent to callers.  The size of a pool is the number of both; it is not
  counted separately.
-/

import ConnPool.Pool.Config
import ConnPool.Log

namespace ConnPool

/-- A pool of one execution context. -/
structure Pool where
  config : PoolConfig
  /-- Idle connections, oldest first. -/
  free : List ConnId := []
  /-- Lent connections. -/
  busy : List ConnId := []
  /-- How many times a direct connection was lent because the pool was full. -/
  overflowCount : Nat := 0

namespace Pool

/-- How many connections belong to the pool. -/
def size (pool : Pool) : Nat :=
  pool.free.length + pool.busy.length

/-- How many more connections the pool may hold. -/
def room (pool : Pool) : Nat :=
  pool.config.maxSize - pool.size

/-- Whether more than half of the pool is idle although it is above its
    floor. -/
def isSlack (pool : Pool) : Bool :=
  decide (pool.free.length * 2 > pool.size) && decide (pool.size > pool.config.minSize)

/-- Size and idle count, as logs tell them. -/
def load (pool : Pool) : PoolLoad :=
  ⟨pool.size, pool.free.length⟩

/-- The figures of the pool. -/
def figures (pool : Pool) : PoolFigures where
  size := pool.size
  free := pool.free.length
  busy := pool.busy.length
  minSize := pool.config.minSize
  maxSize := pool.config.maxSize
  overflowCount := pool.overflowCount

/-- Puts an id at the back of the idle queue. -/
def pushFree (pool : Pool) (id : ConnId) : Pool :=
  { pool with free := pool.free ++ [id] }

/-- Adds an id to those lent. -/
def pushBusy (pool : Pool) (id : ConnId) : Pool :=
  { pool with busy := pool.busy ++ [id] }

/-- Takes an id out of the idle queue. -/
def dropFree (pool : Pool) (id : ConnId) : Pool :=
  { pool with free := pool.free.filter (· ≠ id) }

/-- Takes an id out of those lent. -/
def dropBusy (pool : Pool) (id : ConnId) : Pool :=
  { pool with busy := pool.busy.filter (· ≠ id) }

end Pool

end ConnPool
