/-
  ConnPool.Pool.Config

  The configuration of one logical pool, and how many connections a pool of a
  given size should open next.
-/

import ConnPool.Target

namespace ConnPool

/-- Configuration of one logical pool. -/
structure PoolConfig where
  key : PoolKey
  target : Target
  /-- The pool does not shrink below this size. -/
  minSize : Nat
  /-- The pool does not grow beyond this size. -/
  maxSize : Nat
  /-- How many connections are opened together once `minSize` is reached. -/
  spawnBatch : Nat
  deriving DecidableEq

namespace PoolConfig

/-- Floor of a pool whose floor is given as zero. -/
def defaultMinSize : Nat := 1

/-- Ceiling of a pool whose ceiling is given as zero. -/
def defaultMaxSize : Nat := 10

/-- Batch of a pool whose batch is not given, or given as zero. -/
def defaultSpawnBatch : Nat := 1

/-- A size given by a user, where zero asks for the default. -/
def sizeOr (default size : Nat) : Nat :=
  if size = 0 then default else size

/-- A configuration from sizes given by a user.  The floor may not exceed the
    ceiling, defaults included. -/
def ofSizes (key : PoolKey) (target : Target) (minSize maxSize : Nat) :
    Except PoolError PoolConfig :=
  let min := sizeOr defaultMinSize minSize
  let max := sizeOr defaultMaxSize maxSize
  if min > max then
    .error (.invalidConfig s!"pool `{key}`: min_size {min} exceeds max_size {max}")
  else
    .ok { key, target, minSize := min, maxSize := max, spawnBatch := defaultSpawnBatch }

/-- The configuration with another spawn batch; zero asks for the default. -/
def withBatch (config : PoolConfig) (batch : Nat) : PoolConfig :=
  { config with spawnBatch := sizeOr defaultSpawnBatch batch }

/-- How many connections a pool that holds `size` opens next: enough to reach
    the floor, at least one batch, never past the ceiling. -/
def growth (config : PoolConfig) (size : Nat) : Nat :=
  min (max config.spawnBatch (config.minSize - size)) (config.maxSize - size)

/-- A configuration made from sizes given by a user has a floor that is not
    zero and within its ceiling. -/
theorem bounds_of_ofSizes {key : PoolKey} {target : Target} {minSize maxSize : Nat}
    {config : PoolConfig} (h : ofSizes key target minSize maxSize = .ok config) :
    0 < config.minSize ∧ config.minSize ≤ config.maxSize := by
  rw [ofSizes] at h
  split at h
  · cases h
  · rename_i hle
    obtain rfl := Except.ok.inj h
    refine ⟨?_, Nat.le_of_not_lt hle⟩
    show 0 < sizeOr defaultMinSize minSize
    rw [sizeOr, defaultMinSize]
    split <;> omega

/-- A pool grows no further than to its ceiling. -/
theorem growth_le_sub (config : PoolConfig) (size : Nat) :
    config.growth size ≤ config.maxSize - size :=
  Nat.min_le_right _ _

/-- A pool with a batch grows while it has room. -/
theorem growth_pos {config : PoolConfig} {size : Nat} (hbatch : 1 ≤ config.spawnBatch)
    (hroom : size < config.maxSize) : 0 < config.growth size := by
  unfold growth
  omega

/-- A pool grown by `growth` reaches its floor, if that is within its
    ceiling. -/
theorem minSize_le_add_growth {config : PoolConfig} (h : config.minSize ≤ config.maxSize)
    (size : Nat) : config.minSize ≤ size + config.growth size := by
  unfold growth
  omega

/-- A pool grown by `growth` stays within its ceiling. -/
theorem add_growth_le {config : PoolConfig} {size : Nat} (h : size ≤ config.maxSize) :
    size + config.growth size ≤ config.maxSize := by
  unfold growth
  omega

end PoolConfig

end ConnPool
