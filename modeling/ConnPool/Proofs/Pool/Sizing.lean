/-
  ConnPool.Proofs.Pool.Sizing

  The sizes of configurations, and how far a pool of each grows next.

  `growth` opens no more than it must: it is the least number of connections that
  makes up a batch and reaches the floor, or else fills the pool
  (`isLeast_growth`).
-/

import ConnPool.Pool.Config
import Mathlib.Order.Bounds.Defs

namespace ConnPool
namespace PoolConfig

/-! ## Sizes as they are given -/

/-- The configuration that sizes ask for, where a zero asks for the default. -/
def defaulted (key : PoolKey) (target : Target) (minSize maxSize batch : Nat) : PoolConfig where
  key
  target
  minSize := if minSize = 0 then 1 else minSize
  maxSize := if maxSize = 0 then 10 else maxSize
  spawnBatch := if batch = 0 then 1 else batch

/-- The configuration, unless its floor is above its ceiling. -/
def checked (config : PoolConfig) : Except PoolError PoolConfig :=
  if config.maxSize < config.minSize then
    .error (.invalidConfig
      s!"pool `{config.key}`: min_size {config.minSize} exceeds max_size {config.maxSize}")
  else .ok config

variable (key : PoolKey) (target : Target) (minSize maxSize batch : Nat)

/-- Defaults are filled in before the sizes are checked. -/
theorem ofSizes_eq_checked :
    ofSizes key target minSize maxSize = (defaulted key target minSize maxSize 0).checked :=
  rfl

/-- A batch that is set afterwards could have been set before. -/
theorem map_withBatch_ofSizes :
    (ofSizes key target minSize maxSize).map (·.withBatch batch) =
      (defaulted key target minSize maxSize batch).checked := by
  rw [ofSizes_eq_checked, checked]
  by_cases h : (defaulted key target minSize maxSize 0).maxSize <
      (defaulted key target minSize maxSize 0).minSize
  · rw [if_pos h]
    exact (if_pos h).symm
  · rw [if_neg h]
    exact (if_neg h).symm

theorem key_of_ofSizes {key : PoolKey} {target : Target} {minSize maxSize : Nat}
    {config : PoolConfig} (h : ofSizes key target minSize maxSize = .ok config) :
    config.key = key := by
  rw [ofSizes_eq_checked, checked] at h
  split at h
  · cases h
  · obtain rfl := Except.ok.inj h
    rfl

/-! ## Sizes as they are kept -/

/-- Whether a configuration has a floor within its ceiling, and a batch. -/
structure Sized (config : PoolConfig) : Prop where
  floor_pos : 1 ≤ config.minSize
  floor_le : config.minSize ≤ config.maxSize
  batch_pos : 1 ≤ config.spawnBatch

theorem Sized.defaulted
    (h : (defaulted key target minSize maxSize batch).minSize ≤
      (defaulted key target minSize maxSize batch).maxSize) :
    (defaulted key target minSize maxSize batch).Sized := by
  have one_le : ∀ n : Nat, 1 ≤ if n = 0 then 1 else n := fun n => by
    split <;> omega
  exact ⟨one_le minSize, h, one_le batch⟩

/-! ## Growth -/

variable {config : PoolConfig} {size count : Nat}

/-- Whether opening `count` connections is enough: they make up a batch and reach
    the floor, or they fill the pool. -/
def Suffices (config : PoolConfig) (size count : Nat) : Prop :=
  (config.spawnBatch ≤ count ∧ config.minSize ≤ size + count) ∨ size + count = config.maxSize

theorem suffices_growth (h : size ≤ config.maxSize) :
    config.Suffices size (config.growth size) := by
  unfold Suffices growth
  omega

theorem growth_le_of_suffices (h : config.Suffices size count) : config.growth size ≤ count := by
  unfold growth
  rcases h with ⟨hbatch, hfloor⟩ | hfull
  · have hwanted : max config.spawnBatch (config.minSize - size) ≤ count := by omega
    exact Nat.le_trans (Nat.min_le_left _ _) hwanted
  · have hroom : config.maxSize - size ≤ count := by omega
    exact Nat.le_trans (Nat.min_le_right _ _) hroom

/-- A pool grows by the least number of connections that is enough. -/
theorem isLeast_growth (h : size ≤ config.maxSize) :
    IsLeast {count | (config.spawnBatch ≤ count ∧ config.minSize ≤ size + count) ∨
      size + count = config.maxSize} (config.growth size) :=
  ⟨suffices_growth h, fun _ hcount => growth_le_of_suffices hcount⟩

/-- What is said of the next growth of a pool: the least that is enough, within
    the ceiling and up to the floor at least, and nothing only when full. -/
structure Grows (config : PoolConfig) (size : Nat) : Prop where
  least : IsLeast {count | (config.spawnBatch ≤ count ∧ config.minSize ≤ size + count) ∨
    size + count = config.maxSize} (config.growth size)
  le_ceiling : size + config.growth size ≤ config.maxSize
  floor_le : config.minSize ≤ size + config.growth size
  pos_iff : 1 ≤ config.growth size ↔ size < config.maxSize

theorem Sized.grows (hsized : config.Sized) (h : size ≤ config.maxSize) : config.Grows size := by
  constructor
  case least => exact isLeast_growth h
  case le_ceiling => exact add_growth_le h
  case floor_le => exact minSize_le_add_growth hsized.floor_le size
  case pos_iff =>
    refine ⟨fun hpos => ?_, growth_pos hsized.batch_pos⟩
    have hle := config.growth_le_sub size
    omega

end PoolConfig
end ConnPool
