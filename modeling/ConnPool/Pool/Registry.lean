/-
  ConnPool.Pool.Registry

  The pool configurations known to every execution context: one per key,
  filled once at startup.

  A `PoolRequest` is one way of asking for a pool; `RegistryDraft` is a
  registry being filled, with the log records written on the way, which
  outlive a registration that fails later.
-/

import ConnPool.KeyMap
import ConnPool.Pool.Config
import ConnPool.Log

namespace ConnPool

/-- The configuration of each registered pool, by key. -/
abbrev Registry := KeyMap PoolConfig

namespace Registry

/-- Adds a configuration under its own key, which must not be taken. -/
def register (registry : Registry) (config : PoolConfig) : Except PoolError Registry :=
  if registry.contains config.key then
    .error (.duplicatePool config.key)
  else
    .ok (registry.insert config.key config)

end Registry

/-- One way of asking for a pool. -/
inductive PoolRequest where
  /-- A pool whose connections are opened from a connection string. -/
  | uri (key : PoolKey) (minSize maxSize : Nat) (text : String)
  /-- A pool whose connections are opened from keyword/value parameters. -/
  | params (key : PoolKey) (minSize maxSize : Nat) (keys values : List String)
      (expandDbname : Bool)
  /-- A pool on a connection string, with a spawn batch. -/
  | batched (key : PoolKey) (minSize maxSize : Nat) (text : String) (batch : Nat)
  /-- A configuration taken as it is, unchecked. -/
  | raw (config : PoolConfig)

/-- The configuration that is asked for. -/
def PoolRequest.config : PoolRequest → Except PoolError PoolConfig
  | uri key minSize maxSize text => PoolConfig.ofSizes key (.uri text) minSize maxSize
  | params key minSize maxSize keys values expandDbname => do
    let target ← Target.ofLists keys values expandDbname
    PoolConfig.ofSizes key target minSize maxSize
  | batched key minSize maxSize text batch => do
    let config ← PoolConfig.ofSizes key (.uri text) minSize maxSize
    pure (config.withBatch batch)
  | raw config => .ok config

/-- A registry being filled, and what was logged so far. -/
structure RegistryDraft where
  registry : Registry := .empty
  log : List LogRecord := []

namespace RegistryDraft

/-- The record of a successful registration. -/
def registered (config : PoolConfig) : LogRecord :=
  .poolRegistered config.key config.target.kind config.minSize config.maxSize

/-- Adds a configuration, or says why not and stays as it is. -/
def add (draft : RegistryDraft) (config : Except PoolError PoolConfig) :
    Status × RegistryDraft :=
  match config with
  | .error e => (.error e, draft)
  | .ok config =>
    match draft.registry.register config with
    | .error e => (.error e, draft)
    | .ok registry => (.ok (), ⟨registry, draft.log ++ [registered config]⟩)

/-- Adds configurations one after another, up to the first that is refused. -/
def addAll (draft : RegistryDraft) : List (Except PoolError PoolConfig) → Status × RegistryDraft
  | [] => (.ok (), draft)
  | config :: rest =>
    match draft.add config with
    | (.error e, draft) => (.error e, draft)
    | (.ok (), draft) => draft.addAll rest

end RegistryDraft

end ConnPool
