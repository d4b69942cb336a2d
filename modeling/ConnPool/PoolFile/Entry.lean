/-
  ConnPool.PoolFile.Entry

  The entries of a pool file, the configuration that each asks for, and the
  registry that they leave, whatever reads them off the text of the file.  Zero
  sizes ask for defaults, as everywhere; exactly one of the two kinds of target
  must be given.
-/

import ConnPool.Pool.Registry

namespace ConnPool

/-- One entry of a pool file.  Parameters are known by their keys, so they have
    no order but that of the keys. -/
structure PoolEntry where
  key : PoolKey
  minSize : Nat := 0
  maxSize : Nat := 0
  spawnBatch : Nat := 0
  uri : Option String := none
  params : Option (KeyMap String) := none
  expandDbname : Bool := false

namespace PoolEntry

/-- The target that the entry names. -/
def target (entry : PoolEntry) : Except PoolError Target :=
  match entry.uri, entry.params with
  | some uri, none => .ok (.uri uri)
  | none, some params => .ok (.params params.entries entry.expandDbname)
  | _, _ =>
    .error (.invalidConfig s!"pool `{entry.key}` must set exactly one of `uri` or `params`")

/-- The configuration that the entry asks for. -/
def config (entry : PoolEntry) : Except PoolError PoolConfig := do
  let target ← entry.target
  let config ← PoolConfig.ofSizes entry.key target entry.minSize entry.maxSize
  pure (config.withBatch entry.spawnBatch)

end PoolEntry

/-- Registers the entries of a pool file in order, up to the first that is
    refused. -/
def RegistryDraft.addEntries (draft : RegistryDraft) (entries : List PoolEntry) :
    Status × RegistryDraft :=
  draft.addAll (entries.map PoolEntry.config)

/-- Loads a registry from the text of a pool file.  The whole text is decoded
    before the first pool is registered.  `decode` reads the entries off a text,
    with errors of its own; `refuse` makes one of these of the error of a pool. -/
def PoolFile.load {ε : Type} (decode : String → Except ε (List PoolEntry))
    (refuse : PoolError → ε) (text : String) : Except ε Unit × RegistryDraft :=
  match decode text with
  | .error e => (.error e, {})
  | .ok entries =>
    match RegistryDraft.addEntries {} entries with
    | (.error e, draft) => (.error (refuse e), draft)
    | (.ok (), draft) => (.ok (), draft)

end ConnPool
