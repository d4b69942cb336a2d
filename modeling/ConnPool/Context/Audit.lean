/-
  ConnPool.Context.Audit

  Whether the collections of a context are in order: each live connection is
  listed once, in the collection that its membership names; what is listed is
  live; and every pool keeps its bounds.

  Fault by fault, `audit` reports the first that it finds.
-/

import ConnPool.Context.Basic
import ConnPool.Text.Quoted

namespace ConnPool
namespace Context

variable {ρ κ : Type}

/-- What is wrong with the collections of a context. -/
inductive AuditFault where
  /-- A live connection is not listed exactly once. -/
  | listed (id : ConnId) (inRegistry inFree inBusy : Nat)
  /-- A live connection is listed, but not where its membership says. -/
  | misplaced (id : ConnId) (membership : Membership)
  /-- A listed id is not live. -/
  | dangling (id : ConnId)
  /-- A pool holds more than it may. -/
  | outOfBounds (key : PoolKey) (free size maxSize : Nat)
  deriving DecidableEq

/-- A membership as it is named in an audit. -/
def membershipText : Membership → String
  | .registry => "Registry"
  | .free key => s!"Free(PoolKey({Text.quoted key}))"
  | .busy key => s!"Busy(PoolKey({Text.quoted key}))"

/-- The text of an audit's finding. -/
def AuditFault.message : AuditFault → String
  | listed id inRegistry inFree inBusy =>
    s!"{id.text} listed {inRegistry}x in registry, {inFree}x free, {inBusy}x busy"
  | misplaced id membership =>
    s!"{id.text} is not listed where its membership {membershipText membership} says"
  | dangling id => s!"{id.text} is listed but no longer live"
  | outOfBounds key free size maxSize =>
    s!"pool `{key}` out of bounds: free {free} size {size} max {maxSize}"

/-- All ids that pools list as idle. -/
def allFree (ctx : Context ρ κ) : List ConnId :=
  ctx.pools.values.flatMap Pool.free

/-- All ids that pools list as lent. -/
def allBusy (ctx : Context ρ κ) : List ConnId :=
  ctx.pools.values.flatMap Pool.busy

/-- The collection that a membership names. -/
def collection (ctx : Context ρ κ) : Membership → List ConnId
  | .registry => ctx.registry
  | .free key => ((ctx.pools.get? key).map Pool.free).getD []
  | .busy key => ((ctx.pools.get? key).map Pool.busy).getD []

/-- What is wrong with the listing of one live connection. -/
def connFault? (ctx : Context ρ κ) (id : ConnId) (conn : Connection ρ κ) : Option AuditFault :=
  let inRegistry := ctx.registry.count id
  let inFree := ctx.allFree.count id
  let inBusy := ctx.allBusy.count id
  if inRegistry + inFree + inBusy ≠ 1 then
    some (.listed id inRegistry inFree inBusy)
  else if id ∉ ctx.collection conn.membership then
    some (.misplaced id conn.membership)
  else none

/-- What is wrong with the bounds of one pool. -/
def poolFault? (key : PoolKey) (pool : Pool) : Option AuditFault :=
  if pool.free.length > pool.size ∨ pool.size > pool.config.maxSize then
    some (.outOfBounds key pool.free.length pool.size pool.config.maxSize)
  else none

/-- The first fault found, if any: each live connection is listed once and in
    its place, what is listed is live, and pools keep their bounds. -/
def auditFault? (ctx : Context ρ κ) : Option AuditFault :=
  (ctx.conns.entries.findSome? fun (id, conn) => ctx.connFault? id conn)
  <|> ((ctx.registry ++ ctx.allFree ++ ctx.allBusy).find? (!ctx.conns.contains ·)).map .dangling
  <|> ctx.pools.entries.findSome? fun (key, pool) => poolFault? key pool

/-- Whether the collections are in order. -/
def audit (ctx : Context ρ κ) : Except AuditFault Unit :=
  match ctx.auditFault? with
  | some fault => .error fault
  | none => .ok ()

end Context
end ConnPool
