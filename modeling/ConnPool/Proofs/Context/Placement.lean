/-
  ConnPool.Proofs.Context.Placement

  The ways in which a connection comes into a context, changes its place and
  leaves: `takeIn` lists a new connection, `attempt` puts one in that is gone
  at once, `transfer` moves one between collections, and `without` drops one.
  Each is told by what it does to `conn?`, to the collections and to the pools'
  configurations.
-/

import ConnPool.Proofs.Context.Collections

namespace ConnPool
namespace Context

variable {ρ κ : Type}

/-- The id that the next new connection gets. -/
def nextId (ctx : Context ρ κ) (conn : Connection ρ κ) : ConnId :=
  (ctx.conns.insert conn).1

theorem nextId_congr (ctx : Context ρ κ) (conn conn' : Connection ρ κ) :
    ctx.nextId conn = ctx.nextId conn' :=
  Arena.fst_insert ctx.conns conn conn'

/-- Puts a new connection in and lists it where its membership says. -/
def takeIn (ctx : Context ρ κ) (conn : Connection ρ κ) : Context ρ κ :=
  { ctx with conns := (ctx.conns.insert conn).2 }.enlist (ctx.nextId conn) conn.membership

/-- Puts a new connection in and takes it out again: its slot has a new
    generation, and nothing else is changed. -/
def attempt (ctx : Context ρ κ) (conn : Connection ρ κ) : Context ρ κ :=
  { ctx with conns := ((ctx.conns.insert conn).2.remove (ctx.nextId conn)).2 }

/-- Changes the connection under `id`, and lists it where its membership says
    then. -/
def transfer (ctx : Context ρ κ) (id : ConnId) (conn : Connection ρ κ)
    (f : Connection ρ κ → Connection ρ κ) : Context ρ κ :=
  ((ctx.modifyConn id f).strike id conn.membership).enlist id (f conn).membership

/-- Takes out the connection under `id`. -/
def without (ctx : Context ρ κ) (id : ConnId) (conn : Connection ρ κ) : Context ρ κ :=
  { ctx with conns := (ctx.conns.remove id).2 }.strike id conn.membership

/-! ## Live connections -/

theorem conn?_modifyConn (ctx : Context ρ κ) (id other : ConnId)
    (f : Connection ρ κ → Connection ρ κ) :
    (ctx.modifyConn id f).conn? other =
      if other = id then (ctx.conn? id).map f else ctx.conn? other :=
  Arena.get?_modify ctx.conns id other f

theorem conn?_nextId {ctx : Context ρ κ} (hw : ctx.conns.WellFormed) {conn : Connection ρ κ}
    (ha : (ctx.conns.insert conn).2.Addressable) : ctx.conn? (ctx.nextId conn) = none :=
  Arena.get?_fst_insert hw ha

theorem conn?_takeIn {ctx : Context ρ κ} (hw : ctx.conns.WellFormed) {conn : Connection ρ κ}
    (ha : (ctx.conns.insert conn).2.Addressable) (other : ConnId) :
    (ctx.takeIn conn).conn? other =
      if other = ctx.nextId conn then some conn else ctx.conn? other := by
  rw [conn?, takeIn, conns_enlist]
  exact Arena.get?_insert hw ha other

theorem conn?_attempt {ctx : Context ρ κ} (hw : ctx.conns.WellFormed) {conn : Connection ρ κ}
    (ha : (ctx.conns.insert conn).2.Addressable) (other : ConnId) :
    (ctx.attempt conn).conn? other = ctx.conn? other := by
  have hnone := conn?_nextId hw ha
  simp only [conn?, attempt, Arena.get?_remove, Arena.get?_insert hw ha]
  by_cases he : other = ctx.nextId conn
  · rw [if_pos he, he]
    exact hnone.symm
  · rw [if_neg he]
    exact if_neg he

theorem conn?_transfer {ctx : Context ρ κ} {id : ConnId} {conn : Connection ρ κ}
    (h : ctx.conn? id = some conn) (f : Connection ρ κ → Connection ρ κ) (other : ConnId) :
    (ctx.transfer id conn f).conn? other =
      if other = id then some (f conn) else ctx.conn? other := by
  have hmod := conn?_modifyConn ctx id other f
  rw [h, Option.map_some] at hmod
  rw [← hmod]
  simp only [conn?, transfer, conns_enlist, conns_strike]

theorem conn?_without (ctx : Context ρ κ) (id : ConnId) (conn : Connection ρ κ)
    (other : ConnId) :
    (ctx.without id conn).conn? other = if other = id then none else ctx.conn? other := by
  simp only [conn?, without, conns_strike]
  exact Arena.get?_remove ctx.conns id other

/-! ## The arena -/

@[simp] theorem conns_transfer (ctx : Context ρ κ) (id : ConnId) (conn : Connection ρ κ)
    (f : Connection ρ κ → Connection ρ κ) :
    (ctx.transfer id conn f).conns = ctx.conns.modify id f := by
  rw [transfer, conns_enlist, conns_strike]
  rfl

/-! ## Collections -/

/-- The collections do not look at the connections. -/
theorem collection_conns (ctx : Context ρ κ) (conns : Arena (Connection ρ κ))
    (membership : Membership) :
    { ctx with conns }.collection membership = ctx.collection membership := by
  cases membership <;> rfl

@[simp] theorem collection_modifyConn (ctx : Context ρ κ) (id : ConnId)
    (f : Connection ρ κ → Connection ρ κ) (membership : Membership) :
    (ctx.modifyConn id f).collection membership = ctx.collection membership :=
  collection_conns ctx _ membership

@[simp] theorem poolConfig?_modifyConn (ctx : Context ρ κ) (id : ConnId)
    (f : Connection ρ κ → Connection ρ κ) (key : PoolKey) :
    (ctx.modifyConn id f).poolConfig? key = ctx.poolConfig? key := rfl

theorem collection_takeIn {ctx : Context ρ κ} {conn : Connection ρ κ}
    (h : ctx.HasCollection conn.membership) (other : Membership) :
    (ctx.takeIn conn).collection other =
      if other = conn.membership then ctx.collection conn.membership ++ [ctx.nextId conn]
      else ctx.collection other := by
  have h' : { ctx with conns := (ctx.conns.insert conn).2 }.HasCollection conn.membership := h
  rw [takeIn, collection_enlist h']
  simp only [collection_conns]

@[simp] theorem poolConfig?_takeIn (ctx : Context ρ κ) (conn : Connection ρ κ) (key : PoolKey) :
    (ctx.takeIn conn).poolConfig? key = ctx.poolConfig? key := by
  rw [takeIn, poolConfig?_enlist]
  rfl

@[simp] theorem collection_attempt (ctx : Context ρ κ) (conn : Connection ρ κ)
    (membership : Membership) :
    (ctx.attempt conn).collection membership = ctx.collection membership :=
  collection_conns ctx _ membership

@[simp] theorem poolConfig?_attempt (ctx : Context ρ κ) (conn : Connection ρ κ) (key : PoolKey) :
    (ctx.attempt conn).poolConfig? key = ctx.poolConfig? key := rfl

theorem collection_without (ctx : Context ρ κ) (id : ConnId) (conn : Connection ρ κ)
    (other : Membership) :
    (ctx.without id conn).collection other =
      if other = conn.membership then (ctx.collection conn.membership).filter (· ≠ id)
      else ctx.collection other := by
  rw [without, collection_strike]
  simp only [collection_conns]

@[simp] theorem poolConfig?_without (ctx : Context ρ κ) (id : ConnId) (conn : Connection ρ κ)
    (key : PoolKey) : (ctx.without id conn).poolConfig? key = ctx.poolConfig? key := by
  rw [without, poolConfig?_strike]
  rfl

/-- A transfer strikes the id from the old collection, then lists it in the new
    one. -/
theorem collection_transfer {ctx : Context ρ κ} {id : ConnId} {conn : Connection ρ κ}
    {f : Connection ρ κ → Connection ρ κ} (h : ctx.HasCollection (f conn).membership)
    (other : Membership) :
    (ctx.transfer id conn f).collection other =
      (if other = conn.membership then (ctx.collection other).filter (· ≠ id)
        else ctx.collection other) ++
      if other = (f conn).membership then [id] else [] := by
  -- striking leaves the pools there, so that the new collection can be added to
  have hhas : ((ctx.modifyConn id f).strike id conn.membership).HasCollection
      (f conn).membership := fun key hkey => by
    rw [poolConfig?_strike]
    exact h key hkey
  rw [transfer, collection_enlist hhas, collection_strike, collection_strike]
  by_cases ho : other = (f conn).membership
  · subst ho
    by_cases hc : (f conn).membership = conn.membership <;> simp [hc]
  · rw [if_neg ho, if_neg ho, List.append_nil, collection_modifyConn, collection_modifyConn]
    split
    · rename_i hc
      rw [hc]
    · rfl

@[simp] theorem poolConfig?_transfer (ctx : Context ρ κ) (id : ConnId) (conn : Connection ρ κ)
    (f : Connection ρ κ → Connection ρ κ) (key : PoolKey) :
    (ctx.transfer id conn f).poolConfig? key = ctx.poolConfig? key := by
  rw [transfer, poolConfig?_enlist, poolConfig?_strike, poolConfig?_modifyConn]

/-! ## Changes in a row -/

/-- Two changes of one connection are one change. -/
theorem modifyConn_modifyConn (ctx : Context ρ κ) (id : ConnId)
    (f g : Connection ρ κ → Connection ρ κ) :
    (ctx.modifyConn id f).modifyConn id g = ctx.modifyConn id fun conn => g (f conn) := by
  simp only [modifyConn, Arena.modify_modify]

theorem modifyConn_congr {ctx : Context ρ κ} {id : ConnId} {conn : Connection ρ κ}
    {f g : Connection ρ κ → Connection ρ κ} (h : ctx.conn? id = some conn) (hfg : f conn = g conn) :
    ctx.modifyConn id f = ctx.modifyConn id g := by
  have hconns : ctx.conns.modify id f = ctx.conns.modify id g :=
    Arena.modify_congr fun value hget => by
    obtain rfl := Option.some.inj (h.symm.trans hget)
    exact hfg
  rw [modifyConn, hconns]
  rfl

/-- Changing a connection and striking an id do not get in each other's way. -/
theorem strike_modifyConn (ctx : Context ρ κ) (id : ConnId) (f : Connection ρ κ → Connection ρ κ)
    (other : ConnId) (membership : Membership) :
    (ctx.strike other membership).modifyConn id f =
      (ctx.modifyConn id f).strike other membership := by
  cases membership <;> rfl

/-- A connection that is taken out need not be changed before, as long as it
    keeps its place. -/
theorem without_modifyConn (ctx : Context ρ κ) (id : ConnId) {conn conn' : Connection ρ κ}
    (f : Connection ρ κ → Connection ρ κ) (h : conn'.membership = conn.membership) :
    (ctx.modifyConn id f).without id conn' = ctx.without id conn := by
  simp only [without, modifyConn, Arena.remove_modify, h]

end Context
end ConnPool
