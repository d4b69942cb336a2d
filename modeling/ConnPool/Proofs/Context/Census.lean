/-
  ConnPool.Proofs.Context.Census

  The live connections as a whole.

  The entries of the arena are the live connections with their ids.  A
  connection that comes in or goes adds or takes away its own entry, and one
  whose record changes exchanges its entry; the others stay, up to order.  So
  whatever is collected from the entries, or counted among them, changes by
  what one connection contributes.
-/

import ConnPool.Proofs.Context.Placement
import Mathlib.Data.List.Nodup

namespace ConnPool
namespace Context

variable {ρ κ : Type} {ctx : Context ρ κ} {id : ConnId} {conn : Connection ρ κ}

/-! ## Entries -/

theorem entries_takeIn_perm (hw : ctx.conns.WellFormed) (conn : Connection ρ κ) :
    (ctx.takeIn conn).conns.entries.Perm ((ctx.nextId conn, conn) :: ctx.conns.entries) := by
  rw [takeIn, conns_enlist]
  exact Arena.entries_insert_perm hw conn

theorem entries_without_perm (h : ctx.conn? id = some conn) :
    ctx.conns.entries.Perm ((id, conn) :: (ctx.without id conn).conns.entries) := by
  rw [without, conns_strike]
  exact Arena.entries_remove_perm h

/-- A connection that is put in and taken out again leaves no entry. -/
theorem entries_attempt_perm (hw : ctx.conns.WellFormed)
    (ha : (ctx.conns.insert conn).2.Addressable) :
    (ctx.attempt conn).conns.entries.Perm ctx.conns.entries := by
  -- what the removal takes out is the entry that was just put in
  have hget : (ctx.conns.insert conn).2.get? (ctx.nextId conn) = some conn := by
    rw [Arena.get?_insert hw ha]
    exact if_pos rfl
  have hinsert := Arena.entries_insert_perm hw conn
  have hremove := Arena.entries_remove_perm hget
  exact (hremove.symm.trans hinsert).cons_inv

theorem entries_modifyConn_perm (h : ctx.conn? id = some conn)
    (f : Connection ρ κ → Connection ρ κ) :
    (ctx.modifyConn id f).conns.entries.Perm
      ((id, f conn) :: (ctx.without id conn).conns.entries) := by
  rw [without, conns_strike]
  exact Arena.entries_modify_perm h f

/-- What differs between all live connections tells them apart. -/
theorem eq_of_nodup_entries {β : Type} (ha : ctx.conns.Addressable) {f : Connection ρ κ → β}
    (h : (ctx.conns.entries.map fun entry => f entry.2).Nodup) {other : ConnId}
    {conn' : Connection ρ κ} (hconn : ctx.conn? id = some conn)
    (hother : ctx.conn? other = some conn') (hsame : f conn' = f conn) : other = id := by
  have hmem := (Arena.mem_entries ha).2 hconn
  have hmem' := (Arena.mem_entries ha).2 hother
  have heq : (other, conn') = (id, conn) := List.inj_on_of_nodup_map h hmem' hmem hsame
  exact (Prod.mk.inj heq).1

/-! ## Counting -/

/-- How many live connections answer to `p`. -/
def census (ctx : Context ρ κ) (p : ConnId × Connection ρ κ → Bool) : Nat :=
  ctx.conns.entries.countP p

variable {p : ConnId × Connection ρ κ → Bool}

theorem census_pos_iff (ha : ctx.conns.Addressable) :
    0 < ctx.census p ↔ ∃ id conn, ctx.conn? id = some conn ∧ p (id, conn) = true := by
  rw [census, List.countP_pos_iff]
  constructor
  · rintro ⟨⟨id, conn⟩, hmem, hp⟩
    exact ⟨id, conn, (Arena.mem_entries ha).1 hmem, hp⟩
  · rintro ⟨id, conn, hconn, hp⟩
    exact ⟨(id, conn), (Arena.mem_entries ha).2 hconn, hp⟩

theorem census_takeIn (hw : ctx.conns.WellFormed) (conn : Connection ρ κ) :
    (ctx.takeIn conn).census p =
      ctx.census p + if p (ctx.nextId conn, conn) then 1 else 0 := by
  rw [census, (entries_takeIn_perm hw conn).countP_eq, List.countP_cons]
  rfl

theorem census_without (h : ctx.conn? id = some conn) :
    ctx.census p = (ctx.without id conn).census p + if p (id, conn) then 1 else 0 := by
  rw [census, (entries_without_perm h).countP_eq, List.countP_cons]
  rfl

theorem census_attempt (hw : ctx.conns.WellFormed) (ha : (ctx.conns.insert conn).2.Addressable) :
    (ctx.attempt conn).census p = ctx.census p :=
  (entries_attempt_perm hw ha).countP_eq p

theorem census_modifyConn (h : ctx.conn? id = some conn) (f : Connection ρ κ → Connection ρ κ) :
    ((ctx.modifyConn id f).census p + if p (id, conn) then 1 else 0) =
      ctx.census p + if p (id, f conn) then 1 else 0 := by
  have hbefore := census_without (p := p) h
  have hafter := (entries_modifyConn_perm h f).countP_eq p
  rw [List.countP_cons] at hafter
  show (ctx.modifyConn id f).conns.entries.countP p + _ = _
  simp only [census] at hbefore ⊢
  omega

theorem census_transfer (h : ctx.conn? id = some conn) (f : Connection ρ κ → Connection ρ κ) :
    ((ctx.transfer id conn f).census p + if p (id, conn) then 1 else 0) =
      ctx.census p + if p (id, f conn) then 1 else 0 := by
  rw [← census_modifyConn h f, census, conns_transfer]
  rfl

/-- A connection that is counted alone is the only one that answers to `p`. -/
theorem eq_of_census_le_one (ha : ctx.conns.Addressable) (hle : ctx.census p ≤ 1) {other : ConnId}
    {conn' : Connection ρ κ} (hconn : ctx.conn? id = some conn) (hp : p (id, conn) = true)
    (hother : ctx.conn? other = some conn') (hp' : p (other, conn') = true) : other = id := by
  refine Decidable.byContradiction fun hne => ?_
  -- without the one connection, the other one would still be counted
  have hothers : (ctx.without id conn).conn? other = some conn' := by
    rw [conn?_without, if_neg hne]
    exact hother
  have haddressable : (ctx.without id conn).conns.Addressable := by
    rw [Arena.Addressable, without, conns_strike, Arena.length_slots_remove]
    exact ha
  have hpos := (census_pos_iff haddressable).2 ⟨other, conn', hothers, hp'⟩
  have hsplit := census_without (p := p) hconn
  rw [hp, if_pos rfl] at hsplit
  omega

end Context
end ConnPool
