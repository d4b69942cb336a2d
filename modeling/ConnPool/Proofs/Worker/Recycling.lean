/-
  ConnPool.Proofs.Worker.Recycling

  Acts and paths do not give out an id twice, as long as no slot is vacated
  `2 ^ 32` times.

  Each act takes at most one connection out of the arena.  Along a path with
  fewer removals than generations, an id that was issued stays issued, and a
  connection that is gone does not come back.
-/

import ConnPool.Proofs.Arena.Issued
import ConnPool.Proofs.Worker.Act

namespace ConnPool

variable {ρ κ : Type}

/-- How many connections an act takes out of the arena. -/
def Act.removes : Act ρ κ → Nat
  | openFailed .. | finished .. => 1
  | noted _ | asked .. | poolCreated .. | opened .. | openSpoiled .. | stepped .. | lent ..
  | takenBack .. | adopted .. | tagged .. | deferred .. | poolsDropped => 0

/-- How many connections a path takes out of the arena. -/
def removals (acts : List (Act ρ κ)) : Nat :=
  (acts.map Act.removes).sum

theorem removals_cons (act : Act ρ κ) (acts : List (Act ρ κ)) :
    removals (act :: acts) = act.removes + removals acts := rfl

theorem removals_split (earlier : List (Act ρ κ)) (act : Act ρ κ) (later : List (Act ρ κ)) :
    removals (earlier ++ act :: later) = removals earlier + (act.removes + removals later) := by
  rw [removals, List.map_append, List.sum_append]
  rfl

/-- Between two states, issued ids stay issued and do not come back. -/
structure View.Recycles (v v' : View ρ κ) : Prop where
  issued : ∀ id, v.ctx.conns.Issued id → v'.ctx.conns.Issued id
  live : ∀ id, v.ctx.conns.Issued id → (v'.ctx.conn? id).isSome → (v.ctx.conn? id).isSome

namespace View.Recycles

variable {v v₁ v₂ : View ρ κ}

theorem refl (v : View ρ κ) : v.Recycles v where
  issued _ h := h
  live _ _ h := h

theorem trans (first : v.Recycles v₁) (second : v₁.Recycles v₂) : v.Recycles v₂ where
  issued id h := second.issued id (first.issued id h)
  live id h hlive := first.live id h (second.live id (first.issued id h) hlive)

end View.Recycles

/-! ## Acts -/

theorem Act.atMostRemoved_run {v : View ρ κ} {act : Act ρ κ} {n : Nat} (hw : v.ctx.Orderly)
    (hn : v.ctx.conns.AtMostRemoved n) :
    (act.run v).ctx.conns.AtMostRemoved (n + act.removes) := by
  cases act with
  | noted _ | asked _ _ _ | poolCreated _ _ | openSpoiled _ _ _ | poolsDropped => exact hn
  | opened id target conn poll =>
      show (v.ctx.takeIn (conn.stepped poll)).conns.AtMostRemoved n
      rw [Context.takeIn, Context.conns_enlist]
      exact hn.insert hw.arena _
  | openFailed id target conn ending => exact (hn.insert hw.arena conn).remove _
  | stepped id conn poll => exact hn.modify id _
  | lent id conn key request onConnect load =>
      show (v.ctx.transfer id conn _).conns.AtMostRemoved n
      rw [Context.conns_transfer]
      exact hn.modify id _
  | takenBack id conn key load | adopted id conn key size =>
      show (v.ctx.transfer id conn _).conns.AtMostRemoved n
      rw [Context.conns_transfer]
      exact hn.modify id _
  | tagged id conn key => exact hn.modify id _
  | deferred id conn onDisconnect => exact hn.modify id _
  | finished id conn ending =>
      show (v.ctx.without id conn).conns.AtMostRemoved (n + 1)
      rw [Context.without, Context.conns_strike]
      exact hn.remove id

theorem Act.issued_run {v : View ρ κ} {act : Act ρ κ} {n : Nat} (hw : v.ctx.Orderly)
    (hn : v.ctx.conns.AtMostRemoved n) (hlt : n + act.removes < 2 ^ 32) {other : ConnId}
    (h : v.ctx.conns.Issued other) : (act.run v).ctx.conns.Issued other := by
  cases act with
  | noted _ | asked _ _ _ | poolCreated _ _ | openSpoiled _ _ _ | poolsDropped => exact h
  | opened id target conn poll =>
      show (v.ctx.takeIn (conn.stepped poll)).conns.Issued other
      rw [Context.takeIn, Context.conns_enlist]
      exact h.insert hw.arena _
  | openFailed id target conn ending =>
      exact (h.insert hw.arena conn).remove (hn.insert hw.arena conn) hlt _
  | stepped id conn poll => exact h.modify id _
  | lent id conn key request onConnect load =>
      show (v.ctx.transfer id conn _).conns.Issued other
      rw [Context.conns_transfer]
      exact h.modify id _
  | takenBack id conn key load | adopted id conn key size =>
      show (v.ctx.transfer id conn _).conns.Issued other
      rw [Context.conns_transfer]
      exact h.modify id _
  | tagged id conn key => exact h.modify id _
  | deferred id conn onDisconnect => exact h.modify id _
  | finished id conn ending =>
      show (v.ctx.without id conn).conns.Issued other
      rw [Context.without, Context.conns_strike]
      exact h.remove hn hlt id

theorem Act.recycles_run {v : View ρ κ} {act : Act ρ κ} {n : Nat} (enabled : act.Enabled v)
    (hw : v.ctx.Orderly) (hn : v.ctx.conns.AtMostRemoved n) (hlt : n + act.removes < 2 ^ 32) :
    v.Recycles (act.run v) := by
  refine ⟨fun other => Act.issued_run hw hn hlt, fun other hissued hlive => ?_⟩
  by_cases hopens : act.Opens other
  · -- the id that was given out is new
    cases act with
    | opened id target conn poll =>
        obtain ⟨-, -, -, hid, -, -, ha⟩ := enabled
        rw [← hopens, hid] at hissued
        exact absurd hissued (Arena.not_issued_fst_insert hw.arena ha)
    | noted _ | asked _ _ _ | poolCreated _ _ | openFailed _ _ _ _ | openSpoiled _ _ _
    | stepped _ _ _ | lent _ _ _ _ _ _ | takenBack _ _ _ _ | adopted _ _ _ _ | tagged _ _ _
    | deferred _ _ _ | finished _ _ _ | poolsDropped => exact hopens.elim
  · exact Act.live_of_run enabled hw hopens hlive

/-! ## Paths -/

theorem Path.recycles {v v' : View ρ κ} {acts : List (Act ρ κ)} (h : Path v acts v')
    (hw : v.ctx.Orderly) {n : Nat} (hn : v.ctx.conns.AtMostRemoved n)
    (hlt : n + removals acts < 2 ^ 32) :
    v'.ctx.conns.AtMostRemoved (n + removals acts) ∧ v.Recycles v' := by
  -- over the path; the bound on removals grows by what each act removes
  induction h generalizing n with
  | nil v => exact ⟨hn, .refl v⟩
  | @cons v v' act acts enabled _ ih =>
      rw [removals_cons, ← Nat.add_assoc] at hlt ⊢
      obtain ⟨hn', hrest⟩ := ih (Act.orderly_run enabled hw) (Act.atMostRemoved_run hw hn) hlt
      exact ⟨hn', (Act.recycles_run enabled hw hn (by omega)).trans hrest⟩

end ConnPool
