/-
  ConnPool.Proofs.Worker.Waiting

  How long a disconnect callback waits.

  A disconnect that is recorded during a handshake leaves its callback with the
  connection.  There it stays for as long as the connection lives, unless the
  connection is taken back or another disconnect is recorded.
-/

import ConnPool.Proofs.Worker.Borrowing

namespace ConnPool

variable {ρ κ : Type}

/-- Whether the connection under `id` lives and keeps a disconnect callback. -/
def Context.Waits (ctx : Context ρ κ) (id : ConnId) (callback : κ) : Prop :=
  ∃ conn, ctx.conn? id = some conn ∧ conn.onDisconnect = some callback

/-- Whether an act records a disconnect of the connection under `id`. -/
def Act.Defers (id : ConnId) : Act ρ κ → Prop
  | deferred i _ _ => i = id
  | noted _ | asked .. | poolCreated .. | opened .. | openFailed .. | openSpoiled .. | stepped ..
  | lent .. | takenBack .. | adopted .. | tagged .. | finished .. | poolsDropped => False

theorem Act.BelongsTo.defers {operation : Operation ρ κ} {answer : Answer} {act : Act ρ κ}
    {id : ConnId} (h : act.BelongsTo operation answer) (hdefers : act.Defers id) :
    ∃ onDisconnect, operation.Disconnects answer id onDisconnect := by
  cases act with
  | deferred i conn onDisconnect =>
      obtain rfl : i = id := hdefers
      exact ⟨onDisconnect, h⟩
  | noted _ | asked _ _ _ | poolCreated _ _ | opened _ _ _ _ | openFailed _ _ _ _
  | openSpoiled _ _ _ | stepped _ _ _ | lent _ _ _ _ _ _ | takenBack _ _ _ _ | adopted _ _ _ _
  | tagged _ _ _ | finished _ _ _ | poolsDropped => exact hdefers.elim

/-- A callback waits through every act that does not concern it. -/
theorem Act.waits_run {v : View ρ κ} {act : Act ρ κ} (enabled : act.Enabled v)
    (hw : v.ctx.Orderly) {id : ConnId} {callback : κ} (hends : ¬act.Ends id)
    (hback : ¬act.TakesBack id) (hdefers : ¬act.Defers id) (h : v.ctx.Waits id callback) :
    (act.run v).ctx.Waits id callback := by
  refine stays_run enabled hw hends (P := fun conn => conn.onDisconnect = some callback) ?_ h
  intro old new hold hchange hopens hkeeps
  cases act with
  | noted _ | asked _ _ _ | poolCreated _ _ | openFailed _ _ _ _ | openSpoiled _ _ _
  | poolsDropped | finished _ _ _ => cases hchange
  | opened i target conn poll =>
      cases hchange
      exact absurd rfl hopens
  | takenBack i conn _ _ | adopted i conn _ _ =>
      cases hchange
      exact absurd rfl hback
  | deferred i conn onDisconnect =>
      cases hchange
      exact absurd rfl hdefers
  | stepped i conn _ | lent i conn _ _ _ _ | tagged i conn _ =>
      cases hchange
      have hconn := enabled.1
      rw [hconn] at hold
      obtain rfl := Option.some.inj hold
      exact hkeeps

theorem Path.waits {v v' : View ρ κ} {acts : List (Act ρ κ)} (h : Path v acts v')
    (hw : v.ctx.Orderly) {id : ConnId} {callback : κ}
    (hkeep : ∀ act ∈ acts, ¬act.Ends id ∧ ¬act.TakesBack id ∧ ¬act.Defers id)
    (hwaits : v.ctx.Waits id callback) : v'.ctx.Waits id callback := by
  induction h with
  | nil => exact hwaits
  | cons enabled _ ih =>
      obtain ⟨⟨hends, hback, hdefers⟩, hrest⟩ := List.forall_mem_cons.1 hkeep
      exact ih (Act.orderly_run enabled hw) hrest
        (Act.waits_run enabled hw hends hback hdefers hwaits)

namespace Course

variable {operation : Operation ρ κ} {answer : Answer} {acts : List (Act ρ κ)} {v v' : View ρ κ}
  {id : ConnId} {callback : κ}

/-- A callback waits through every operation that leaves its connection alive
    and neither takes it back nor disconnects it. -/
theorem waits (h : Course operation answer acts) (hpath : Path v acts v') (hw : v.ctx.Orderly)
    (hlive : (v'.ctx.conn? id).isSome) (hback : ¬operation.TakesBack answer id)
    (hagain : ∀ onDisconnect, ¬operation.Disconnects answer id onDisconnect)
    (hwaits : v.ctx.Waits id callback) : v'.ctx.Waits id callback := by
  refine hpath.waits hw (fun act hmem => ?_) hwaits
  have hbelongs := h.belongsTo act hmem
  refine ⟨h.not_ends_of_live hpath hw hlive act hmem, fun htakes => ?_, fun hdefers => ?_⟩
  · exact hback (hbelongs.takesBack htakes)
  · obtain ⟨onDisconnect, hdisconnects⟩ := hbelongs.defers hdefers
    exact hagain onDisconnect hdisconnects

/-- After a disconnect that leaves its connection alive, its callback waits. -/
theorem waits_of_disconnects (h : Course operation answer acts) (hpath : Path v acts v')
    (hw : v.ctx.Orderly) (hlive : (v'.ctx.conn? id).isSome)
    (hdisconnects : operation.Disconnects answer id (some callback)) :
    v'.ctx.Waits id callback := by
  have hends := h.not_ends_of_live hpath hw hlive
  obtain ⟨rfl, rfl⟩ := hdisconnects
  -- recorded, it waits; carried out, it would have ended the connection
  cases h with
  | deferred _ _ conn =>
      cases hpath with
      | cons enabled hrest =>
          cases hrest
          refine ⟨conn.awaiting (some callback), ?_, rfl⟩
          rw [Act.conn?_run enabled hw]
          exact if_pos rfl
  | disconnected _ _ conn => exact absurd rfl (hends _ List.mem_cons_self)

end Course
end ConnPool
