/-
  ConnPool.Proofs.Worker.Coherent

  What the records of live connections say of their callers.

  A connect callback is kept only while the handshake runs, a disconnect
  callback only while a disconnect waits for it, and an idle connection keeps
  nothing of any caller.  Every act keeps the records so.
-/

import ConnPool.Proofs.Worker.Act

namespace ConnPool

variable {ρ κ : Type}

/-- The fields of a connection agree with each other. -/
structure Connection.Coherent (conn : Connection ρ κ) : Prop where
  not_closed : conn.state ≠ .closed
  connected : conn.state = .connected → conn.onConnect = none ∧ conn.disconnectPending = false
  free : conn.membership.isFree = true → conn.request = none ∧ conn.onConnect = none ∧
    conn.onDisconnect = none ∧ conn.disconnectPending = false
  pending : conn.onDisconnect ≠ none → conn.disconnectPending = true

namespace Connection

variable {conn : Connection ρ κ}

/-- What still waits for a call, waits for the handshake to end. -/
theorem Coherent.connecting (h : conn.Coherent) (hnot : conn.state ≠ .connected) :
    conn.state = .connecting := by
  cases hstate : conn.state with
  | closed => exact absurd hstate h.not_closed
  | connecting => rfl
  | connected => exact absurd hstate hnot

theorem Coherent.onDisconnect_of_connected (h : conn.Coherent) (hstate : conn.state = .connected) :
    conn.onDisconnect = none := by
  by_cases hnone : conn.onDisconnect = none
  · exact hnone
  · have hpending := h.pending hnone
    rw [(h.connected hstate).2] at hpending
    cases hpending

/-- A connection that was opened, after its first step. -/
theorem IsNew.coherent_stepped (hnew : conn.IsNew)
    (hopen : conn.membership.CanOpen conn.request conn.onConnect) (poll : PollReport) :
    (conn.stepped poll).Coherent := by
  have hpending : conn.disconnectPending = false := by rw [hnew]
  have hdisconnect : conn.onDisconnect = none := by rw [hnew]
  constructor
  case not_closed =>
    simp only [stepped]
    split <;> simp
  case connected =>
    intro hstate
    simp only [stepped] at hstate ⊢
    split at hstate
    · rename_i hok
      exact ⟨if_pos hok, hpending⟩
    · cases hstate
  case free =>
    intro hfree
    rcases hopen with hregistry | ⟨-, hrequest, honConnect⟩
    · simp only [stepped, hregistry, Membership.isFree] at hfree
      cases hfree
    · refine ⟨hrequest, ?_, hdisconnect, hpending⟩
      simp only [stepped, honConnect, ite_self]
  case pending => exact fun hsome => absurd hdisconnect hsome

theorem Coherent.stepped (h : conn.Coherent) {poll : PollReport}
    (hkeeps : ¬(poll = .ok ∧ conn.disconnectPending = true)) : (conn.stepped poll).Coherent := by
  constructor
  case not_closed =>
    simp only [Connection.stepped]
    split <;> simp
  case connected =>
    intro hstate
    simp only [Connection.stepped] at hstate ⊢
    split at hstate
    · rename_i hok
      exact ⟨if_pos hok, Bool.eq_false_iff.2 fun hpending => hkeeps ⟨hok, hpending⟩⟩
    · cases hstate
  case free =>
    intro hfree
    obtain ⟨hrequest, honConnect, hrest⟩ := h.free hfree
    refine ⟨hrequest, ?_, hrest⟩
    simp only [Connection.stepped, honConnect, ite_self]
  case pending => exact h.pending

theorem Coherent.lentBy (h : conn.Coherent) (hfree : conn.membership.isFree = true) (key : PoolKey)
    (request : Option ρ) (onConnect : Option κ) : (conn.lentBy key request onConnect).Coherent where
  not_closed := h.not_closed
  connected hstate := ⟨if_pos hstate, (h.free hfree).2.2.2⟩
  free hbusy := by cases hbusy
  pending := h.pending

theorem Coherent.withoutCaller (h : conn.Coherent) (membership : Membership)
    (overflowOf : Option PoolKey) :
    Coherent { conn.withoutCaller with membership, overflowOf } where
  not_closed := h.not_closed
  connected _ := ⟨rfl, rfl⟩
  free _ := ⟨rfl, rfl, rfl, rfl⟩
  pending hsome := absurd rfl hsome

theorem Coherent.awaiting (h : conn.Coherent) (hstate : conn.state ≠ .connected)
    (hbusy : conn.membership.isFree = false) (onDisconnect : Option κ) :
    (conn.awaiting onDisconnect).Coherent where
  not_closed := h.not_closed
  connected hconnected := absurd hconnected hstate
  free hfree := by
    have hsame : conn.membership.isFree = true := hfree
    rw [hbusy] at hsame
    cases hsame
  pending _ := rfl

end Connection

/-- The records of all live connections agree with themselves. -/
def Context.Coherent (ctx : Context ρ κ) : Prop :=
  ∀ id conn, ctx.conn? id = some conn → conn.Coherent

/-- Every act keeps the records coherent. -/
theorem Act.coherent_run {v : View ρ κ} {act : Act ρ κ} (enabled : act.Enabled v)
    (hw : v.ctx.Orderly) (h : v.ctx.Coherent) : (act.run v).ctx.Coherent := by
  intro other conn' hconn'
  rcases conn?_of_run enabled hw hconn' with hold | hchange
  · exact h other conn' hold
  · cases act with
    | noted _ | asked _ _ _ | poolCreated _ _ | openFailed _ _ _ _ | openSpoiled _ _ _
    | poolsDropped | finished _ _ _ => cases hchange
    | opened id target conn poll =>
        cases hchange
        obtain ⟨hnew, -, -, -, hopen, -, -⟩ := enabled
        exact hnew.coherent_stepped hopen poll
    | stepped id conn poll =>
        cases hchange
        obtain ⟨hconn, -, -, hkeeps⟩ := enabled
        exact (h _ conn hconn).stepped hkeeps
    | lent id conn key request onConnect load =>
        cases hchange
        obtain ⟨hconn, hmembership⟩ := enabled
        have hfree : conn.membership.isFree = true := by
          rw [hmembership]
          rfl
        exact (h _ conn hconn).lentBy hfree key request onConnect
    | takenBack id conn key load =>
        cases hchange
        exact (h _ conn enabled.1).withoutCaller (.free key) conn.overflowOf
    | adopted id conn key size =>
        cases hchange
        exact (h _ conn enabled.1).withoutCaller (.free key) none
    | tagged id conn key =>
        cases hchange
        have hcoherent := h _ conn enabled.1
        exact ⟨hcoherent.not_closed, hcoherent.connected, hcoherent.free, hcoherent.pending⟩
    | deferred id conn onDisconnect =>
        cases hchange
        obtain ⟨hconn, hstate, hbusy⟩ := enabled
        exact (h _ conn hconn).awaiting hstate hbusy onDisconnect

theorem Path.coherent {v v' : View ρ κ} {acts : List (Act ρ κ)} (h : Path v acts v')
    (hw : v.ctx.Orderly) (hc : v.ctx.Coherent) : v'.ctx.Coherent := by
  induction h with
  | nil => exact hc
  | cons enabled _ ih => exact ih (Act.orderly_run enabled hw) (Act.coherent_run enabled hw hc)

/-! ## Waiting disconnects -/

/-- A disconnect waits after an act if it waited before, or is recorded by the
    act. -/
theorem Act.pending_run {v : View ρ κ} {act : Act ρ κ} (enabled : act.Enabled v)
    (hw : v.ctx.Orderly) {id : ConnId} {conn' : Connection ρ κ}
    (hconn' : (act.run v).ctx.conn? id = some conn') (hpending : conn'.disconnectPending = true) :
    (∃ conn, v.ctx.conn? id = some conn ∧ conn.disconnectPending = true ∧
        conn.onDisconnect = conn'.onDisconnect) ∨
      ∃ conn, act = .deferred id conn conn'.onDisconnect := by
  rcases conn?_of_run enabled hw hconn' with hold | hchange
  · exact .inl ⟨conn', hold, hpending, rfl⟩
  · cases act with
    | noted _ | asked _ _ _ | poolCreated _ _ | openFailed _ _ _ _ | openSpoiled _ _ _
    | poolsDropped | finished _ _ _ => cases hchange
    | opened i target conn poll =>
        cases hchange
        -- a new connection has no disconnect waiting, and what is taken back loses it
        have hnone : conn.disconnectPending = false := by rw [enabled.1]
        exact absurd hpending (Bool.eq_false_iff.1 hnone)
    | stepped i conn _ | lent i conn _ _ _ _ | tagged i conn _ =>
        cases hchange
        exact .inl ⟨conn, enabled.1, hpending, rfl⟩
    | takenBack i conn _ _ | adopted i conn _ _ =>
        cases hchange
        cases hpending
    | deferred i conn onDisconnect =>
        cases hchange
        exact .inr ⟨conn, rfl⟩

theorem Path.pending {v v' : View ρ κ} {acts : List (Act ρ κ)} (h : Path v acts v')
    (hw : v.ctx.Orderly) {id : ConnId} {conn' : Connection ρ κ}
    (hconn' : v'.ctx.conn? id = some conn') (hpending : conn'.disconnectPending = true) :
    (∃ conn, v.ctx.conn? id = some conn ∧ conn.disconnectPending = true ∧
        conn.onDisconnect = conn'.onDisconnect) ∨
      ∃ conn, .deferred id conn conn'.onDisconnect ∈ acts := by
  -- over the path, read from its end: where it waits last it waited before or was recorded
  induction h with
  | nil => exact .inl ⟨conn', hconn', hpending, rfl⟩
  | cons enabled _ ih =>
      rcases ih (Act.orderly_run enabled hw) hconn' with ⟨conn, hconn, hwaits, heq⟩ | ⟨conn, hmem⟩
      · rcases Act.pending_run enabled hw hconn hwaits with
          ⟨conn₀, hconn₀, hwaits₀, heq₀⟩ | ⟨conn₀, rfl⟩
        · exact .inl ⟨conn₀, hconn₀, hwaits₀, heq₀.trans heq⟩
        · rw [heq]
          exact .inr ⟨conn₀, List.mem_cons_self⟩
      · exact .inr ⟨conn, List.mem_cons_of_mem _ hmem⟩

end ConnPool
