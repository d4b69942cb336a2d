/-
  ConnPool.Proofs.Worker.Sessions

  What becomes of sessions and their sockets, act by act.

  A session is owned by a connection from its start until it is torn down:

      owned before, started  =  owned after, torn down

  as sessions, each as often on the left as on the right.  And the sockets that
  an operation has the event loop forget are those of the connections that it
  ends, one by one, each before the callbacks are told and the session ends.
-/

import ConnPool.Proofs.Context.Census
import ConnPool.Proofs.Worker.Resources

namespace ConnPool

variable {ρ κ : Type}

namespace Event

/-- The session that an event starts, if it starts one. -/
def started? : Event ρ κ → Option SessionNo
  | started session _ => some session
  | _ => none

/-- The session that an event ends, if it ends one. -/
def tornDown? : Event ρ κ → Option SessionNo
  | tornDown session => some session
  | _ => none

/-- The socket that an event has the event loop forget, if any. -/
def deregistered? : Event ρ κ → Option Int
  | deregistered socket => some socket
  | _ => none

variable {event : Event ρ κ}

theorem started?_eq_none (h : event.isResource = false) : event.started? = none := by
  cases event with
  | started _ _ => cases h
  | startRefused _ | nonblocking _ _ | polled _ _ | tornDown _ | registered _ _ _ _
  | deregistered _ | connectCalled _ _ _ _ | disconnectCalled _ _ _ _ | logged _ => rfl

theorem tornDown?_eq_none (h : event.isResource = false) : event.tornDown? = none := by
  cases event with
  | tornDown _ => cases h
  | startRefused _ | started _ _ | nonblocking _ _ | polled _ _ | registered _ _ _ _
  | deregistered _ | connectCalled _ _ _ _ | disconnectCalled _ _ _ _ | logged _ => rfl

theorem deregistered?_eq_none (h : event.isResource = false) : event.deregistered? = none := by
  cases event with
  | deregistered _ => cases h
  | startRefused _ | started _ _ | nonblocking _ _ | polled _ _ | tornDown _ | registered _ _ _ _
  | connectCalled _ _ _ _ | disconnectCalled _ _ _ _ | logged _ => rfl

end Event

/-! ## Sessions -/

/-- The sessions of all live connections, in slot order. -/
def Context.sessions (ctx : Context ρ κ) : List SessionNo :=
  ctx.conns.entries.map fun entry => entry.2.session

namespace Context

variable {ctx : Context ρ κ} {id : ConnId} {conn : Connection ρ κ}

theorem sessions_takeIn (hw : ctx.conns.WellFormed) (conn : Connection ρ κ) :
    (ctx.takeIn conn).sessions.Perm (conn.session :: ctx.sessions) :=
  (entries_takeIn_perm hw conn).map _

theorem sessions_without (h : ctx.conn? id = some conn) :
    ctx.sessions.Perm (conn.session :: (ctx.without id conn).sessions) :=
  (entries_without_perm h).map _

theorem sessions_attempt (hw : ctx.conns.WellFormed)
    (ha : (ctx.conns.insert conn).2.Addressable) : (ctx.attempt conn).sessions.Perm ctx.sessions :=
  (entries_attempt_perm hw ha).map _

theorem sessions_modifyConn (h : ctx.conn? id = some conn) {f : Connection ρ κ → Connection ρ κ}
    (hf : (f conn).session = conn.session) : ctx.sessions.Perm (ctx.modifyConn id f).sessions := by
  have hafter := (entries_modifyConn_perm h f).map fun entry : ConnId × Connection ρ κ =>
    entry.2.session
  rw [List.map_cons, hf] at hafter
  exact (sessions_without h).trans hafter.symm

theorem sessions_transfer (h : ctx.conn? id = some conn) {f : Connection ρ κ → Connection ρ κ}
    (hf : (f conn).session = conn.session) :
    ctx.sessions.Perm (ctx.transfer id conn f).sessions := by
  rw [sessions, sessions, conns_transfer]
  exact sessions_modifyConn h hf

end Context

namespace Act

variable {v : View ρ κ} {act : Act ρ κ}

/-- A session that is started is owned, and one that is owned no longer is torn
    down. -/
theorem sessions_run (enabled : act.Enabled v) (hw : v.ctx.Orderly) (hv : v.ctx.Watched) :
    (v.ctx.sessions ++ act.events.filterMap Event.started?).Perm
      ((act.run v).ctx.sessions ++ act.events.filterMap Event.tornDown?) := by
  rw [filterMap_resources enabled hv fun _ => Event.started?_eq_none,
    filterMap_resources enabled hv fun _ => Event.tornDown?_eq_none]
  cases act with
  | noted _ | asked _ _ _ | poolCreated _ _ | openSpoiled _ _ _ | poolsDropped => exact .refl _
  | opened id target conn poll =>
      have hnew := Context.sessions_takeIn hw.arena (conn.stepped poll)
      show (v.ctx.sessions ++ [conn.session]).Perm
        ((v.ctx.takeIn (conn.stepped poll)).sessions ++ [])
      rw [List.append_nil]
      exact List.perm_append_comm.trans hnew.symm
  | openFailed id target conn ending =>
      have hsame := Context.sessions_attempt hw.arena enabled.2.2.2.2
      exact hsame.symm.append_right [conn.session]
  | stepped id conn poll =>
      exact (Context.sessions_modifyConn (f := (·.stepped poll)) enabled.1 rfl).append_right []
  | deferred id conn onDisconnect =>
      exact (Context.sessions_modifyConn (f := (·.awaiting onDisconnect)) enabled.1
        rfl).append_right []
  | tagged id conn key =>
      exact (Context.sessions_modifyConn (f := ({ · with overflowOf := some key })) enabled.1
        rfl).append_right []
  | lent id conn key request onConnect load =>
      exact (Context.sessions_transfer (f := (·.lentBy key request onConnect)) enabled.1
        rfl).append_right []
  | takenBack id conn key load =>
      exact (Context.sessions_transfer (f := (·.returnedTo key)) enabled.1 rfl).append_right []
  | adopted id conn key size =>
      exact (Context.sessions_transfer (f := (·.adoptedBy key)) enabled.1 rfl).append_right []
  | finished id conn ending =>
      have hgone := Context.sessions_without enabled.1
      show (v.ctx.sessions ++ []).Perm ((v.ctx.without id conn).sessions ++ [conn.session])
      rw [List.append_nil]
      exact hgone.trans (List.perm_append_singleton _ _).symm

/-- Sessions are numbered in the order of their starts. -/
theorem started_eq (enabled : act.Enabled v) (hv : v.ctx.Watched) :
    act.events.filterMap Event.started? = List.range' v.started act.starts := by
  rw [filterMap_resources enabled hv fun _ => Event.started?_eq_none]
  cases act with
  | noted _ | asked _ _ _ | poolCreated _ _ | stepped _ _ _ | lent _ _ _ _ _ _ | takenBack _ _ _ _
  | adopted _ _ _ _ | tagged _ _ _ | deferred _ _ _ | finished _ _ _ | poolsDropped => rfl
  | opened id target conn poll =>
      show [conn.session] = [v.started]
      rw [enabled.2.1]
  | openFailed id target conn ending =>
      show [conn.session] = [v.started]
      rw [enabled.2.1]
  | openSpoiled session target reason =>
      show [session] = [v.started]
      rw [show session = v.started from enabled]

end Act

/-- The sessions that were started are numbered from zero, and each of them is
    owned by a live connection or was torn down. -/
structure View.Kept (v : View ρ κ) : Prop where
  numbered : v.trace.filterMap Event.started? = List.range v.started
  kept : (v.trace.filterMap Event.started?).Perm
    (v.ctx.sessions ++ v.trace.filterMap Event.tornDown?)

namespace View.Kept

variable {v : View ρ κ}

/-- No session is started twice. -/
theorem nodup_started (h : v.Kept) : (v.trace.filterMap Event.started?).Nodup := by
  rw [h.numbered]
  exact List.nodup_range

/-- No session is owned twice, torn down twice, or both. -/
theorem nodup_kept (h : v.Kept) :
    (v.ctx.sessions ++ v.trace.filterMap Event.tornDown?).Nodup :=
  h.kept.nodup_iff.1 h.nodup_started

/-- A session that a connection owns was not torn down. -/
theorem not_tornDown (h : v.Kept) {session : SessionNo} (howned : session ∈ v.ctx.sessions) :
    .tornDown session ∉ v.trace := by
  intro hmem
  have htorn : session ∈ v.trace.filterMap Event.tornDown? :=
    List.mem_filterMap.2 ⟨_, hmem, rfl⟩
  exact (List.nodup_append.1 h.nodup_kept).2.2 session howned session htorn rfl

end View.Kept

theorem Act.kept_run {v : View ρ κ} {act : Act ρ κ} (enabled : act.Enabled v)
    (hw : v.ctx.Orderly) (hv : v.ctx.Watched) (h : v.Kept) : (act.run v).Kept where
  numbered := by
    show (v.trace ++ act.events).filterMap _ = List.range (v.started + act.starts)
    rw [List.filterMap_append, h.numbered, started_eq enabled hv, List.range_eq_range',
      List.range_eq_range', ← List.range'_append_1, Nat.zero_add]
  kept := by
    show ((v.trace ++ act.events).filterMap _).Perm (_ ++ (v.trace ++ act.events).filterMap _)
    rw [List.filterMap_append, List.filterMap_append]
    -- what was torn down before stays aside while the act is balanced
    have hbefore := h.kept.append_right (act.events.filterMap Event.started?)
    have hstep := (sessions_run enabled hw hv).append_right (v.trace.filterMap Event.tornDown?)
    rw [List.append_assoc] at hbefore hstep
    refine (hbefore.trans (List.perm_append_comm.append_left _)).trans (hstep.trans ?_)
    rw [List.append_assoc]
    exact List.perm_append_comm.append_left _

theorem Path.kept {v v' : View ρ κ} {acts : List (Act ρ κ)} (h : Path v acts v')
    (hw : v.ctx.Orderly) (hv : v.ctx.Watched) (hkept : v.Kept) : v'.Kept := by
  induction h with
  | nil => exact hkept
  | cons enabled _ ih =>
      exact ih (Act.orderly_run enabled hw) (Act.watched_run enabled hw hv)
        (Act.kept_run enabled hw hv hkept)

end ConnPool
