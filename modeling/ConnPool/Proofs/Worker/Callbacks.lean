/-
  ConnPool.Proofs.Worker.Callbacks

  A ledger of callbacks, act by act.

  A caller hands over callbacks of two kinds, and a connection has a hook for
  each.  What an act takes from the caller is hung on a hook or called, and
  what leaves a hook is called or dropped:

      held before + taken  =  held after + called + dropped

  for each callback, as numbers of times.
-/

import ConnPool.Proofs.Context.Census
import ConnPool.Proofs.Worker.Coherent
import ConnPool.Proofs.Worker.Told

namespace ConnPool

variable {ρ κ : Type}

/-- The kinds of callbacks. -/
inductive Hook where
  | connect
  | disconnect
  deriving DecidableEq

/-- The callback of a kind that a connection keeps. -/
def Connection.hung (conn : Connection ρ κ) : Hook → Option κ
  | .connect => conn.onConnect
  | .disconnect => conn.onDisconnect

/-- The callback of a kind that comes with the opening of a connection. -/
def Connection.brought (conn : Connection ρ κ) : Hook → Option κ
  | .connect => conn.onConnect
  | .disconnect => none

theorem Connection.IsNew.brought_eq {conn : Connection ρ κ} (hnew : conn.IsNew) (hook : Hook) :
    conn.brought hook = conn.hung hook := by
  cases hook with
  | connect => rfl
  | disconnect =>
      show none = conn.onDisconnect
      rw [hnew]

/-- What an ending takes from its caller. -/
def Ending.taken : Ending κ → Hook → Option κ
  | disconnected onDisconnect, .disconnect => onDisconnect
  | _, _ => none

/-- What an ending drops without calling it. -/
def Ending.dropped (conn : Connection ρ κ) : Ending κ → Hook → Option κ
  | deferred, .connect => conn.onConnect
  | dismissed _, hook => conn.hung hook
  | _, _ => none

namespace Act

/-- What an act takes from its caller. -/
def taken : Act ρ κ → Hook → Option κ
  | opened _ _ conn _, hook | openFailed _ _ conn _, hook => conn.brought hook
  | lent _ _ _ _ onConnect _, .connect => onConnect
  | deferred _ _ onDisconnect, .disconnect => onDisconnect
  | finished _ _ ending, hook => ending.taken hook
  | _, _ => none

/-- What an act drops without calling it. -/
def dropped : Act ρ κ → Hook → Option κ
  | takenBack _ conn _ _, hook | adopted _ conn _ _, hook => conn.hung hook
  | deferred _ conn _, .disconnect => conn.onDisconnect
  | finished _ conn ending, hook => ending.dropped conn hook
  | _, _ => none

end Act

theorem Ending.EndsOpening.failure {ending : Ending κ} (h : ending.EndsOpening) :
    ∃ error, ending.failure? = some error := by
  cases ending with
  | bad kind reason | pollFailed reason | refused poll reason => exact ⟨_, rfl⟩
  | abandoned _ _ | deferred | disconnected _ | lost _ _ | shrunk _ _ | dismissed _ | shutDown =>
      exact h.elim

variable [DecidableEq κ]

/-- How often a callback is there, once or not at all. -/
def tally (held : Option κ) (callback : κ) : Nat :=
  if held = some callback then 1 else 0

@[simp] theorem tally_none (callback : κ) : tally none callback = 0 := rfl

/-- Whether an event calls a callback of a kind. -/
def Event.calls (hook : Hook) (callback : κ) : Event ρ κ → Bool
  | connectCalled cb .. => hook = .connect ∧ cb = callback
  | disconnectCalled cb .. => hook = .disconnect ∧ cb = callback
  | _ => false

theorem Event.matters_of_calls {hook : Hook} {callback : κ} (event : Event ρ κ)
    (h : event.calls hook callback = true) : event.matters = true := by
  cases event with
  | connectCalled _ _ _ _ | disconnectCalled _ _ _ _ => rfl
  | startRefused _ | started _ _ | nonblocking _ _ | polled _ _ | tornDown _ | registered _ _ _ _
  | deregistered _ | logged _ => cases h

theorem Event.IsReply.calls_eq_false {session : SessionNo} {hook : Hook} {callback : κ}
    {event : Event ρ κ} (h : event.IsReply session) : event.calls hook callback = false := by
  cases event with
  | connectCalled _ _ _ _ | disconnectCalled _ _ _ _ => exact h.elim
  | startRefused _ | started _ _ | nonblocking _ _ | polled _ _ | tornDown _ | registered _ _ _ _
  | deregistered _ | logged _ => rfl

/-! ## What is held -/

namespace Context

/-- How many live connections keep a callback. -/
def holds (ctx : Context ρ κ) (hook : Hook) (callback : κ) : Nat :=
  ctx.conns.entries.countP fun entry => entry.2.hung hook = some callback

variable {ctx : Context ρ κ} {id : ConnId} {conn : Connection ρ κ} (hook : Hook) (callback : κ)

/-- A connection counts among those that keep a callback if it keeps it. -/
theorem ite_hung :
    (if decide (conn.hung hook = some callback) = true then 1 else 0) =
      tally (conn.hung hook) callback := by
  simp only [tally, decide_eq_true_eq]

theorem holds_takeIn (hw : ctx.conns.WellFormed) (conn : Connection ρ κ) :
    (ctx.takeIn conn).holds hook callback =
      ctx.holds hook callback + tally (conn.hung hook) callback := by
  rw [← ite_hung]
  exact census_takeIn hw conn

theorem holds_without (h : ctx.conn? id = some conn) :
    ctx.holds hook callback =
      (ctx.without id conn).holds hook callback + tally (conn.hung hook) callback := by
  rw [← ite_hung]
  exact census_without h

theorem holds_modifyConn (h : ctx.conn? id = some conn) (f : Connection ρ κ → Connection ρ κ) :
    (ctx.modifyConn id f).holds hook callback + tally (conn.hung hook) callback =
      ctx.holds hook callback + tally ((f conn).hung hook) callback := by
  rw [← ite_hung, ← ite_hung]
  exact census_modifyConn h f

theorem holds_transfer (h : ctx.conn? id = some conn) (f : Connection ρ κ → Connection ρ κ) :
    (ctx.transfer id conn f).holds hook callback + tally (conn.hung hook) callback =
      ctx.holds hook callback + tally ((f conn).hung hook) callback := by
  rw [← ite_hung, ← ite_hung]
  exact census_transfer h f

theorem holds_pos_iff (ha : ctx.conns.Addressable) :
    0 < ctx.holds hook callback ↔
      ∃ id conn, ctx.conn? id = some conn ∧ conn.hung hook = some callback := by
  have hcensus := census_pos_iff (p := fun entry => decide (entry.2.hung hook = some callback)) ha
  simp only [decide_eq_true_eq] at hcensus
  exact hcensus

/-- A callback that is held once is held by one connection. -/
theorem eq_of_holds_le_one (ha : ctx.conns.Addressable) (hle : ctx.holds hook callback ≤ 1)
    {other : ConnId} {conn' : Connection ρ κ} (hconn : ctx.conn? id = some conn)
    (hhung : conn.hung hook = some callback) (hother : ctx.conn? other = some conn')
    (hhung' : conn'.hung hook = some callback) : other = id :=
  eq_of_census_le_one ha hle hconn (decide_eq_true hhung) hother (decide_eq_true hhung')

/-- What is put in and taken out again is held no longer. -/
theorem holds_attempt (hw : ctx.conns.WellFormed) (ha : (ctx.conns.insert conn).2.Addressable) :
    (ctx.attempt conn).holds hook callback = ctx.holds hook callback :=
  census_attempt hw ha

end Context

/-! ## What is called -/

section

variable {conn : Connection ρ κ} {id : ConnId} {status : Status} (hook : Hook) (callback : κ)

@[simp] theorem countP_connectCall :
    (conn.connectCall id status).countP (Event.calls hook callback) =
      if hook = .connect then tally conn.onConnect callback else 0 := by
  rw [Connection.connectCall]
  cases conn.onConnect with
  | none => simp
  | some held => cases hook <;> simp [Event.calls, tally, List.countP_cons]

@[simp] theorem countP_disconnectCall :
    (conn.disconnectCall id status).countP (Event.calls hook callback) =
      if hook = .disconnect then tally conn.onDisconnect callback else 0 := by
  rw [Connection.disconnectCall]
  cases conn.onDisconnect with
  | none => simp
  | some held => cases hook <;> simp [Event.calls, tally, List.countP_cons]

/-- A failed handshake calls all that is kept. -/
theorem countP_failureCalls (hpending : conn.onDisconnect ≠ none → conn.disconnectPending = true)
    (error : PoolError) :
    (conn.failureCalls id error).countP (Event.calls hook callback) =
      tally (conn.hung hook) callback := by
  rw [Connection.failureCalls, List.countP_append, countP_connectCall]
  by_cases hwaits : conn.disconnectPending = true
  · rw [if_pos hwaits, countP_disconnectCall]
    cases hook <;> simp [Connection.hung]
  · have hnone : conn.onDisconnect = none :=
      Decidable.byContradiction fun hsome => hwaits (hpending hsome)
    rw [if_neg hwaits]
    cases hook <;> simp [Connection.hung, hnone]

/-! ## Endings -/

theorem Ending.countP_told_of_failure {ending : Ending κ} {error : PoolError}
    (hfailure : ending.failure? = some error)
    (hpending : conn.onDisconnect ≠ none → conn.disconnectPending = true) :
    (ending.told id conn).countP (Event.calls hook callback) = tally (conn.hung hook) callback := by
  cases ending with
  | bad _ _ | pollFailed _ | refused _ _ | abandoned _ _ =>
      exact countP_failureCalls hook callback hpending _
  | deferred | disconnected _ | lost _ _ | shrunk _ _ | dismissed _ | shutDown => cases hfailure

/-- What a connection keeps at its end, and what its ending takes, is called or
    dropped. -/
theorem Ending.tally_eq (id : ConnId) (hook : Hook) (callback : κ) {ending : Ending κ}
    (hc : conn.Coherent) (hfits : ending.Fits conn) :
    tally (conn.hung hook) callback + tally (ending.taken hook) callback =
      (ending.told id conn).countP (Event.calls hook callback) +
        tally (ending.dropped conn hook) callback := by
  cases ending with
  -- only an opening ends so
  | bad kind reason => exact hfits.elim
  | pollFailed reason | refused poll reason | abandoned event reason =>
      rw [countP_told_of_failure hook callback rfl hc.pending]
      rfl
  | deferred =>
      rw [Ending.told, countP_disconnectCall]
      cases hook <;> simp [Connection.hung, taken, dropped]
  | disconnected onDisconnect =>
      -- connected or idle, it keeps nothing: what is called is what came along
      have hnone : conn.onConnect = none ∧ conn.onDisconnect = none := by
        rcases hfits with hstate | hfree
        · exact ⟨(hc.connected hstate).1, hc.onDisconnect_of_connected hstate⟩
        · exact ⟨(hc.free hfree).2.1, (hc.free hfree).2.2.1⟩
      rw [Ending.told, countP_disconnectCall]
      cases hook <;> simp [Connection.hung, taken, dropped, hnone]
  | lost event reason =>
      rw [Ending.told, countP_disconnectCall]
      cases hook <;> simp [Connection.hung, taken, dropped, (hc.connected hfits.1).1]
  | shrunk key load =>
      have hfree : conn.membership.isFree = true := by
        rw [show conn.membership = .free key from hfits]
        rfl
      rw [Ending.told, countP_disconnectCall]
      cases hook <;> simp [Connection.hung, taken, dropped, (hc.free hfree).2.1]
  | dismissed key =>
      cases hook <;> simp [told, taken, dropped]
  | shutDown =>
      rw [Ending.told, List.countP_append, countP_connectCall, countP_disconnectCall]
      cases hook <;> simp [Connection.hung, taken, dropped]

end

/-! ## Acts -/

section

variable (conn : Connection ρ κ) (id : ConnId) (hook : Hook) (callback : κ)

/-- A handshake step keeps a callback, or calls it. -/
theorem tally_stepped (poll : PollReport) :
    tally (conn.hung hook) callback =
      tally ((conn.stepped poll).hung hook) callback +
        (if poll = .ok then conn.connectCall id (.ok ()) else []).countP
          (Event.calls hook callback) := by
  by_cases hok : poll = .ok
  · cases hook <;> simp [Connection.hung, Connection.stepped, hok]
  · cases hook <;> simp [Connection.hung, Connection.stepped, hok]

/-- A connection that is lent keeps its new callback, or calls it. -/
theorem tally_lentBy {conn : Connection ρ κ} (hc : conn.Coherent)
    (hfree : conn.membership.isFree = true) (key : PoolKey)
    (request : Option ρ) (onConnect : Option κ) (load : PoolLoad) :
    tally (conn.hung hook) callback +
        tally ((Act.lent id conn key request onConnect load).taken hook) callback =
      tally ((conn.lentBy key request onConnect).hung hook) callback +
        (if conn.state = .connected then
            { conn with request, onConnect }.connectCall id (.ok ()) else []).countP
          (Event.calls hook callback) := by
  have hnone := (hc.free hfree).2.1
  by_cases hstate : conn.state = .connected
  · cases hook <;> simp [Connection.hung, Connection.lentBy, Act.taken, hstate, hnone]
  · cases hook <;> simp [Connection.hung, Connection.lentBy, Act.taken, hstate, hnone]

theorem tally_returnedTo (key : PoolKey) :
    tally ((conn.returnedTo key).hung hook) callback = 0 := by
  cases hook <;> rfl

theorem tally_adoptedBy (key : PoolKey) :
    tally ((conn.adoptedBy key).hung hook) callback = 0 := by
  cases hook <;> rfl

theorem tally_awaiting (onDisconnect : Option κ) :
    tally (conn.hung hook) callback +
        tally ((Act.deferred id conn onDisconnect).taken hook) callback =
      tally ((conn.awaiting onDisconnect).hung hook) callback +
        tally ((Act.deferred id conn onDisconnect).dropped hook) callback := by
  cases hook with
  | connect => rfl
  | disconnect => exact Nat.add_comm _ _

end

section

variable {v : View ρ κ} {id : ConnId} {target : Target} {conn : Connection ρ κ} (hook : Hook)
  (callback : κ)

/-- A connection that is opened keeps what it brings, or its first step calls
    it. -/
theorem holds_takeIn_stepped (hw : v.ctx.Orderly) (hnew : conn.IsNew) (poll : PollReport) :
    v.ctx.holds hook callback + tally (conn.brought hook) callback =
      (v.ctx.takeIn (conn.stepped poll)).holds hook callback +
        (Act.opened id target conn poll).told.countP (Event.calls hook callback) := by
  have hheld := Context.holds_takeIn hook callback hw.arena (conn.stepped poll)
  have hstep := tally_stepped conn id hook callback poll
  rw [hnew.brought_eq]
  simp only [Act.told]
  omega

/-- A connection whose opening fails keeps nothing, and all that it brought is
    called. -/
theorem holds_attempt_told {ending : Ending κ} (hw : v.ctx.Orderly) (hnew : conn.IsNew)
    (hends : ending.EndsOpening) (ha : (v.ctx.conns.insert conn).2.Addressable) :
    v.ctx.holds hook callback + tally (conn.brought hook) callback =
      (v.ctx.attempt conn).holds hook callback +
        (Act.openFailed id target conn ending).told.countP (Event.calls hook callback) := by
  obtain ⟨error, hfailure⟩ := hends.failure
  have hpending : conn.onDisconnect ≠ none → conn.disconnectPending = true :=
    fun hsome => absurd (by rw [hnew]) hsome
  have hheld := Context.holds_attempt hook callback hw.arena ha
  have htold : (ending.told id conn).countP (Event.calls hook callback) = _ :=
    Ending.countP_told_of_failure hook callback hfailure hpending
  have htorn : [Event.tornDown conn.session].countP
    (Event.calls hook callback : Event ρ κ → Bool) = 0 := rfl
  rw [Act.told, List.countP_append, htold, htorn, hnew.brought_eq]
  omega

end

/-- Each act balances the ledger. -/
theorem Act.holds_run {v : View ρ κ} {act : Act ρ κ} (enabled : act.Enabled v)
    (hw : v.ctx.Orderly) (hc : v.ctx.Coherent) (hook : Hook) (callback : κ) :
    v.ctx.holds hook callback + tally (act.taken hook) callback =
      (act.run v).ctx.holds hook callback + act.events.countP (Event.calls hook callback) +
        tally (act.dropped hook) callback := by
  -- only what is told of matters, and of that the calls
  rw [Act.countP_events enabled Event.matters_of_calls]
  cases act with
  | noted _ | poolCreated _ _ | openSpoiled _ _ _ | poolsDropped => rfl
  | asked id conn events =>
      -- a session that is asked calls nobody back
      have hnone : (asked id conn events).told.countP (Event.calls hook callback) = 0 :=
        List.countP_eq_zero.2 fun event hmem => by
          rw [(enabled.2 event (List.mem_filter.1 hmem).1).calls_eq_false]
          exact Bool.false_ne_true
      rw [hnone]
      rfl
  | opened id target conn poll => exact holds_takeIn_stepped hook callback hw enabled.1 poll
  | openFailed id target conn ending =>
      obtain ⟨hnew, -, hends, -, ha⟩ := enabled
      exact holds_attempt_told hook callback hw hnew hends ha
  | stepped id conn poll =>
      have hheld := Context.holds_modifyConn hook callback enabled.1 (·.stepped poll)
      have hstep := tally_stepped conn id hook callback poll
      show _ + 0 = (v.ctx.modifyConn id _).holds hook callback +
        (stepped id conn poll).told.countP (Event.calls hook callback) + 0
      simp only [told]
      omega
  | lent id conn key request onConnect load =>
      have hfree : conn.membership.isFree = true := by
        rw [enabled.2]
        rfl
      have hheld := Context.holds_transfer hook callback enabled.1 (·.lentBy key request onConnect)
      have hlent := tally_lentBy id hook callback (hc id conn enabled.1) hfree key request onConnect
        load
      show _ = (v.ctx.transfer id conn _).holds hook callback +
        (lent id conn key request onConnect load).told.countP (Event.calls hook callback) + 0
      simp only [told]
      omega
  | takenBack id conn key load =>
      have hheld := Context.holds_transfer hook callback enabled.1 (·.returnedTo key)
      have hback := tally_returnedTo conn hook callback key
      show _ + 0 =
        (v.ctx.transfer id conn _).holds hook callback + 0 + tally (conn.hung hook) callback
      omega
  | adopted id conn key size =>
      have hheld := Context.holds_transfer hook callback enabled.1 (·.adoptedBy key)
      have hback := tally_adoptedBy conn hook callback key
      show _ + 0 =
        (v.ctx.transfer id conn _).holds hook callback + 0 + tally (conn.hung hook) callback
      omega
  | tagged id conn key =>
      have hheld := Context.holds_modifyConn hook callback enabled.1
        ({ · with overflowOf := some key })
      have htag : tally (Connection.hung { conn with overflowOf := some key } hook) callback =
          tally (conn.hung hook) callback := by
        cases hook <;> rfl
      show _ + 0 = (v.ctx.modifyConn id _).holds hook callback + 0 + 0
      omega
  | deferred id conn onDisconnect =>
      have hheld := Context.holds_modifyConn hook callback enabled.1 (·.awaiting onDisconnect)
      have hwaits := tally_awaiting conn id hook callback onDisconnect
      show _ = (v.ctx.modifyConn id _).holds hook callback + 0 + _
      omega
  | finished id conn ending =>
      have hheld := Context.holds_without hook callback enabled.1
      have hends := Ending.tally_eq id hook callback (hc id conn enabled.1) enabled.2
      rw [told, List.countP_append]
      show _ + tally (ending.taken hook) callback = (v.ctx.without id conn).holds hook callback +
        (_ + 0) + tally (ending.dropped conn hook) callback
      omega

/-! ## Paths -/

/-- How often acts take a callback from their caller. -/
def takenBy (acts : List (Act ρ κ)) (hook : Hook) (callback : κ) : Nat :=
  (acts.map fun act => tally (act.taken hook) callback).sum

/-- How often acts drop a callback. -/
def droppedBy (acts : List (Act ρ κ)) (hook : Hook) (callback : κ) : Nat :=
  (acts.map fun act => tally (act.dropped hook) callback).sum

/-- A path balances the ledger. -/
theorem Path.holds_eq {v v' : View ρ κ} {acts : List (Act ρ κ)} (h : Path v acts v')
    (hw : v.ctx.Orderly) (hc : v.ctx.Coherent) (hook : Hook) (callback : κ) :
    v.ctx.holds hook callback + takenBy acts hook callback =
      v'.ctx.holds hook callback +
        (acts.flatMap Act.events).countP (Event.calls hook callback) +
          droppedBy acts hook callback := by
  induction h with
  | nil => rfl
  | @cons v v' act acts enabled _ ih =>
      have hact := Act.holds_run enabled hw hc hook callback
      have hrest := ih (Act.orderly_run enabled hw) (Act.coherent_run enabled hw hc)
      have htaken : takenBy (act :: acts) hook callback =
          tally (act.taken hook) callback + takenBy acts hook callback := rfl
      have hdropped : droppedBy (act :: acts) hook callback =
          tally (act.dropped hook) callback + droppedBy acts hook callback := rfl
      rw [List.flatMap_cons, List.countP_append]
      omega

end ConnPool
