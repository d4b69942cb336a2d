/-
  ConnPool.Proofs.Worker.CallOrder

  The order in which the callbacks of one connection are called.

  While a connection lives, its callbacks are only called to tell borrower
  after borrower that it is connected.  The act that takes it out of the arena
  may tell a failure and then a disconnect, and it is the last one to call
  anything: from then on the id is stale, and acts on stale ids call nobody.
-/

import ConnPool.Proofs.Worker.Coherent
import ConnPool.Proofs.Worker.Naming
import ConnPool.Proofs.Worker.Told

namespace ConnPool

variable {ρ κ : Type}

/-! ## Calls -/

namespace Event

/-- A connect callback is told that its connection is connected. -/
def IsSuccess : Event ρ κ → Prop
  | connectCalled _ _ (.ok _) _ => True
  | connectCalled _ _ (.error _) _ | disconnectCalled .. | startRefused _ | started ..
  | nonblocking .. | polled .. | tornDown _ | registered .. | deregistered _ | logged _ => False

/-- A connect callback is told that its connection failed. -/
def IsFailure : Event ρ κ → Prop
  | connectCalled _ _ (.error _) _ => True
  | connectCalled _ _ (.ok _) _ | disconnectCalled .. | startRefused _ | started ..
  | nonblocking .. | polled .. | tornDown _ | registered .. | deregistered _ | logged _ => False

/-- A disconnect callback is called. -/
def IsFarewell : Event ρ κ → Prop
  | disconnectCalled .. => True
  | connectCalled .. | startRefused _ | started .. | nonblocking .. | polled .. | tornDown _
  | registered .. | deregistered _ | logged _ => False

theorem matters_of_addressee? {event : Event ρ κ} {id : ConnId}
    (h : event.addressee? = some id) : event.matters = true := by
  cases event with
  | connectCalled _ _ _ _ | disconnectCalled _ _ _ _ => rfl
  | startRefused _ | started _ _ | nonblocking _ _ | polled _ _ | tornDown _ | registered _ _ _ _
  | deregistered _ | logged _ => cases h

end Event

/-- The calls of callbacks of the connection under `id`, in order. -/
def callsFor (id : ConnId) (events : List (Event ρ κ)) : List (Event ρ κ) :=
  events.filter fun event => event.addressee? = some id

theorem mem_callsFor {id : ConnId} {events : List (Event ρ κ)} {event : Event ρ κ} :
    event ∈ callsFor id events ↔ event ∈ events ∧ event.addressee? = some id := by
  rw [callsFor, List.mem_filter, decide_eq_true_eq]

theorem callsFor_append (id : ConnId) (first second : List (Event ρ κ)) :
    callsFor id (first ++ second) = callsFor id first ++ callsFor id second :=
  List.filter_append ..

/-- Any number of successes, then at most one failure, then at most one
    disconnect. -/
def InOrder (calls : List (Event ρ κ)) : Prop :=
  ∃ successes failures farewells, calls = successes ++ failures ++ farewells ∧
    (∀ event ∈ successes, event.IsSuccess) ∧
    (∀ event ∈ failures, event.IsFailure) ∧ failures.length ≤ 1 ∧
    (∀ event ∈ farewells, event.IsFarewell) ∧ farewells.length ≤ 1

theorem InOrder.of_successes {calls : List (Event ρ κ)} (h : ∀ event ∈ calls, event.IsSuccess) :
    InOrder calls :=
  ⟨calls, [], [], by simp, h, List.forall_mem_nil _, Nat.zero_le _, List.forall_mem_nil _,
    Nat.zero_le _⟩

/-! ## Endings -/

section

variable {conn : Connection ρ κ} {id : ConnId}

theorem isSuccess_of_mem_connectCall :
    ∀ event ∈ conn.connectCall id (.ok ()), event.IsSuccess := by
  intro event hmem
  obtain ⟨callback, -, rfl⟩ := List.mem_map.1 hmem
  trivial

theorem isFailure_of_mem_connectCall {error : PoolError} :
    ∀ event ∈ conn.connectCall id (.error error), event.IsFailure := by
  intro event hmem
  obtain ⟨callback, -, rfl⟩ := List.mem_map.1 hmem
  trivial

theorem isFarewell_of_mem_disconnectCall {status : Status} :
    ∀ event ∈ conn.disconnectCall id status, event.IsFarewell := by
  intro event hmem
  obtain ⟨callback, -, rfl⟩ := List.mem_map.1 hmem
  trivial

theorem length_connectCall_le {status : Status} : (conn.connectCall id status).length ≤ 1 := by
  rw [Connection.connectCall, List.length_map]
  exact Option.length_toList_le

theorem length_disconnectCall_le {status : Status} :
    (conn.disconnectCall id status).length ≤ 1 := by
  rw [Connection.disconnectCall, List.length_map]
  exact Option.length_toList_le

/-- An ending tells at most one failure, and then at most one disconnect. -/
theorem Ending.told_split (id : ConnId) (conn : Connection ρ κ) (ending : Ending κ) :
    ∃ failures farewells, ending.told id conn = failures ++ farewells ∧
      (∀ event ∈ failures, event.IsFailure) ∧ failures.length ≤ 1 ∧
      (∀ event ∈ farewells, event.IsFarewell) ∧ farewells.length ≤ 1 := by
  cases ending with
  | bad _ _ | pollFailed _ | refused _ _ | abandoned _ _ =>
      refine ⟨_, _, rfl, isFailure_of_mem_connectCall, length_connectCall_le, ?_, ?_⟩
      · split
        · exact isFarewell_of_mem_disconnectCall
        · exact List.forall_mem_nil _
      · split
        · exact length_disconnectCall_le
        · exact Nat.zero_le 1
  | deferred | disconnected _ | lost _ _ | shrunk _ _ =>
      exact ⟨[], _, rfl, List.forall_mem_nil _, Nat.zero_le 1, isFarewell_of_mem_disconnectCall,
        length_disconnectCall_le⟩
  | dismissed _ =>
      exact ⟨[], [], rfl, List.forall_mem_nil _, Nat.zero_le 1, List.forall_mem_nil _,
        Nat.zero_le 1⟩
  | shutDown =>
      exact ⟨_, _, rfl, isFailure_of_mem_connectCall, length_connectCall_le,
        isFarewell_of_mem_disconnectCall, length_disconnectCall_le⟩

/-- After any number of successes, an ending's calls are in order. -/
theorem Ending.inOrder_told {calls : List (Event ρ κ)} (h : ∀ event ∈ calls, event.IsSuccess)
    (id : ConnId) (conn : Connection ρ κ) (ending : Ending κ) :
    InOrder (calls ++ ending.told id conn) := by
  obtain ⟨failures, farewells, htold, hrest⟩ := ending.told_split id conn
  exact ⟨calls, failures, farewells, by rw [htold, List.append_assoc], h, hrest⟩

end

/-! ## Statuses -/

/-- What a disconnect callback can be told. -/
def Status.EndsWait (status : Status) : Prop :=
  status = .ok () ∨ (∃ reason, status = .error (.handshake reason)) ∨
    ∃ reason, status = .error (.registration reason)

section

variable {conn : Connection ρ κ} {id i : ConnId} {callback : κ} {status : Status}
  {request : Option ρ}

theorem Connection.of_mem_disconnectCall {s : Status}
    (hmem : .disconnectCalled callback id status request ∈ conn.disconnectCall i s) :
    i = id ∧ conn.onDisconnect = some callback ∧ status = s ∧ request = conn.request := by
  obtain ⟨held, hheld, heq⟩ := List.mem_map.1 hmem
  cases heq
  exact ⟨rfl, Option.mem_toList.1 hheld, rfl, rfl⟩

theorem Connection.disconnectCalled_not_mem_connectCall {s : Status} :
    .disconnectCalled callback id status request ∉ conn.connectCall i s := by
  rw [connectCall]
  simp

theorem Connection.status_of_mem_failureCalls {error : PoolError}
    (hmem : .disconnectCalled callback id status request ∈ conn.failureCalls i error) :
    status = .error error := by
  rcases List.mem_append.1 hmem with hconnect | hdisconnect
  · exact absurd hconnect disconnectCalled_not_mem_connectCall
  · split at hdisconnect
    · exact (of_mem_disconnectCall hdisconnect).2.2.1
    · cases hdisconnect

/-- A disconnect callback is told of a handshake that ended, or of nothing
    amiss; a connection that is lost has none. -/
theorem Ending.endsWait_of_mem_told {ending : Ending κ}
    (hlost : ∀ event reason, ending = .lost event reason → conn.onDisconnect = none)
    (hmem : .disconnectCalled callback id status request ∈ ending.told i conn) :
    status.EndsWait := by
  cases ending with
  | bad _ reason | pollFailed reason | abandoned _ reason =>
      exact .inr (.inl ⟨reason, Connection.status_of_mem_failureCalls hmem⟩)
  | refused _ reason => exact .inr (.inr ⟨reason, Connection.status_of_mem_failureCalls hmem⟩)
  | deferred | disconnected _ | shrunk _ _ =>
      exact .inl (Connection.of_mem_disconnectCall hmem).2.2.1
  | lost event reason =>
      have hkept := (Connection.of_mem_disconnectCall hmem).2.1
      rw [hlost event reason rfl] at hkept
      cases hkept
  | dismissed _ => cases hmem
  | shutDown =>
      rcases List.mem_append.1 hmem with hconnect | hdisconnect
      · exact absurd hconnect Connection.disconnectCalled_not_mem_connectCall
      · exact .inl (Connection.of_mem_disconnectCall hdisconnect).2.2.1

end

/-! ## Stale ids -/

/-- The id has stood for a connection, and stands for none any more. -/
def Context.Stale (ctx : Context ρ κ) (id : ConnId) : Prop :=
  ctx.conns.Issued id ∧ ctx.conn? id = none

/-- Stale ids stay stale. -/
theorem View.Recycles.stale {v v' : View ρ κ} (h : v.Recycles v') {id : ConnId}
    (hstale : v.ctx.Stale id) : v'.ctx.Stale id := by
  refine ⟨h.issued id hstale.1, Option.not_isSome_iff_eq_none.1 fun hlive => ?_⟩
  have hback := h.live id hstale.1 hlive
  rw [hstale.2] at hback
  cases hback


/-! ## Acts -/

namespace Act

/-- Whether an act takes the connection under `id` out of the arena. -/
def Removes (id : ConnId) : Act ρ κ → Prop
  | openFailed i _ _ _ | finished i _ _ => i = id
  | noted _ | asked .. | poolCreated .. | opened .. | openSpoiled .. | stepped .. | lent ..
  | takenBack .. | adopted .. | tagged .. | deferred .. | poolsDropped => False

variable {v : View ρ κ} {act : Act ρ κ} {id : ConnId} {n : Nat}

/-- Acts do not call the callbacks of connections that are gone. -/
theorem not_stale_of_addressee? (enabled : act.Enabled v) (hw : v.ctx.Orderly)
    (h : act.addressee? = some id) : ¬v.ctx.Stale id := by
  rintro ⟨hissued, hgone⟩
  cases act with
  | opened i target conn poll =>
      obtain rfl : i = id := Option.some.inj h
      obtain ⟨-, -, -, hid, -, -, ha⟩ := enabled
      rw [hid] at hissued
      exact Arena.not_issued_fst_insert hw.arena ha hissued
  | openFailed i target conn ending =>
      obtain rfl : i = id := Option.some.inj h
      obtain ⟨-, -, -, hid, ha⟩ := enabled
      rw [hid] at hissued
      exact Arena.not_issued_fst_insert hw.arena ha hissued
  | stepped i conn _ | lent i conn _ _ _ _ | finished i conn _ =>
      obtain rfl : i = id := Option.some.inj h
      cases hgone.symm.trans enabled.1
  | noted _ | asked _ _ _ | poolCreated _ _ | openSpoiled _ _ _ | takenBack _ _ _ _
  | adopted _ _ _ _ | tagged _ _ _ | deferred _ _ _ | poolsDropped => cases h

/-- The connection that an act calls for has been given its id. -/
theorem issued_of_addressee? (enabled : act.Enabled v) (hw : v.ctx.Orderly)
    (hn : v.ctx.conns.AtMostRemoved n) (hlt : n + act.removes < 2 ^ 32)
    (h : act.addressee? = some id) : (act.run v).ctx.conns.Issued id := by
  cases act with
  | opened i _ _ _ | openFailed i _ _ _ =>
      obtain rfl : i = id := Option.some.inj h
      exact (issued_of_named enabled hw hn hlt rfl).2
  | stepped i conn _ | lent i conn _ _ _ _ | finished i conn _ =>
      obtain rfl : i = id := Option.some.inj h
      exact issued_run hw hn hlt (Arena.issued_of_get? enabled.1)
  | noted _ | asked _ _ _ | poolCreated _ _ | openSpoiled _ _ _ | takenBack _ _ _ _
  | adopted _ _ _ _ | tagged _ _ _ | deferred _ _ _ | poolsDropped => cases h

theorem addressee?_of_opens (h : act.Opens id) : act.addressee? = some id := by
  cases act with
  | opened i _ _ _ => exact congrArg some h
  | noted _ | asked _ _ _ | poolCreated _ _ | openFailed _ _ _ _ | openSpoiled _ _ _
  | stepped _ _ _ | lent _ _ _ _ _ _ | takenBack _ _ _ _ | adopted _ _ _ _ | tagged _ _ _
  | deferred _ _ _ | finished _ _ _ | poolsDropped => exact h.elim

/-- A connection that an act takes out leaves a stale id. -/
theorem stale_of_removes (enabled : act.Enabled v) (hw : v.ctx.Orderly)
    (hn : v.ctx.conns.AtMostRemoved n) (hlt : n + act.removes < 2 ^ 32) (h : act.Removes id) :
    (act.run v).ctx.Stale id := by
  cases act with
  | openFailed i target conn ending =>
      obtain rfl : i = id := h
      exact ⟨issued_of_addressee? enabled hw hn hlt rfl, conn?_run_openFailed hw enabled⟩
  | finished i conn ending =>
      exact ⟨issued_of_addressee? enabled hw hn hlt (congrArg some h), conn?_of_ends enabled hw h⟩
  | noted _ | asked _ _ _ | poolCreated _ _ | opened _ _ _ _ | openSpoiled _ _ _ | stepped _ _ _
  | lent _ _ _ _ _ _ | takenBack _ _ _ _ | adopted _ _ _ _ | tagged _ _ _ | deferred _ _ _
  | poolsDropped => exact h.elim

/-- Whose callbacks are called can be read off what an act tells. -/
theorem callsFor_events (enabled : act.Enabled v) (id : ConnId) :
    callsFor id act.events = callsFor id act.told := by
  rw [← filter_events enabled, callsFor, callsFor, List.filter_filter]
  refine List.filter_congr fun event _ => ?_
  by_cases h : event.addressee? = some id
  · simp [h, Event.matters_of_addressee? h]
  · simp [h]

theorem callsFor_events_eq_nil (enabled : act.Enabled v) (h : act.addressee? ≠ some id) :
    callsFor id act.events = [] :=
  List.filter_eq_nil_iff.2 fun _ hmem hevent =>
    h (addressee?_of_mem enabled hmem (of_decide_eq_true hevent))

/-- An act that does not take the connection out tells it successes only. -/
theorem isSuccess_of_not_removes (enabled : act.Enabled v) (hnot : ¬act.Removes id) :
    ∀ event ∈ callsFor id act.events, event.IsSuccess := by
  intro event hmem
  rw [callsFor_events enabled, mem_callsFor] at hmem
  obtain ⟨htold, hevent⟩ := hmem
  have haddressee := addressee?_of_mem enabled (mem_of_told enabled htold) hevent
  cases act with
  | opened i target conn poll | stepped i conn poll =>
      rw [told] at htold
      split at htold
      · exact isSuccess_of_mem_connectCall event htold
      · cases htold
  | lent i conn key request onConnect load =>
      rw [told] at htold
      split at htold
      · exact isSuccess_of_mem_connectCall event htold
      · cases htold
  | openFailed i target conn ending | finished i conn ending =>
      exact absurd (Option.some.inj haddressee) hnot
  | noted _ | asked _ _ _ | poolCreated _ _ | openSpoiled _ _ _ | takenBack _ _ _ _
  | adopted _ _ _ _ | tagged _ _ _ | deferred _ _ _ | poolsDropped => cases haddressee

theorem callsFor_of_removes (enabled : act.Enabled v) (h : act.Removes id) :
    ∃ ending : Ending κ, ∃ conn, callsFor id act.events = ending.told id conn := by
  rw [callsFor_events enabled]
  cases act with
  | openFailed i target conn ending | finished i conn ending =>
      obtain rfl : i = id := h
      refine ⟨ending, conn, ?_⟩
      have htold : callsFor i (ending.told i conn) = ending.told i conn :=
        List.filter_eq_self.2 fun event hmem =>
          decide_eq_true (ending.addressee?_of_mem_told event hmem)
      rw [told, callsFor_append, htold]
      exact List.append_nil _
  | noted _ | asked _ _ _ | poolCreated _ _ | opened _ _ _ _ | openSpoiled _ _ _ | stepped _ _ _
  | lent _ _ _ _ _ _ | takenBack _ _ _ _ | adopted _ _ _ _ | tagged _ _ _ | deferred _ _ _
  | poolsDropped => exact h.elim

/-- An act tells a disconnect callback of a handshake that ended, or of nothing
    amiss. -/
theorem endsWait_of_mem (enabled : act.Enabled v) (hc : v.ctx.Coherent) {callback : κ}
    {status : Status} {request : Option ρ}
    (hmem : .disconnectCalled callback id status request ∈ act.events) : status.EndsWait := by
  have hcalls : .disconnectCalled callback id status request ∈ callsFor id act.events :=
    mem_callsFor.2 ⟨hmem, rfl⟩
  have htold := mem_told enabled hmem rfl
  by_cases hremoves : act.Removes id
  · cases act with
    | openFailed i target conn ending =>
        rcases List.mem_append.1 htold with hcall | htorn
        · refine Ending.endsWait_of_mem_told (fun event reason hlost => ?_) hcall
          -- no opening ends so
          have hends := enabled.2.2.1
          rw [hlost] at hends
          exact hends.elim
        · cases List.mem_singleton.1 htorn
    | finished i conn ending =>
        rcases List.mem_append.1 htold with hcall | htorn
        · refine Ending.endsWait_of_mem_told (fun event reason hlost => ?_) hcall
          -- a connected connection keeps no disconnect callback
          obtain ⟨hconn, hfits⟩ := enabled
          rw [hlost] at hfits
          exact (hc i conn hconn).onDisconnect_of_connected hfits.1
        · cases List.mem_singleton.1 htorn
    | noted _ | asked _ _ _ | poolCreated _ _ | opened _ _ _ _ | openSpoiled _ _ _
    | stepped _ _ _ | lent _ _ _ _ _ _ | takenBack _ _ _ _ | adopted _ _ _ _ | tagged _ _ _
    | deferred _ _ _ | poolsDropped => exact hremoves.elim
  · exact (isSuccess_of_not_removes enabled hremoves _ hcalls).elim

end Act

/-! ## Orders -/

/-- What has been told to the callbacks of the connection under `id`, as far
    as it has come. -/
structure View.Tells (v : View ρ κ) (id : ConnId) : Prop where
  silent : ¬v.ctx.conns.Issued id → callsFor id v.trace = []
  successes : (v.ctx.conn? id).isSome → ∀ event ∈ callsFor id v.trace, event.IsSuccess
  inOrder : InOrder (callsFor id v.trace)

/-- As long as an id is not stale, only successes have been told. -/
theorem View.Tells.of_not_stale {v : View ρ κ} {id : ConnId} (h : v.Tells id)
    (hstale : ¬v.ctx.Stale id) : ∀ event ∈ callsFor id v.trace, event.IsSuccess := by
  by_cases hissued : v.ctx.conns.Issued id
  · refine h.successes (Option.isSome_iff_ne_none.2 fun hgone => hstale ⟨hissued, hgone⟩)
  · rw [h.silent hissued]
    exact List.forall_mem_nil _

/-- Each act keeps the order. -/
theorem Act.tells_run {v : View ρ κ} {act : Act ρ κ} {n : Nat} {id : ConnId}
    (enabled : act.Enabled v) (hw : v.ctx.Orderly) (hn : v.ctx.conns.AtMostRemoved n)
    (hlt : n + act.removes < 2 ^ 32) (h : v.Tells id) : (act.run v).Tells id := by
  have hrecycles := recycles_run enabled hw hn hlt
  have htrace : callsFor id (act.run v).trace = callsFor id v.trace ++ callsFor id act.events :=
    callsFor_append ..
  by_cases haddressee : act.addressee? = some id
  · -- what is called for was not stale, so all went well so far
    have hbefore := h.of_not_stale (not_stale_of_addressee? enabled hw haddressee)
    by_cases hremoves : act.Removes id
    · obtain ⟨hissued, hgone⟩ := stale_of_removes enabled hw hn hlt hremoves
      obtain ⟨ending, conn, hcalls⟩ := callsFor_of_removes enabled hremoves
      refine ⟨fun hnot => absurd hissued hnot, fun hlive => ?_, ?_⟩
      · rw [hgone] at hlive
        cases hlive
      · rw [htrace, hcalls]
        exact ending.inOrder_told hbefore id conn
    · have hafter : ∀ event ∈ callsFor id (act.run v).trace, event.IsSuccess := by
        rw [htrace]
        exact List.forall_mem_append.2 ⟨hbefore, isSuccess_of_not_removes enabled hremoves⟩
      have hissued := issued_of_addressee? enabled hw hn hlt haddressee
      exact ⟨fun hnot => absurd hissued hnot, fun _ => hafter, .of_successes hafter⟩
  · rw [callsFor_events_eq_nil enabled haddressee, List.append_nil] at htrace
    have hopens : ¬act.Opens id := fun hopens => haddressee (addressee?_of_opens hopens)
    refine ⟨fun hnot => ?_, fun hlive => ?_, ?_⟩
    · rw [htrace]
      exact h.silent fun hissued => hnot (hrecycles.issued id hissued)
    · rw [htrace]
      exact h.successes (live_of_run enabled hw hopens hlive)
    · rw [htrace]
      exact h.inOrder

/-! ## Paths -/

namespace Path

variable {v v' : View ρ κ} {acts : List (Act ρ κ)} {n : Nat} {id : ConnId}

theorem tells (h : Path v acts v') (hw : v.ctx.Orderly) (hn : v.ctx.conns.AtMostRemoved n)
    (hlt : n + removals acts < 2 ^ 32) (hv : v.Tells id) : v'.Tells id := by
  induction h generalizing n with
  | nil => exact hv
  | @cons v v' act acts enabled _ ih =>
      rw [removals_cons] at hlt
      exact ih (Act.orderly_run enabled hw) (Act.atMostRemoved_run hw hn) (by omega)
        (Act.tells_run enabled hw hn (by omega) hv)

/-- Nobody is called for a stale id. -/
theorem addressee?_ne_of_stale (h : Path v acts v') (hw : v.ctx.Orderly)
    (hn : v.ctx.conns.AtMostRemoved n) (hlt : n + removals acts < 2 ^ 32)
    (hstale : v.ctx.Stale id) :
    ∀ event ∈ acts.flatMap Act.events, event.addressee? ≠ some id := by
  intro event hevents hevent
  obtain ⟨act, hact, hmem⟩ := List.mem_flatMap.1 hevents
  obtain ⟨earlier, later, v₁, rfl, first, enabled, -⟩ := h.of_mem hact
  rw [removals_split] at hlt
  have hrecycles := (first.recycles hw hn (by omega)).2
  exact Act.not_stale_of_addressee? enabled (first.orderly hw)
    (Act.addressee?_of_mem enabled hmem hevent) (hrecycles.stale hstale)

/-- A path that tells of a failure or a disconnect leaves a stale id, which was
    not stale before. -/
theorem stale_of_last_call (h : Path v acts v') (hw : v.ctx.Orderly)
    (hn : v.ctx.conns.AtMostRemoved n) (hlt : n + removals acts < 2 ^ 32) {event : Event ρ κ}
    (hevents : event ∈ acts.flatMap Act.events) (hevent : event.addressee? = some id)
    (hlast : ¬event.IsSuccess) : ¬v.ctx.Stale id ∧ v'.ctx.Stale id := by
  refine ⟨fun hstale => h.addressee?_ne_of_stale hw hn hlt hstale event hevents hevent, ?_⟩
  obtain ⟨act, hact, hmem⟩ := List.mem_flatMap.1 hevents
  obtain ⟨earlier, later, v₁, rfl, first, enabled, rest⟩ := h.of_mem hact
  rw [removals_split] at hlt
  have hw₁ := first.orderly hw
  obtain ⟨hn₁, -⟩ := first.recycles hw hn (by omega)
  have hremoves : act.Removes id := by
    by_cases hremoves : act.Removes id
    · exact hremoves
    · have hcalls := mem_callsFor.2 ⟨hmem, hevent⟩
      exact absurd (Act.isSuccess_of_not_removes enabled hremoves event hcalls) hlast
  have hstale := Act.stale_of_removes enabled hw₁ hn₁ (by omega) hremoves
  obtain ⟨-, hrecycles⟩ := rest.recycles (Act.orderly_run enabled hw₁)
    (Act.atMostRemoved_run hw₁ hn₁) (by omega)
  exact hrecycles.stale hstale

theorem endsWait_of_mem (h : Path v acts v') (hw : v.ctx.Orderly) (hc : v.ctx.Coherent)
    {callback : κ} {status : Status} {request : Option ρ}
    (hevents : .disconnectCalled callback id status request ∈ acts.flatMap Act.events) :
    status.EndsWait := by
  obtain ⟨act, hact, hmem⟩ := List.mem_flatMap.1 hevents
  obtain ⟨earlier, later, v₁, rfl, first, enabled, -⟩ := h.of_mem hact
  exact Act.endsWait_of_mem enabled (first.coherent hw hc) hmem

end Path

end ConnPool
