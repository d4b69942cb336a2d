/-
  ConnPool.Proofs.Worker.Calling

  When connect callbacks are called.

  An act that calls a connect callback with ok leaves its connection live and
  connected, and one that calls it with an error ends its connection.  What an
  operation does after the call changes neither, so the same holds of
  operations.
-/

import ConnPool.Proofs.Worker.Coherent
import ConnPool.Proofs.Worker.Handing

namespace ConnPool

variable {ρ κ : Type}

/-- Whether an act may call the connect callback of the connection under `id`. -/
def Act.CallsConnect (callback : κ) (id : ConnId) (status : Status) : Act ρ κ → Prop
  | opened i _ conn poll | stepped i conn poll =>
    i = id ∧ conn.onConnect = some callback ∧ poll = .ok ∧ status = .ok ()
  | lent i conn _ _ onConnect _ =>
    i = id ∧ onConnect = some callback ∧ conn.state = .connected ∧ status = .ok ()
  | openFailed i _ conn _ | finished i conn _ =>
    i = id ∧ conn.onConnect = some callback ∧ status ≠ .ok ()
  | noted _ | asked .. | poolCreated .. | openSpoiled .. | takenBack .. | adopted .. | tagged ..
  | deferred .. | poolsDropped => False

/-! ## Calls -/

section

variable {callback : κ} {id i : ConnId} {status : Status} {request : Option ρ}
  {conn : Connection ρ κ}

theorem Connection.of_mem_connectCall {s : Status}
    (hmem : .connectCalled callback id status request ∈ conn.connectCall i s) :
    i = id ∧ conn.onConnect = some callback ∧ status = s := by
  obtain ⟨held, hheld, heq⟩ := List.mem_map.1 hmem
  cases heq
  exact ⟨rfl, Option.mem_toList.1 hheld, rfl⟩

theorem Connection.connectCalled_not_mem_disconnectCall {s : Status} :
    .connectCalled callback id status request ∉ conn.disconnectCall i s := by
  rw [disconnectCall]
  simp

theorem Connection.of_mem_failureCalls {error : PoolError}
    (hmem : .connectCalled callback id status request ∈ conn.failureCalls i error) :
    i = id ∧ conn.onConnect = some callback ∧ status ≠ .ok () := by
  rcases List.mem_append.1 hmem with hconnect | hdisconnect
  · obtain ⟨rfl, hheld, rfl⟩ := of_mem_connectCall hconnect
    exact ⟨rfl, hheld, by simp⟩
  · split at hdisconnect
    · exact absurd hdisconnect connectCalled_not_mem_disconnectCall
    · cases hdisconnect

/-- An ending calls the connect callback only with an error. -/
theorem Ending.of_mem_told {ending : Ending κ}
    (hmem : .connectCalled callback id status request ∈ ending.told i conn) :
    i = id ∧ conn.onConnect = some callback ∧ status ≠ .ok () := by
  cases ending with
  | bad _ _ | pollFailed _ | refused _ _ | abandoned _ _ =>
      exact Connection.of_mem_failureCalls hmem
  | deferred | disconnected _ | lost _ _ | shrunk _ _ =>
      exact absurd hmem Connection.connectCalled_not_mem_disconnectCall
  | dismissed _ => cases hmem
  | shutDown =>
      rcases List.mem_append.1 hmem with hconnect | hdisconnect
      · obtain ⟨rfl, hheld, rfl⟩ := Connection.of_mem_connectCall hconnect
        exact ⟨rfl, hheld, by simp⟩
      · exact absurd hdisconnect Connection.connectCalled_not_mem_disconnectCall

theorem Act.callsConnect_of_mem {v : View ρ κ} {act : Act ρ κ} (enabled : act.Enabled v)
    (hmem : .connectCalled callback id status request ∈ act.events) :
    act.CallsConnect callback id status := by
  -- a call matters, so it is among the few events told
  have htold := mem_told enabled hmem rfl
  cases act with
  | noted _ | poolCreated _ _ | takenBack _ _ _ _ | adopted _ _ _ _ | tagged _ _ _
  | deferred _ _ _ | poolsDropped => cases htold
  | openSpoiled session target reason => simp [told] at htold
  | asked i conn events => exact (enabled.2 _ (List.mem_filter.1 htold).1).elim
  | opened i target conn poll | stepped i conn poll =>
      rw [told] at htold
      split at htold
      · rename_i hok
        obtain ⟨rfl, hheld, rfl⟩ := Connection.of_mem_connectCall htold
        exact ⟨rfl, hheld, hok, rfl⟩
      · cases htold
  | lent i conn key request onConnect load =>
      rw [told] at htold
      split at htold
      · rename_i hstate
        obtain ⟨rfl, hheld, rfl⟩ := Connection.of_mem_connectCall htold
        exact ⟨rfl, hheld, hstate, rfl⟩
      · cases htold
  | openFailed i target conn ending | finished i conn ending =>
      rcases List.mem_append.1 htold with hcall | htorn
      · exact Ending.of_mem_told hcall
      · cases List.mem_singleton.1 htorn

end

/-! ## Connected connections -/

namespace Act

variable {v : View ρ κ} {act : Act ρ κ} {id : ConnId}

/-- An act that calls a connect callback with ok leaves the connection
    connected. -/
theorem connected_of_callsConnect (enabled : act.Enabled v) (hw : v.ctx.Orderly) {callback : κ}
    (h : act.CallsConnect callback id (.ok ())) :
    ∃ conn, (act.run v).ctx.conn? id = some conn ∧ conn.state = .connected := by
  have hrun := conn?_run enabled hw id
  cases act with
  | opened i target conn poll | stepped i conn poll =>
      obtain ⟨rfl, -, rfl, -⟩ := h
      exact ⟨conn.stepped .ok, hrun.trans (if_pos rfl), rfl⟩
  | lent i conn key request onConnect load =>
      obtain ⟨rfl, -, hstate, -⟩ := h
      exact ⟨conn.lentBy key request onConnect, hrun.trans (if_pos rfl), hstate⟩
  | openFailed i target conn ending | finished i conn ending => exact absurd rfl h.2.2
  | noted _ | asked _ _ _ | poolCreated _ _ | openSpoiled _ _ _ | takenBack _ _ _ _
  | adopted _ _ _ _ | tagged _ _ _ | deferred _ _ _ | poolsDropped => exact h.elim

/-- A connection stays connected until it ends. -/
theorem connected_run (enabled : act.Enabled v) (hw : v.ctx.Orderly) (hends : ¬act.Ends id)
    (h : ∃ conn, v.ctx.conn? id = some conn ∧ conn.state = .connected) :
    ∃ conn, (act.run v).ctx.conn? id = some conn ∧ conn.state = .connected := by
  refine stays_run enabled hw hends (P := fun conn => conn.state = .connected) ?_ h
  intro old new hold hchange hopens hstate
  cases act with
  | noted _ | asked _ _ _ | poolCreated _ _ | openFailed _ _ _ _ | openSpoiled _ _ _
  | poolsDropped | finished _ _ _ => cases hchange
  | opened i target conn poll =>
      cases hchange
      exact absurd rfl hopens
  | stepped i conn poll =>
      cases hchange
      -- a connected connection makes no handshake steps
      obtain ⟨hconn, hconnecting, -⟩ := enabled
      rw [hconn] at hold
      obtain rfl := Option.some.inj hold
      rw [hconnecting] at hstate
      cases hstate
  | lent i conn _ _ _ _ | takenBack i conn _ _ | adopted i conn _ _ | tagged i conn _
  | deferred i conn _ =>
      cases hchange
      have hconn := enabled.1
      rw [hconn] at hold
      obtain rfl := Option.some.inj hold
      exact hstate

end Act

theorem Path.connected {v v' : View ρ κ} {acts : List (Act ρ κ)} (h : Path v acts v')
    (hw : v.ctx.Orderly) {id : ConnId} (hends : ∀ act ∈ acts, ¬act.Ends id)
    (hconnected : ∃ conn, v.ctx.conn? id = some conn ∧ conn.state = .connected) :
    ∃ conn, v'.ctx.conn? id = some conn ∧ conn.state = .connected := by
  induction h with
  | nil => exact hconnected
  | cons enabled _ ih =>
      obtain ⟨hact, hrest⟩ := List.forall_mem_cons.1 hends
      exact ih (Act.orderly_run enabled hw) hrest (Act.connected_run enabled hw hact hconnected)

/-! ## Kept callbacks -/

/-- A connect callback that is kept was kept before, or was just taken. -/
theorem Act.keeps_of_run {v : View ρ κ} {act : Act ρ κ} (enabled : act.Enabled v)
    (hw : v.ctx.Orderly) {id : ConnId} {conn' : Connection ρ κ} {callback : κ}
    (hconn' : (act.run v).ctx.conn? id = some conn') (hkeeps : conn'.onConnect = some callback) :
    (∃ conn, v.ctx.conn? id = some conn ∧ conn.onConnect = some callback ∧
        conn.session = conn'.session) ∨
      act.taken .connect = some callback := by
  rcases conn?_of_run enabled hw hconn' with hold | hchange
  · exact .inl ⟨conn', hold, hkeeps, rfl⟩
  · cases act with
    | noted _ | asked _ _ _ | poolCreated _ _ | openFailed _ _ _ _ | openSpoiled _ _ _
    | poolsDropped | finished _ _ _ => cases hchange
    | opened i target conn poll =>
        cases hchange
        refine .inr ?_
        simp only [Connection.stepped] at hkeeps
        split at hkeeps
        · cases hkeeps
        · exact hkeeps
    | stepped i conn poll =>
        cases hchange
        simp only [Connection.stepped] at hkeeps
        split at hkeeps
        · cases hkeeps
        · exact .inl ⟨conn, enabled.1, hkeeps, rfl⟩
    | lent i conn key request onConnect load =>
        cases hchange
        refine .inr ?_
        simp only [Connection.lentBy] at hkeeps
        split at hkeeps
        · cases hkeeps
        · exact hkeeps
    | takenBack i conn _ _ | adopted i conn _ _ =>
        cases hchange
        cases hkeeps
    | tagged i conn _ | deferred i conn _ =>
        cases hchange
        exact .inl ⟨conn, enabled.1, hkeeps, rfl⟩

/-- Along acts that take no connect callback, what is kept was kept from the
    start. -/
theorem Path.keeps_of_not_taken {v v' : View ρ κ} {acts : List (Act ρ κ)} (h : Path v acts v')
    (hw : v.ctx.Orderly) (htaken : ∀ act ∈ acts, act.taken .connect = none) {id : ConnId}
    {conn' : Connection ρ κ} {callback : κ} (hconn' : v'.ctx.conn? id = some conn')
    (hkeeps : conn'.onConnect = some callback) :
    ∃ conn, v.ctx.conn? id = some conn ∧ conn.onConnect = some callback ∧
      conn.session = conn'.session := by
  induction h with
  | nil => exact ⟨conn', hconn', hkeeps, rfl⟩
  | cons enabled _ ih =>
      obtain ⟨hact, hrest⟩ := List.forall_mem_cons.1 htaken
      obtain ⟨conn, hconn, hmiddle, hsession⟩ := ih (Act.orderly_run enabled hw) hrest hconn'
      rcases Act.keeps_of_run enabled hw hconn hmiddle with ⟨first, hfirst, hkept, heq⟩ | hsome
      · exact ⟨first, hfirst, hkept, heq.trans hsession⟩
      · rw [hact] at hsome
        cases hsome

/-! ## Operations -/

theorem Act.CallsConnect.taken_of_provides {operation : Operation ρ κ} {answer : Answer}
    {act : Act ρ κ} {callback : κ} {id : ConnId} {status : Status}
    (h : act.CallsConnect callback id status) (hbelongs : act.BelongsTo operation answer)
    (hprovides : operation.Provides) : act.taken .connect = some callback := by
  cases act with
  | opened i target conn poll | openFailed i target conn ending | lent i conn _ _ onConnect _ =>
      exact h.2.1
  | stepped i conn poll =>
      obtain ⟨event, rfl⟩ := hbelongs
      exact hprovides.elim
  | finished i conn ending => exact absurd hprovides hbelongs.not_provides
  | noted _ | asked _ _ _ | poolCreated _ _ | openSpoiled _ _ _ | takenBack _ _ _ _
  | adopted _ _ _ _ | tagged _ _ _ | deferred _ _ _ | poolsDropped => exact h.elim

theorem Opening.of_taken {target : Target} {request : Option ρ} {onConnect : Option κ}
    {membership : Membership} {outcome : Except PoolError ConnId} {act : Act ρ κ}
    (h : Opening target request onConnect membership outcome act) {callback : κ}
    (htaken : act.taken .connect = some callback) :
    onConnect = some callback ∧
      ∀ id, act.CallsConnect callback id (.ok ()) → outcome = .ok id := by
  cases h with
  | opened i conn poll hrequest honConnect hmembership =>
      refine ⟨honConnect.symm.trans htaken, fun id hcalls => ?_⟩
      rw [hcalls.1]
  | failed i conn ending error herror hrequest honConnect hmembership =>
      exact ⟨honConnect.symm.trans htaken, fun id hcalls => absurd rfl hcalls.2.2⟩
  | unstarted reason events hrefused | spoiled session reason => cases htaken

/-- The act of an operation that takes the connect callback: it is the last
    one, or one that lends in the pool's stead, and the id that it calls the
    callback with is answered. -/
theorem Course.of_taken {operation : Operation ρ κ} {answer : Answer} {acts : List (Act ρ κ)}
    (h : Course operation answer acts) (hprovides : operation.Provides) {act : Act ρ κ}
    (hmem : act ∈ acts) {callback : κ} (htaken : act.taken .connect = some callback) :
    operation.onConnect? = some callback ∧
      (∀ id, act.CallsConnect callback id (.ok ()) → answer = .opened (.ok id)) ∧
      ((∃ prepared, acts = prepared ++ [act]) ∨
        ∃ id target conn poll, act = .opened id target conn poll) := by
  -- what prepares the pool takes no callback
  have hidle : ∀ {key : PoolKey} {prepared : List (Act ρ κ)}, (∀ act ∈ prepared, act.Idle key) →
      act ∉ prepared := by
    intro key prepared hprepared hmem
    rw [(hprepared act hmem).taken_eq_none .connect] at htaken
    cases htaken
  cases h with
  | misdirected _ _ _ _ _ _ => cases hmem
  | connect _ _ _ _ _ _ hopening | connectUri _ _ _ hopening =>
      obtain rfl := List.mem_singleton.1 hmem
      obtain ⟨honConnect, hanswer⟩ := hopening.of_taken htaken
      exact ⟨honConnect, fun id hcalls => by rw [hanswer id hcalls], .inl ⟨[], rfl⟩⟩
  | acquire hacquisition =>
      cases hacquisition with
      | unregistered => cases hmem
      | exhausted acts hprepared => exact absurd hmem (hidle hprepared)
      | lent acts hprepared i conn load =>
          obtain rfl := List.mem_singleton.1
            ((List.mem_append.1 hmem).resolve_left (hidle hprepared))
          exact ⟨htaken, fun id hcalls => by rw [hcalls.1], .inl ⟨acts, rfl⟩⟩
      | direct acts hprepared i target conn poll hopening =>
          rcases List.mem_cons.1 ((List.mem_append.1 hmem).resolve_left (hidle hprepared))
            with rfl | hmem
          · obtain ⟨honConnect, hanswer⟩ := hopening.of_taken htaken
            exact ⟨honConnect, fun id hcalls => by rw [hanswer id hcalls],
              .inr ⟨i, target, conn, poll, rfl⟩⟩
          · obtain rfl := List.mem_singleton.1 hmem
            cases htaken
      | failed acts hprepared target error act hopening =>
          obtain rfl := List.mem_singleton.1
            ((List.mem_append.1 hmem).resolve_left (hidle hprepared))
          obtain ⟨honConnect, hanswer⟩ := hopening.of_taken htaken
          exact ⟨honConnect, fun id hcalls => by rw [hanswer id hcalls], .inl ⟨acts, rfl⟩⟩
  | spawn _ _ _ acts hprepared => exact absurd hmem (hidle hprepared)
  | reclaim _ | unknown _ _ | deferred _ _ _ | disconnected _ _ _ | advance _ _ _ | stale _ _
  | asked _ _ _ _ _ | shutdown _ _ _ => exact hprovides.elim

namespace Course

variable {operation : Operation ρ κ} {answer : Answer} {acts : List (Act ρ κ)} {v v' : View ρ κ}
  {callback : κ} {id : ConnId} {status : Status} {request : Option ρ}

/-- A connect callback that is called came with the operation, or was kept by
    the connection that it is called for. -/
theorem source_of_called (h : Course operation answer acts) (hpath : Path v acts v')
    (hw : v.ctx.Orderly)
    (hmem : .connectCalled callback id status request ∈ acts.flatMap Act.events) :
    (operation.onConnect? = some callback ∧ (status = .ok () → answer = .opened (.ok id))) ∨
      ∃ conn, v.ctx.conn? id = some conn ∧ conn.onConnect = some callback := by
  obtain ⟨act, hact, hevent⟩ := List.mem_flatMap.1 hmem
  obtain ⟨earlier, later, v₁, heq, hearlier, enabled, -⟩ := hpath.of_mem hact
  have hcalls := Act.callsConnect_of_mem enabled hevent
  have hbelongs := h.belongsTo act hact
  by_cases hprovides : operation.Provides
  · have htaken := hcalls.taken_of_provides hbelongs hprovides
    obtain ⟨honConnect, hanswer, -⟩ := h.of_taken hprovides hact htaken
    exact .inl ⟨honConnect, fun hok => hanswer id (hok ▸ hcalls)⟩
  · -- an operation that does not provide takes none, so the callback was kept before
    have hnone : ∀ act ∈ acts, act.taken .connect = none :=
      fun act hmem => (h.belongsTo act hmem).taken_connect hprovides
    have hkept : ∀ {conn : Connection ρ κ}, v₁.ctx.conn? id = some conn →
        conn.onConnect = some callback →
        ∃ conn, v.ctx.conn? id = some conn ∧ conn.onConnect = some callback := by
      intro conn hconn hkeeps
      obtain ⟨first, hfirst, hfirstKeeps, -⟩ := hearlier.keeps_of_not_taken hw
        (fun act hmem => hnone act (by rw [heq]; exact List.mem_append_left _ hmem)) hconn hkeeps
      exact ⟨first, hfirst, hfirstKeeps⟩
    cases act with
    | stepped i conn poll | finished i conn ending =>
        obtain ⟨rfl, hkeeps, -⟩ := hcalls
        exact .inr (hkept enabled.1 hkeeps)
    | opened i target conn poll | openFailed i target conn ending => exact absurd hbelongs hprovides
    | lent i conn key request onConnect load =>
        rw [hbelongs.1] at hprovides
        exact absurd trivial hprovides
    | noted _ | asked _ _ _ | poolCreated _ _ | openSpoiled _ _ _ | takenBack _ _ _ _
    | adopted _ _ _ _ | tagged _ _ _ | deferred _ _ _ | poolsDropped => exact hcalls.elim

/-- A connect callback is called with ok when its connection is connected. -/
theorem connected_of_called (h : Course operation answer acts) (hpath : Path v acts v')
    (hw : v.ctx.Orderly)
    (hmem : .connectCalled callback id (.ok ()) request ∈ acts.flatMap Act.events) :
    ∃ conn, v'.ctx.conn? id = some conn ∧ conn.state = .connected := by
  obtain ⟨act, hact, hevent⟩ := List.mem_flatMap.1 hmem
  obtain ⟨earlier, later, v₁, heq, hearlier, enabled, hlater⟩ := hpath.of_mem hact
  have hcalls := Act.callsConnect_of_mem enabled hevent
  have hw₁ := hearlier.orderly hw
  -- the call leaves it connected; what is left to show is that no later act ends it
  refine hlater.connected (Act.orderly_run enabled hw₁) (fun last hlast => ?_)
    (Act.connected_of_callsConnect enabled hw₁ hcalls)
  have hlastMem : last ∈ acts := by
    rw [heq]
    exact List.mem_append_right _ (List.mem_cons_of_mem _ hlast)
  by_cases hprovides : operation.Provides
  · exact (h.belongsTo last hlastMem).not_ends hprovides id
  · -- only a report calls it, and does nothing else
    have hbelongs := h.belongsTo act hact
    cases act with
    | stepped i conn poll =>
        obtain ⟨event, rfl⟩ := hbelongs
        cases h with
        | advance _ state hadvancing =>
            cases hadvancing with
            | ignored record => cases List.mem_singleton.1 hact
            | stepped conn poll =>
                obtain rfl := List.mem_singleton.1 hlastMem
                exact fun hends => hends
            | ended conn ending hending records => simp at hact
    | opened i target conn poll => exact absurd hbelongs hprovides
    | lent i conn key request onConnect load =>
        rw [hbelongs.1] at hprovides
        exact absurd trivial hprovides
    | openFailed i target conn ending | finished i conn ending => exact absurd rfl hcalls.2.2
    | noted _ | asked _ _ _ | poolCreated _ _ | openSpoiled _ _ _ | takenBack _ _ _ _
    | adopted _ _ _ _ | tagged _ _ _ | deferred _ _ _ | poolsDropped => exact hcalls.elim

/-- A connect callback is called with an error when its connection ends. -/
theorem ended_of_called (h : Course operation answer acts) (hpath : Path v acts v')
    (hw : v.ctx.Orderly) {error : PoolError}
    (hmem : .connectCalled callback id (.error error) request ∈ acts.flatMap Act.events) :
    v'.ctx.conn? id = none ∧ ∃ session, .tornDown session ∈ acts.flatMap Act.events ∧
      (v.started ≤ session ∨
        ∃ conn, v.ctx.conn? id = some conn ∧ conn.session = session) := by
  obtain ⟨act, hact, hevent⟩ := List.mem_flatMap.1 hmem
  obtain ⟨earlier, later, v₁, heq, hearlier, enabled, -⟩ := hpath.of_mem hact
  have hcalls := Act.callsConnect_of_mem enabled hevent
  have hbelongs := h.belongsTo act hact
  cases act with
  | finished i conn ending =>
      obtain ⟨rfl, hkeeps, -⟩ := hcalls
      -- nothing that the operation does brings the connection back
      have hprovides := hbelongs.not_provides
      have hopens : ∀ act ∈ acts, ¬act.Opens i :=
        fun act hmem => (h.belongsTo act hmem).not_opens hprovides i
      have hnone : ∀ act ∈ earlier, act.taken .connect = none := fun act hmem =>
        (h.belongsTo act (by rw [heq]; exact List.mem_append_left _ hmem)).taken_connect hprovides
      obtain ⟨first, hfirst, -, hsession⟩ :=
        hearlier.keeps_of_not_taken hw hnone enabled.1 hkeeps
      refine ⟨hpath.conn?_of_ends hw hopens ⟨_, hact, rfl⟩, conn.session, ?_,
        .inr ⟨first, hfirst, hsession⟩⟩
      exact List.mem_flatMap.2 ⟨_, hact, List.mem_append_right _ List.mem_cons_self⟩
  | openFailed i target conn ending =>
      -- a failed opening is the last act, so its session is the last one started
      have htaken := hcalls.taken_of_provides hbelongs hbelongs
      obtain ⟨rfl, -, -⟩ := hcalls
      obtain ⟨-, -, ⟨prepared, rfl⟩ | ⟨_, _, _, _, heq⟩⟩ := h.of_taken hbelongs hact htaken
      · obtain ⟨v₂, hprepared, hlast⟩ := hpath.of_append
        cases hlast with
        | cons enabled hrest =>
            cases hrest
            have htorn : .tornDown conn.session ∈ (Act.openFailed i target conn ending).events :=
              Act.mem_of_told enabled (List.mem_append_right _ List.mem_cons_self)
            refine ⟨Act.conn?_run_openFailed (hprepared.orderly hw) enabled, conn.session,
              List.mem_flatMap.2 ⟨_, hact, htorn⟩, .inl ?_⟩
            rw [enabled.2.1]
            exact hprepared.started_le
      · cases heq
  | opened i target conn poll | stepped i conn poll | lent i conn key request onConnect load =>
      cases hcalls.2.2.2
  | noted _ | asked _ _ _ | poolCreated _ _ | openSpoiled _ _ _ | takenBack _ _ _ _
  | adopted _ _ _ _ | tagged _ _ _ | deferred _ _ _ | poolsDropped => exact hcalls.elim

end Course

end ConnPool
