/-
  ConnPool.Proofs.Worker.Binding

  To whom connections are bound.

  An act that opens a direct connection or lends an idle one binds it to the
  caller of the operation: its record keeps the caller's request and, while the
  handshake runs, the caller's connect callback.  No other act puts a request
  or a connect callback into the record of a connection that is not idle.  And
  callbacks are only called with the request of the record that keeps them.
-/

import ConnPool.Proofs.Worker.Borrowing
import ConnPool.Proofs.Worker.CallOrder
import ConnPool.Proofs.Worker.Calling
import ConnPool.Proofs.Worker.Waiting

namespace ConnPool

variable {ρ κ : Type}

/-- The request that an operation comes with. -/
def Operation.request? : Operation ρ κ → Option ρ
  | connect request .. | connectUri request .. | acquire _ request _ => request
  | spawn .. | reclaim _ | disconnect .. | advance .. | session .. | shutdown => none

/-! ## Parties of calls -/

/-- The connection on whose behalf an act may call callbacks, as its record
    says when they are called. -/
def Act.party? : Act ρ κ → Option (ConnId × Connection ρ κ)
  | opened id _ conn _ | openFailed id _ conn _ | stepped id conn _ | finished id conn _ =>
    some (id, conn)
  | lent id conn _ request onConnect _ => some (id, { conn with request, onConnect })
  | noted _ | asked .. | poolCreated .. | openSpoiled .. | takenBack .. | adopted .. | tagged ..
  | deferred .. | poolsDropped => none

section

variable {callback : κ} {id i : ConnId} {status : Status} {request : Option ρ}
  {conn : Connection ρ κ}

theorem Connection.request_of_mem_connectCall {s : Status}
    (hmem : .connectCalled callback id status request ∈ conn.connectCall i s) :
    conn.request = request := by
  obtain ⟨held, -, heq⟩ := List.mem_map.1 hmem
  cases heq
  rfl

theorem Connection.request_of_mem_failureCalls {error : PoolError}
    (hmem : .connectCalled callback id status request ∈ conn.failureCalls i error) :
    conn.request = request := by
  rcases List.mem_append.1 hmem with hconnect | hdisconnect
  · exact request_of_mem_connectCall hconnect
  · split at hdisconnect
    · exact absurd hdisconnect connectCalled_not_mem_disconnectCall
    · cases hdisconnect

theorem Ending.request_of_mem_told {ending : Ending κ}
    (hmem : .connectCalled callback id status request ∈ ending.told i conn) :
    conn.request = request := by
  cases ending with
  | bad _ _ | pollFailed _ | refused _ _ | abandoned _ _ =>
      exact Connection.request_of_mem_failureCalls hmem
  | deferred | disconnected _ | lost _ _ | shrunk _ _ =>
      exact absurd hmem Connection.connectCalled_not_mem_disconnectCall
  | dismissed _ => cases hmem
  | shutDown =>
      rcases List.mem_append.1 hmem with hconnect | hdisconnect
      · exact Connection.request_of_mem_connectCall hconnect
      · exact absurd hdisconnect Connection.connectCalled_not_mem_disconnectCall

/-- A connect callback is called on behalf of the record that keeps it. -/
theorem Act.party_of_connectCalled {v : View ρ κ} {act : Act ρ κ} (enabled : act.Enabled v)
    (hmem : .connectCalled callback id status request ∈ act.events) :
    ∃ conn, act.party? = some (id, conn) ∧ conn.onConnect = some callback ∧
      conn.request = request := by
  have hcalls := callsConnect_of_mem enabled hmem
  have htold := mem_told enabled hmem rfl
  cases act with
  | opened i target conn poll | stepped i conn poll =>
      obtain ⟨rfl, hkeeps, hok, -⟩ := hcalls
      rw [told, if_pos hok] at htold
      exact ⟨conn, rfl, hkeeps, Connection.request_of_mem_connectCall htold⟩
  | lent i conn key lentRequest onConnect load =>
      obtain ⟨rfl, hkeeps, hstate, -⟩ := hcalls
      rw [told, if_pos hstate] at htold
      exact ⟨_, rfl, hkeeps, Connection.request_of_mem_connectCall htold⟩
  | openFailed i target conn ending | finished i conn ending =>
      obtain ⟨rfl, hkeeps, -⟩ := hcalls
      rcases List.mem_append.1 htold with hcall | htorn
      · exact ⟨conn, rfl, hkeeps, Ending.request_of_mem_told hcall⟩
      · cases List.mem_singleton.1 htorn
  | noted _ | asked _ _ _ | poolCreated _ _ | openSpoiled _ _ _ | takenBack _ _ _ _
  | adopted _ _ _ _ | tagged _ _ _ | deferred _ _ _ | poolsDropped => exact hcalls.elim

/-- A disconnect callback that an ending tells is the one that the record
    keeps, or the one that comes with the ending. -/
theorem Ending.of_disconnectCalled {ending : Ending κ}
    (hmem : .disconnectCalled callback id status request ∈ ending.told i conn) :
    i = id ∧ conn.request = request ∧
      (conn.onDisconnect = some callback ∨ ending = .disconnected (some callback)) := by
  have hcall : ∀ {s : Status}, .disconnectCalled callback id status request ∈
      conn.disconnectCall i s →
        i = id ∧ conn.request = request ∧ conn.onDisconnect = some callback := by
    intro s hmem
    obtain ⟨hid, hkeeps, -, hrequest⟩ := Connection.of_mem_disconnectCall hmem
    exact ⟨hid, hrequest.symm, hkeeps⟩
  have hfailure : ∀ {error : PoolError}, .disconnectCalled callback id status request ∈
      conn.failureCalls i error →
        i = id ∧ conn.request = request ∧ conn.onDisconnect = some callback := by
    intro error hmem
    rcases List.mem_append.1 hmem with hconnect | hdisconnect
    · exact absurd hconnect Connection.disconnectCalled_not_mem_connectCall
    · split at hdisconnect
      · exact hcall hdisconnect
      · cases hdisconnect
  cases ending with
  | bad _ _ | pollFailed _ | refused _ _ | abandoned _ _ =>
      obtain ⟨hid, hrequest, hkeeps⟩ := hfailure hmem
      exact ⟨hid, hrequest, .inl hkeeps⟩
  | deferred | lost _ _ | shrunk _ _ =>
      obtain ⟨hid, hrequest, hkeeps⟩ := hcall hmem
      exact ⟨hid, hrequest, .inl hkeeps⟩
  | disconnected onDisconnect =>
      obtain ⟨hid, hkeeps, -, hrequest⟩ := Connection.of_mem_disconnectCall hmem
      exact ⟨hid, hrequest.symm, .inr (congrArg _ hkeeps)⟩
  | dismissed _ => cases hmem
  | shutDown =>
      rcases List.mem_append.1 hmem with hconnect | hdisconnect
      · exact absurd hconnect Connection.disconnectCalled_not_mem_connectCall
      · obtain ⟨hid, hrequest, hkeeps⟩ := hcall hdisconnect
        exact ⟨hid, hrequest, .inl hkeeps⟩

/-- A disconnect callback is called when a connection ends, with the request
    that its record keeps. -/
theorem Act.party_of_disconnectCalled {v : View ρ κ} {act : Act ρ κ} (enabled : act.Enabled v)
    (hmem : .disconnectCalled callback id status request ∈ act.events) :
    ∃ conn ending, act = .finished id conn ending ∧ conn.request = request ∧
      (conn.onDisconnect = some callback ∨ ending = .disconnected (some callback)) := by
  have hcalls : .disconnectCalled callback id status request ∈ callsFor id act.events :=
    mem_callsFor.2 ⟨hmem, rfl⟩
  have htold := mem_told enabled hmem rfl
  by_cases hremoves : act.Removes id
  · cases act with
    | finished i conn ending =>
        rcases List.mem_append.1 htold with hcall | htorn
        · obtain ⟨rfl, hrest⟩ := Ending.of_disconnectCalled hcall
          exact ⟨conn, ending, rfl, hrest⟩
        · cases List.mem_singleton.1 htorn
    | openFailed i target conn ending =>
        -- a new connection keeps no disconnect callback, and no opening ends by a disconnect
        rcases List.mem_append.1 htold with hcall | htorn
        · obtain ⟨-, -, hkeeps | hends⟩ := Ending.of_disconnectCalled hcall
          · rw [enabled.1] at hkeeps
            cases hkeeps
          · have hopening := enabled.2.2.1
            rw [hends] at hopening
            exact hopening.elim
        · cases List.mem_singleton.1 htorn
    | noted _ | asked _ _ _ | poolCreated _ _ | opened _ _ _ _ | openSpoiled _ _ _
    | stepped _ _ _ | lent _ _ _ _ _ _ | takenBack _ _ _ _ | adopted _ _ _ _ | tagged _ _ _
    | deferred _ _ _ | poolsDropped => exact hremoves.elim
  · exact (isSuccess_of_not_removes enabled hremoves _ hcalls).elim

end

/-! ## Bound connections -/

/-- Whether an act binds the connection under `id` to a caller. -/
def Act.Binds (id : ConnId) : Act ρ κ → Prop
  | opened i _ conn _ => i = id ∧ conn.membership = .registry
  | lent i _ _ _ _ _ => i = id
  | noted _ | asked .. | poolCreated .. | openFailed .. | openSpoiled .. | stepped ..
  | takenBack .. | adopted .. | tagged .. | deferred .. | finished .. | poolsDropped => False

/-- The connection is not idle, and bound to the caller of `request`; if it still
    keeps a connect callback, it is `onConnect`. -/
structure Connection.BoundTo (conn : Connection ρ κ) (request : Option ρ) (onConnect : Option κ) :
    Prop where
  not_free : conn.membership.isFree = false
  request_eq : conn.request = request
  onConnect_of_kept : ∀ callback, conn.onConnect = some callback → onConnect = some callback

namespace Connection

theorem boundTo_self (conn : Connection ρ κ) (h : conn.membership.isFree = false) :
    conn.BoundTo conn.request conn.onConnect where
  not_free := h
  request_eq := rfl
  onConnect_of_kept _ hkept := hkept

theorem BoundTo.trans {conn first : Connection ρ κ} {request : Option ρ} {onConnect : Option κ}
    (h : conn.BoundTo first.request first.onConnect) (hfirst : first.BoundTo request onConnect) :
    conn.BoundTo request onConnect where
  not_free := h.not_free
  request_eq := h.request_eq.trans hfirst.request_eq
  onConnect_of_kept callback hkept :=
    hfirst.onConnect_of_kept callback (h.onConnect_of_kept callback hkept)

theorem boundTo_stepped (conn : Connection ρ κ) (h : conn.membership.isFree = false)
    (poll : PollReport) : (conn.stepped poll).BoundTo conn.request conn.onConnect where
  not_free := h
  request_eq := rfl
  onConnect_of_kept callback hkept := by
    simp only [stepped] at hkept
    split at hkept
    · cases hkept
    · exact hkept

theorem boundTo_lentBy (conn : Connection ρ κ) (key : PoolKey) (request : Option ρ)
    (onConnect : Option κ) : (conn.lentBy key request onConnect).BoundTo request onConnect where
  not_free := rfl
  request_eq := rfl
  onConnect_of_kept callback hkept := by
    simp only [lentBy] at hkept
    split at hkept
    · cases hkept
    · exact hkept

end Connection

/-- A connection that is bound after an act was so before, to the same caller,
    unless the act binds it. -/
theorem Act.boundTo_of_run {v : View ρ κ} {act : Act ρ κ} (enabled : act.Enabled v)
    (hw : v.ctx.Orderly) {id : ConnId} (hbinds : ¬act.Binds id) {conn' : Connection ρ κ}
    (hconn' : (act.run v).ctx.conn? id = some conn') (hbound : conn'.membership.isFree = false) :
    ∃ conn, v.ctx.conn? id = some conn ∧ conn.membership.isFree = false ∧
      conn'.BoundTo conn.request conn.onConnect ∧
      (conn'.onDisconnect = conn.onDisconnect ∨
        ∃ old, act = .deferred id old conn'.onDisconnect) := by
  rcases conn?_of_run enabled hw hconn' with hold | hchange
  · exact ⟨conn', hold, hbound, conn'.boundTo_self hbound, .inl rfl⟩
  · cases act with
    | noted _ | asked _ _ _ | poolCreated _ _ | openFailed _ _ _ _ | openSpoiled _ _ _
    | poolsDropped | finished _ _ _ => cases hchange
    | opened i target conn poll =>
        cases hchange
        -- opened, but not bound: it is idle in a pool
        rcases enabled.2.2.2.2.1 with hdirect | ⟨⟨key, hfree⟩, -⟩
        · exact absurd ⟨rfl, hdirect⟩ hbinds
        · simp only [Connection.stepped, hfree, Membership.isFree] at hbound
          cases hbound
    | stepped i conn poll =>
        cases hchange
        exact ⟨conn, enabled.1, hbound, conn.boundTo_stepped hbound poll, .inl rfl⟩
    | lent i conn _ _ _ _ =>
        cases hchange
        exact absurd rfl hbinds
    | takenBack i conn _ _ | adopted i conn _ _ =>
        cases hchange
        cases hbound
    | tagged i conn _ =>
        cases hchange
        exact ⟨conn, enabled.1, hbound, ⟨hbound, rfl, fun _ hkept => hkept⟩, .inl rfl⟩
    | deferred i conn onDisconnect =>
        cases hchange
        exact ⟨conn, enabled.1, hbound, ⟨hbound, rfl, fun _ hkept => hkept⟩, .inr ⟨conn, rfl⟩⟩

/-- An act that binds a connection binds it to the party that it calls for. -/
theorem Act.boundTo_of_binds {v : View ρ κ} {act : Act ρ κ} (enabled : act.Enabled v)
    (hw : v.ctx.Orderly) (hc : v.ctx.Coherent) {id : ConnId} (hbinds : act.Binds id) :
    ∃ conn conn', act.party? = some (id, conn) ∧ (act.run v).ctx.conn? id = some conn' ∧
      conn'.BoundTo conn.request conn.onConnect ∧ conn'.onDisconnect = none := by
  have hrun := conn?_run enabled hw id
  cases act with
  | opened i target conn poll =>
      obtain ⟨rfl, hdirect⟩ := hbinds
      have hbound : conn.membership.isFree = false := by
        rw [hdirect]
        rfl
      have hnone : conn.onDisconnect = none := by rw [enabled.1]
      exact ⟨conn, conn.stepped poll, rfl, hrun.trans (if_pos rfl),
        conn.boundTo_stepped hbound poll, hnone⟩
  | lent i conn key request onConnect load =>
      obtain rfl : i = id := hbinds
      have hfree : conn.membership.isFree = true := by
        rw [enabled.2]
        rfl
      -- it was idle, so no disconnect waits for it
      exact ⟨_, conn.lentBy key request onConnect, rfl, hrun.trans (if_pos rfl),
        conn.boundTo_lentBy key request onConnect, ((hc i conn enabled.1).free hfree).2.2.1⟩
  | noted _ | asked _ _ _ | poolCreated _ _ | openFailed _ _ _ _ | openSpoiled _ _ _
  | stepped _ _ _ | takenBack _ _ _ _ | adopted _ _ _ _ | tagged _ _ _ | deferred _ _ _
  | finished _ _ _ | poolsDropped => exact hbinds.elim

/-- Along acts that do not bind a connection, it stays bound to the same
    caller. -/
theorem Path.boundTo_of_live {v v' : View ρ κ} {acts : List (Act ρ κ)} (h : Path v acts v')
    (hw : v.ctx.Orderly) {id : ConnId} (hbinds : ∀ act ∈ acts, ¬act.Binds id)
    {conn' : Connection ρ κ} (hconn' : v'.ctx.conn? id = some conn')
    (hbound : conn'.membership.isFree = false) :
    ∃ conn, v.ctx.conn? id = some conn ∧ conn.membership.isFree = false ∧
      conn'.BoundTo conn.request conn.onConnect ∧
      (conn'.onDisconnect = conn.onDisconnect ∨
        ∃ old, .deferred id old conn'.onDisconnect ∈ acts) := by
  -- over the path, read from its end
  induction h with
  | nil => exact ⟨conn', hconn', hbound, conn'.boundTo_self hbound, .inl rfl⟩
  | cons enabled _ ih =>
      obtain ⟨hact, hrest⟩ := List.forall_mem_cons.1 hbinds
      obtain ⟨middle, hmiddle, hnot, hlater, hkept⟩ :=
        ih (Act.orderly_run enabled hw) hrest hconn'
      obtain ⟨conn, hconn, hfree, hfirst, hfirstKept⟩ :=
        Act.boundTo_of_run enabled hw hact hmiddle hnot
      refine ⟨conn, hconn, hfree, hlater.trans hfirst, ?_⟩
      rcases hkept with heq | ⟨old, hmem⟩
      · rcases hfirstKept with heq' | ⟨old, rfl⟩
        · exact .inl (heq.trans heq')
        · refine .inr ⟨old, ?_⟩
          rw [heq]
          exact List.mem_cons_self
      · exact .inr ⟨old, List.mem_cons_of_mem _ hmem⟩

/-- What is idle stays so along acts that do not bind it, unless it goes. -/
theorem Path.isFree_of_live {v v' : View ρ κ} {acts : List (Act ρ κ)} (h : Path v acts v')
    (hw : v.ctx.Orderly) {id : ConnId} (hbinds : ∀ act ∈ acts, ¬act.Binds id)
    (hfree : ∀ conn, v.ctx.conn? id = some conn → conn.membership.isFree = true)
    {conn' : Connection ρ κ} (hconn' : v'.ctx.conn? id = some conn') :
    conn'.membership.isFree = true := by
  by_contra hnot
  obtain ⟨conn, hconn, hbound, -⟩ :=
    h.boundTo_of_live hw hbinds hconn' (Bool.eq_false_iff.2 hnot)
  rw [hfree conn hconn] at hbound
  cases hbound

/-! ## Operations -/

theorem Act.Idle.not_binds {key : PoolKey} {act : Act ρ κ} (h : act.Idle key) (id : ConnId) :
    ¬act.Binds id := by
  cases act with
  | opened i target conn poll =>
      rintro ⟨-, hdirect⟩
      cases h.1.symm.trans hdirect
  | lent _ _ _ _ _ _ => exact h.elim
  | noted _ | asked _ _ _ | poolCreated _ _ | openFailed _ _ _ _ | openSpoiled _ _ _
  | stepped _ _ _ | takenBack _ _ _ _ | adopted _ _ _ _ | tagged _ _ _ | deferred _ _ _
  | finished _ _ _ | poolsDropped => exact fun hbinds => hbinds

theorem Act.BelongsTo.not_binds {operation : Operation ρ κ} {answer : Answer} {act : Act ρ κ}
    (h : act.BelongsTo operation answer) (hnot : ¬operation.Provides) (id : ConnId) :
    ¬act.Binds id := by
  cases act with
  | opened _ _ _ _ => exact absurd h hnot
  | lent _ _ _ _ _ _ =>
      rw [h.1] at hnot
      exact absurd trivial hnot
  | noted _ | asked _ _ _ | poolCreated _ _ | openFailed _ _ _ _ | openSpoiled _ _ _
  | stepped _ _ _ | takenBack _ _ _ _ | adopted _ _ _ _ | tagged _ _ _ | deferred _ _ _
  | finished _ _ _ | poolsDropped => exact fun hbinds => hbinds

section

variable {target : Target} {request : Option ρ} {onConnect : Option κ} {membership : Membership}
  {outcome : Except PoolError ConnId} {act : Act ρ κ} {id : ConnId}

theorem Opening.outcome_of_binds (h : Opening target request onConnect membership outcome act)
    (hbinds : act.Binds id) : outcome = .ok id := by
  cases h with
  | opened i conn poll hrequest honConnect hmembership => rw [hbinds.1]
  | unstarted _ _ _ | spoiled _ _ | failed _ _ _ _ _ _ _ _ => exact hbinds.elim

theorem Opening.binds_of_ok
    (h : Opening target request onConnect .registry (.ok id) act) : act.Binds id := by
  cases h with
  | opened i conn poll hrequest honConnect hmembership => exact ⟨rfl, hmembership⟩

theorem Opening.of_party (h : Opening target request onConnect membership outcome act)
    {conn : Connection ρ κ} (hparty : act.party? = some (id, conn)) :
    request = conn.request ∧ onConnect = conn.onConnect ∧
      ∀ other, outcome = .ok other → other = id := by
  cases h with
  | opened i opened poll hrequest honConnect hmembership =>
      cases hparty
      refine ⟨hrequest.symm, honConnect.symm, fun other hother => ?_⟩
      cases hother
      rfl
  | failed i opened ending error herror hrequest honConnect hmembership =>
      cases hparty
      refine ⟨hrequest.symm, honConnect.symm, fun other hother => ?_⟩
      cases hother
  | unstarted _ _ _ | spoiled _ _ => cases hparty

end

namespace Course

variable {operation : Operation ρ κ} {answer : Answer} {acts : List (Act ρ κ)} {v v' : View ρ κ}
  {id : ConnId}

/-- What an operation binds to its caller, it answers. -/
theorem answer_of_binds (h : Course operation answer acts) {act : Act ρ κ} (hmem : act ∈ acts)
    (hbinds : act.Binds id) : answer = .opened (.ok id) := by
  have hbelongs := h.belongsTo act hmem
  -- what prepares a pool binds nothing
  have hprepared : ∀ {key : PoolKey} {prepared : List (Act ρ κ)},
      (∀ act ∈ prepared, act.Idle key) → act ∉ prepared :=
    fun hidle hmem => (hidle act hmem).not_binds id hbinds
  cases h with
  | misdirected _ _ _ _ _ _ => cases hmem
  | connect _ _ _ _ _ _ hopening | connectUri _ _ _ hopening =>
      obtain rfl := List.mem_singleton.1 hmem
      rw [hopening.outcome_of_binds hbinds]
  | acquire hacquisition =>
      cases hacquisition with
      | unregistered => cases hmem
      | exhausted acts hidle => exact absurd hmem (hprepared hidle)
      | lent acts hidle i conn load =>
          obtain rfl := List.mem_singleton.1
            ((List.mem_append.1 hmem).resolve_left (hprepared hidle))
          rw [show i = id from hbinds]
      | direct acts hidle i target conn poll hopening =>
          rcases List.mem_cons.1 ((List.mem_append.1 hmem).resolve_left (hprepared hidle))
            with rfl | htagged
          · rw [hopening.outcome_of_binds hbinds]
          · obtain rfl := List.mem_singleton.1 htagged
            exact hbinds.elim
      | failed acts hidle target error last hopening =>
          obtain rfl := List.mem_singleton.1
            ((List.mem_append.1 hmem).resolve_left (hprepared hidle))
          rw [hopening.outcome_of_binds hbinds]
  | spawn _ _ _ acts hidle => exact absurd hmem (hprepared hidle)
  | reclaim _ | unknown _ _ | deferred _ _ _ | disconnected _ _ _ | advance _ _ _ | stale _ _
  | asked _ _ _ _ _ | shutdown _ _ _ =>
      exact absurd hbinds (hbelongs.not_binds (fun hprovides => hprovides) id)

/-- What an operation answers, it has bound, and nothing that it does later
    binds it again or records a disconnect. -/
theorem binds_of_answer (h : Course operation answer acts) (hanswer : answer = .opened (.ok id)) :
    ∃ prepared act last, acts = prepared ++ act :: last ∧ act.Binds id ∧
      (∀ other ∈ last, ¬other.Binds id ∧ ¬other.Defers id) := by
  cases h with
  | connect _ _ _ _ _ _ hopening | connectUri _ _ _ hopening =>
      cases hanswer
      exact ⟨[], _, [], rfl, hopening.binds_of_ok, List.forall_mem_nil _⟩
  | acquire hacquisition =>
      cases hanswer
      cases hacquisition with
      | lent acts hidle _ conn load =>
          exact ⟨acts, _, [], rfl, rfl, List.forall_mem_nil _⟩
      | direct acts hidle _ target conn poll hopening =>
          exact ⟨acts, _, _, rfl, hopening.binds_of_ok,
            List.forall_mem_singleton.2 ⟨fun hbinds => hbinds, fun hdefers => hdefers⟩⟩
  | misdirected _ _ _ _ _ _ | spawn _ _ _ _ _ | reclaim _ | unknown _ _ | deferred _ _ _
  | disconnected _ _ _ | advance _ _ _ | stale _ _ | asked _ _ _ _ _ | shutdown _ _ _ =>
      cases hanswer

/-- An operation that provides acts for its caller, unless it only prepares a
    pool. -/
theorem of_party (h : Course operation answer acts) (hprovides : operation.Provides) {act : Act ρ κ}
    (hmem : act ∈ acts) (hnot : ∀ key, ¬act.Idle key) {conn : Connection ρ κ}
    (hparty : act.party? = some (id, conn)) :
    operation.request? = conn.request ∧ operation.onConnect? = conn.onConnect ∧
      ∀ other, answer = .opened (.ok other) → other = id := by
  have hprepared : ∀ {key : PoolKey} {prepared : List (Act ρ κ)},
      (∀ act ∈ prepared, act.Idle key) → act ∉ prepared :=
    fun hidle hmem => hnot _ (hidle act hmem)
  have hopened : ∀ {target : Target} {request : Option ρ} {onConnect : Option κ}
      {outcome : Except PoolError ConnId},
      Opening target request onConnect .registry outcome act →
        request = conn.request ∧ onConnect = conn.onConnect ∧
          ∀ other, Answer.opened outcome = .opened (.ok other) → other = id := by
    intro target request onConnect outcome hopening
    obtain ⟨hrequest, honConnect, houtcome⟩ := hopening.of_party hparty
    exact ⟨hrequest, honConnect, fun other hother => houtcome other (Answer.opened.inj hother)⟩
  cases h with
  | misdirected _ _ _ _ _ _ => cases hmem
  | connect _ _ _ _ _ _ hopening | connectUri _ _ _ hopening =>
      obtain rfl := List.mem_singleton.1 hmem
      exact hopened hopening
  | acquire hacquisition =>
      cases hacquisition with
      | unregistered => cases hmem
      | exhausted acts hidle => exact absurd hmem (hprepared hidle)
      | lent acts hidle i lentConn load =>
          obtain rfl := List.mem_singleton.1
            ((List.mem_append.1 hmem).resolve_left (hprepared hidle))
          cases hparty
          refine ⟨rfl, rfl, fun other hother => ?_⟩
          cases hother
          rfl
      | direct acts hidle i target opened poll hopening =>
          rcases List.mem_cons.1 ((List.mem_append.1 hmem).resolve_left (hprepared hidle))
            with rfl | htagged
          · exact hopened hopening
          · obtain rfl := List.mem_singleton.1 htagged
            cases hparty
      | failed acts hidle target error last hopening =>
          obtain rfl := List.mem_singleton.1
            ((List.mem_append.1 hmem).resolve_left (hprepared hidle))
          exact hopened hopening
  | spawn _ _ _ acts hidle => exact absurd hmem (hprepared hidle)
  | reclaim _ | unknown _ _ | deferred _ _ _ | disconnected _ _ _ | advance _ _ _ | stale _ _
  | asked _ _ _ _ _ | shutdown _ _ _ => exact hprovides.elim

/-- The connection that an operation answers is bound to its caller. -/
theorem boundTo_of_answer (h : Course operation answer acts) (hpath : Path v acts v')
    (hw : v.ctx.Orderly) (hc : v.ctx.Coherent) (hanswer : answer = .opened (.ok id))
    {conn' : Connection ρ κ} (hconn' : v'.ctx.conn? id = some conn')
    (hbound : conn'.membership.isFree = false) :
    conn'.BoundTo operation.request? operation.onConnect? ∧ conn'.onDisconnect = none := by
  obtain ⟨prepared, act, last, rfl, hbinds, hlast⟩ := h.binds_of_answer hanswer
  have hmem : act ∈ prepared ++ act :: last := List.mem_append_right _ List.mem_cons_self
  have hprovides : operation.Provides := by
    by_contra hnot
    exact (h.belongsTo act hmem).not_binds hnot id hbinds
  obtain ⟨v₁, hprepared, hrest⟩ := hpath.of_append
  cases hrest with
  | cons enabled hlater =>
      have hw₁ := hprepared.orderly hw
      obtain ⟨party, conn, hparty, hconn, hto, hnone⟩ :=
        Act.boundTo_of_binds enabled hw₁ (hprepared.coherent hw hc) hbinds
      obtain ⟨hrequest, honConnect, -⟩ :=
        h.of_party hprovides hmem (fun key hidle => hidle.not_binds id hbinds) hparty
      rw [hrequest, honConnect]
      obtain ⟨found, hfound, -, hkeeps, hkept⟩ := hlater.boundTo_of_live
        (Act.orderly_run enabled hw₁) (fun other hother => (hlast other hother).1) hconn' hbound
      obtain rfl : found = conn := Option.some.inj (hfound.symm.trans hconn)
      refine ⟨hkeeps.trans hto, ?_⟩
      rcases hkept with heq | ⟨old, hdeferred⟩
      · rw [heq, hnone]
      · exact absurd rfl (hlast _ hdeferred).2

/-- A connection that is taken back is idle afterwards, or gone. -/
theorem isFree_of_takesBack (h : Course operation answer acts) (hpath : Path v acts v')
    (hw : v.ctx.Orderly) (htakes : operation.TakesBack answer id) {conn' : Connection ρ κ}
    (hconn' : v'.ctx.conn? id = some conn') : conn'.membership.isFree = true := by
  obtain ⟨rfl, rfl⟩ := htakes
  cases h with
  | reclaim hreclaiming =>
      cases hreclaiming with
      | takenBack conn key load last hshrinks | adopted conn key size last hshrinks =>
          cases hpath with
          | cons enabled hrest =>
              -- it is put back among the idle ones, and shrinking binds nothing
              refine hrest.isFree_of_live (Act.orderly_run enabled hw) (fun act hmem => ?_)
                (fun found hfound => ?_) hconn'
              · obtain ⟨i, conn, load, rfl⟩ := (hshrinks act hmem).eq_finished
                exact fun hbinds => hbinds
              · rw [Act.conn?_run enabled hw] at hfound
                simp only [Act.change, if_pos, Option.some.injEq] at hfound
                rw [← hfound]
                rfl
      | dismissed conn key =>
          have hgone := hpath.conn?_of_ends hw (List.forall_mem_singleton.2 fun hopens => hopens)
            ⟨_, List.mem_cons_self, rfl⟩
          cases hgone.symm.trans hconn'

/-! ## Calls -/

/-- A connect callback is called with the request that it came with: it came
    with the operation, or its connection was bound to its caller before. -/
theorem of_connectCalled (h : Course operation answer acts) (hpath : Path v acts v')
    (hw : v.ctx.Orderly) (hc : v.ctx.Coherent) {callback : κ} {status : Status}
    {request : Option ρ}
    (hmem : .connectCalled callback id status request ∈ acts.flatMap Act.events) :
    (operation.onConnect? = some callback ∧ operation.request? = request ∧
        ∀ other, answer = .opened (.ok other) → other = id) ∨
      ∃ conn, v.ctx.conn? id = some conn ∧ conn.membership.isFree = false ∧
        conn.onConnect = some callback ∧ conn.request = request := by
  obtain ⟨act, hact, hevent⟩ := List.mem_flatMap.1 hmem
  obtain ⟨earlier, later, v₁, rfl, hearlier, enabled, -⟩ := hpath.of_mem hact
  obtain ⟨party, hparty, hkept, rfl⟩ := Act.party_of_connectCalled enabled hevent
  by_cases hprovides : operation.Provides
  · have hnot : ∀ key, ¬act.Idle key := fun key hidle => by
      have htaken := (Act.callsConnect_of_mem enabled hevent).taken_of_provides
        (h.belongsTo act hact) hprovides
      rw [hidle.taken_eq_none .connect] at htaken
      cases htaken
    obtain ⟨hrequest, honConnect, hanswer⟩ := h.of_party hprovides hact hnot hparty
    exact .inl ⟨honConnect.trans hkept, hrequest, hanswer⟩
  · -- the connection kept the callback, and what the operation did before bound nothing
    have hbelongs := h.belongsTo act hact
    have hlive : v₁.ctx.conn? id = some party := by
      cases act with
      | stepped i conn _ | finished i conn _ =>
          cases hparty
          exact enabled.1
      | opened _ _ _ _ | openFailed _ _ _ _ => exact absurd hbelongs hprovides
      | lent _ _ _ _ _ _ =>
          rw [hbelongs.1] at hprovides
          exact absurd trivial hprovides
      | noted _ | asked _ _ _ | poolCreated _ _ | openSpoiled _ _ _ | takenBack _ _ _ _
      | adopted _ _ _ _ | tagged _ _ _ | deferred _ _ _ | poolsDropped => cases hparty
    have hbound : party.membership.isFree = false := Bool.eq_false_iff.2 fun hfree => by
      rw [((hearlier.coherent hw hc id party hlive).free hfree).2.1] at hkept
      cases hkept
    obtain ⟨conn, hconn, hfree, hto, -⟩ := hearlier.boundTo_of_live hw
      (fun act hmem => (h.belongsTo act (List.mem_append_left _ hmem)).not_binds hprovides id)
      hlive hbound
    exact .inr ⟨conn, hconn, hfree, hto.onConnect_of_kept callback hkept, hto.request_eq.symm⟩

/-- A disconnect callback is called with the request of the connection as the
    operation found it; it was kept there, or comes with the operation. -/
theorem of_disconnectCalled (h : Course operation answer acts) (hpath : Path v acts v')
    (hw : v.ctx.Orderly) (hc : v.ctx.Coherent) {callback : κ} {status : Status}
    {request : Option ρ}
    (hmem : .disconnectCalled callback id status request ∈ acts.flatMap Act.events) :
    ∃ conn, v.ctx.conn? id = some conn ∧ conn.request = request ∧
      ((conn.membership.isFree = false ∧ conn.onDisconnect = some callback) ∨
        operation.Disconnects answer id (some callback)) := by
  obtain ⟨act, hact, hevent⟩ := List.mem_flatMap.1 hmem
  obtain ⟨earlier, later, v₁, heq, hearlier, enabled, -⟩ := hpath.of_mem hact
  obtain ⟨ended, ending, rfl, rfl, hkept | rfl⟩ := Act.party_of_disconnectCalled enabled hevent
  · have hbelongs := h.belongsTo _ hact
    have hprovides := hbelongs.not_provides
    have hbound : ended.membership.isFree = false := Bool.eq_false_iff.2 fun hfree => by
      rw [((hearlier.coherent hw hc id ended enabled.1).free hfree).2.2.1] at hkept
      cases hkept
    have hmemEarlier : ∀ act ∈ earlier, act ∈ acts := fun act hmem => by
      rw [heq]
      exact List.mem_append_left _ hmem
    obtain ⟨conn, hconn, hfree, hto, hfrom⟩ := hearlier.boundTo_of_live hw
      (fun act hmem => (h.belongsTo act (hmemEarlier act hmem)).not_binds hprovides id)
      enabled.1 hbound
    refine ⟨conn, hconn, hto.request_eq.symm, ?_⟩
    rcases hfrom with hsame | ⟨old, hdeferred⟩
    · exact .inl ⟨hfree, hsame.symm.trans hkept⟩
    · rw [hkept] at hdeferred
      exact .inr (h.belongsTo _ (hmemEarlier _ hdeferred))
  · -- the disconnect itself ends the connection, and does nothing before
    have hdisconnects : operation.Disconnects answer id (some callback) := h.belongsTo _ hact
    refine ⟨ended, ?_, rfl, .inr hdisconnects⟩
    obtain ⟨rfl, rfl⟩ := hdisconnects
    cases h with
    | deferred _ _ _ => cases List.mem_singleton.1 hact
    | disconnected _ _ conn =>
        cases List.mem_singleton.1 hact
        cases hpath with
        | cons enabled _ => exact enabled.1

end Course

end ConnPool
