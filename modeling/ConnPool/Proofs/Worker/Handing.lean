/-
  ConnPool.Proofs.Worker.Handing

  Which callbacks operations take from their callers, and which they drop.

  A connect callback is taken unless the opening is refused before there is a
  connection to keep it; a disconnect callback is taken if the disconnect is
  answered.  A callback is dropped when its connection is taken back, when a
  waiting disconnect comes before the connect callback, and when a disconnect
  callback is replaced by that of a later disconnect.
-/

import ConnPool.Proofs.Worker.Callbacks
import ConnPool.Proofs.Worker.Course

namespace ConnPool

variable {ρ κ : Type}

/-- The connect callback that an operation comes with. -/
def Operation.onConnect? : Operation ρ κ → Option κ
  | connect _ onConnect _ _ _ | connectUri _ onConnect _ | acquire _ _ onConnect => onConnect
  | spawn .. | reclaim _ | disconnect .. | advance .. | session .. | shutdown => none

/-- The disconnect callback that an answered disconnect comes with. -/
def Operation.onDisconnect? : Operation ρ κ → Answer → Option κ
  | disconnect _ onDisconnect, .status (.ok ()) => onDisconnect
  | _, _ => none

/-- Errors of openings that never came to a handshake. -/
def PoolError.isRefusal : PoolError → Bool
  | allocation _ | socketMode _ | configurationNotFound _ | poolExhausted _ | invalidConfig _ =>
    true
  | handshake _ | registration _ | connectionLost _ | duplicatePool _ | unknownConnection _
  | notBorrowed _ | shutdown => false

/-- Whether an opening was refused before there was a connection. -/
def Answer.isRefusal : Answer → Bool
  | .opened (.error error) => error.isRefusal
  | _ => false

theorem Ending.not_isRefusal_of_failure {ending : Ending κ} {error : PoolError}
    (h : ending.failure? = some error) : error.isRefusal = false := by
  cases ending with
  | bad _ _ | pollFailed _ | refused _ _ | abandoned _ _ =>
      obtain rfl := Option.some.inj h
      rfl
  | deferred | disconnected _ | lost _ _ | shrunk _ _ | dismissed _ | shutDown => cases h

/-! ## Taking -/

theorem Act.Idle.taken_eq_none {key : PoolKey} {act : Act ρ κ} (h : act.Idle key) (hook : Hook) :
    act.taken hook = none := by
  cases act with
  | noted _ | poolCreated _ _ | openSpoiled _ _ _ => rfl
  | opened _ _ conn _ | openFailed _ _ conn _ =>
      cases hook with
      | connect => exact h.2.2
      | disconnect => rfl
  | asked _ _ _ | stepped _ _ _ | lent _ _ _ _ _ _ | takenBack _ _ _ _ | adopted _ _ _ _
  | tagged _ _ _ | deferred _ _ _ | finished _ _ _ | poolsDropped => exact h.elim

theorem Ending.taken_connect (ending : Ending κ) : ending.taken .connect = none := by
  cases ending with
  | bad _ _ | pollFailed _ | refused _ _ | abandoned _ _ | deferred | disconnected _ | lost _ _
  | shrunk _ _ | dismissed _ | shutDown => rfl

namespace Act.BelongsTo

variable {operation : Operation ρ κ} {answer : Answer} {act : Act ρ κ}

theorem taken_connect (h : act.BelongsTo operation answer) (hnot : ¬operation.Provides) :
    act.taken .connect = none := by
  cases act with
  | opened _ _ _ _ | openFailed _ _ _ _ => exact absurd h hnot
  | lent _ _ _ _ _ _ =>
      rw [h.1] at hnot
      exact absurd trivial hnot
  | finished id conn ending => exact ending.taken_connect
  | noted _ | asked _ _ _ | poolCreated _ _ | openSpoiled _ _ _ | stepped _ _ _
  | takenBack _ _ _ _ | adopted _ _ _ _ | tagged _ _ _ | deferred _ _ _ | poolsDropped => rfl

theorem taken_disconnect (h : act.BelongsTo operation answer)
    (hnot : ∀ id onDisconnect, operation ≠ .disconnect id onDisconnect) :
    act.taken .disconnect = none := by
  cases act with
  | deferred id conn onDisconnect => exact absurd h.1 (hnot id onDisconnect)
  | finished id conn ending =>
      cases ending with
      | disconnected onDisconnect => exact absurd h.1 (hnot id onDisconnect)
      | bad _ _ | pollFailed _ | refused _ _ | abandoned _ _ | deferred | lost _ _ | shrunk _ _
      | dismissed _ | shutDown => rfl
  | noted _ | asked _ _ _ | poolCreated _ _ | opened _ _ _ _ | openFailed _ _ _ _
  | openSpoiled _ _ _ | stepped _ _ _ | lent _ _ _ _ _ _ | takenBack _ _ _ _ | adopted _ _ _ _
  | tagged _ _ _ | poolsDropped => rfl

end Act.BelongsTo

section

variable [DecidableEq κ]

variable {acts : List (Act ρ κ)} {hook : Hook} {callback : κ}

theorem takenBy_append (first second : List (Act ρ κ)) :
    takenBy (first ++ second) hook callback =
      takenBy first hook callback + takenBy second hook callback := by
  rw [takenBy, List.map_append, List.sum_append]
  rfl

theorem takenBy_eq_zero (h : ∀ act ∈ acts, act.taken hook = none) :
    takenBy acts hook callback = 0 := by
  refine List.sum_eq_zero_iff_forall_eq_nat.2 (List.forall_mem_map.2 fun act hmem => ?_)
  rw [h act hmem, tally_none]

theorem takenBy_of_idle {key : PoolKey} (h : ∀ act ∈ acts, act.Idle key) :
    takenBy acts hook callback = 0 :=
  takenBy_eq_zero fun act hmem => (h act hmem).taken_eq_none hook

/-- An opening takes its connect callback unless it is refused. -/
theorem Opening.taken {target : Target} {request : Option ρ} {onConnect : Option κ}
    {membership : Membership} {outcome : Except PoolError ConnId} {act : Act ρ κ}
    (h : Opening target request onConnect membership outcome act) (callback : κ) :
    tally (act.taken .connect) callback +
        (if (Answer.opened outcome).isRefusal = true then tally onConnect callback else 0) =
      tally onConnect callback := by
  cases h with
  | opened id conn poll hrequest honConnect hmembership =>
      rw [← honConnect]
      rfl
  | unstarted reason events hrefused => exact Nat.zero_add _
  | spoiled session reason => exact Nat.zero_add _
  | failed id conn ending error herror hrequest honConnect hmembership =>
      have hnot : (Answer.opened (.error error)).isRefusal = false :=
        Ending.not_isRefusal_of_failure herror
      rw [hnot, ← honConnect]
      rfl

/-- Operations take connect callbacks unless they are refused. -/
theorem Course.takenBy_connect {operation : Operation ρ κ} {answer : Answer} {acts : List (Act ρ κ)}
    (h : Course operation answer acts) (callback : κ) :
    takenBy acts .connect callback +
        (if answer.isRefusal = true then tally operation.onConnect? callback else 0) =
      tally operation.onConnect? callback := by
  have hbelongs := h.belongsTo
  cases h with
  | misdirected _ _ _ _ _ _ => exact Nat.zero_add _
  | connect _ _ _ _ _ _ hopening | connectUri _ _ _ hopening => exact hopening.taken callback
  | acquire hacquisition =>
      -- the idle acts before the last ones take nothing
      cases hacquisition with
      | unregistered => exact Nat.zero_add _
      | exhausted acts hidle =>
          rw [takenBy_of_idle hidle]
          exact Nat.zero_add _
      | lent acts hidle id conn load =>
          rw [takenBy_append, takenBy_of_idle hidle, Nat.zero_add]
          rfl
      | direct acts hidle id target conn poll hopening =>
          rw [takenBy_append, takenBy_of_idle hidle, Nat.zero_add]
          exact hopening.taken callback
      | failed acts hidle target error act hopening =>
          rw [takenBy_append, takenBy_of_idle hidle, Nat.zero_add]
          exact hopening.taken callback
  | spawn _ _ _ acts hidle =>
      rw [takenBy_of_idle hidle]
      rfl
  | reclaim _ | unknown _ _ | deferred _ _ _ | disconnected _ _ _ | advance _ _ _ | stale _ _
  | asked _ _ _ _ _ | shutdown _ _ _ =>
      -- none of the other operations comes with a connect callback
      rw [takenBy_eq_zero fun act hmem => (hbelongs act hmem).taken_connect fun h => h]
      split
      · rfl
      · rfl

/-- Disconnects take disconnect callbacks when they are answered. -/
theorem Course.takenBy_disconnect {operation : Operation ρ κ} {answer : Answer}
    {acts : List (Act ρ κ)} (h : Course operation answer acts) (callback : κ) :
    takenBy acts .disconnect callback = tally (operation.onDisconnect? answer) callback := by
  have hbelongs := h.belongsTo
  cases h with
  | unknown _ _ | deferred _ _ _ | disconnected _ _ _ => rfl
  | misdirected _ _ _ _ _ _ | connect _ _ _ _ _ _ _ | connectUri _ _ _ _ | acquire _
  | spawn _ _ _ _ _ | reclaim _ | advance _ _ _ | stale _ _ | asked _ _ _ _ _ | shutdown _ _ _ =>
      rw [takenBy_eq_zero fun act hmem =>
        (hbelongs act hmem).taken_disconnect fun _ _ h => by cases h]
      rfl

end

/-! ## Dropping -/

/-- Why an operation drops a callback that the connection under `id` keeps. -/
inductive Operation.Drops (id : ConnId) (conn : Connection ρ κ) (events : List (Event ρ κ)) :
    Operation ρ κ → Answer → Hook → Prop
  /-- The connection is taken back. -/
  | reclaimed (hook : Hook) : Drops id conn events (.reclaim id) (.status (.ok ())) hook
  /-- The handshake succeeds, but a disconnect waits for it. -/
  | overtaken (event : Readiness) (answer : Answer) (hpending : conn.disconnectPending = true)
      (hpolled : .polled conn.session .ok ∈ events) :
      Drops id conn events (.advance id event) answer .connect
  /-- Another disconnect is recorded. -/
  | replaced (onDisconnect : Option κ) :
      Drops id conn events (.disconnect id onDisconnect) (.status (.ok ())) .disconnect

theorem Act.BelongsTo.dropped_eq_none {operation : Operation ρ κ} {answer : Answer} {act : Act ρ κ}
    (h : act.BelongsTo operation answer) (hprovides : operation.Provides) (hook : Hook) :
    act.dropped hook = none := by
  cases act with
  | takenBack _ _ _ _ | adopted _ _ _ _ | deferred _ _ _ =>
      rw [h.1] at hprovides
      exact hprovides.elim
  | finished _ _ _ => exact absurd hprovides h.not_provides
  | noted _ | asked _ _ _ | poolCreated _ _ | opened _ _ _ _ | openFailed _ _ _ _
  | openSpoiled _ _ _ | stepped _ _ _ | lent _ _ _ _ _ _ | tagged _ _ _ | poolsDropped => rfl

/-- Only the first act of an operation drops callbacks. -/
theorem Course.dropped_of_mem_tail {operation : Operation ρ κ} {answer : Answer}
    {acts : List (Act ρ κ)} (h : Course operation answer acts) (hook : Hook) :
    ∀ act ∈ acts.tail, act.dropped hook = none := by
  by_cases hprovides : operation.Provides
  · exact fun act hmem =>
      (h.belongsTo act (List.mem_of_mem_tail hmem)).dropped_eq_none hprovides hook
  · cases h with
    | misdirected _ _ _ _ _ _ | connect _ _ _ _ _ _ _ | connectUri _ _ _ _ | acquire _
    | spawn _ _ _ _ _ => exact absurd trivial hprovides
    | unknown _ _ | stale _ _ | deferred _ _ _ | disconnected _ _ _ | asked _ _ _ _ _ =>
        exact List.forall_mem_nil _
    | @reclaim id status acts hreclaiming =>
        cases hreclaiming with
        | stale | notBorrowed | dismissed conn key => exact List.forall_mem_nil _
        | takenBack conn key load acts hshrinks | adopted conn key size acts hshrinks =>
            -- an idle connection that is shrunk away has its callback called, not dropped
            intro act hmem
            obtain ⟨i, conn, load, rfl⟩ := (hshrinks act hmem).eq_finished
            rfl
    | advance event state hadvancing =>
        cases hadvancing with
        | ignored record | stepped conn poll => exact List.forall_mem_nil _
        | ended conn ending hending records => exact List.forall_mem_singleton.2 rfl
    | shutdown entries count record =>
        intro act hmem
        rcases List.mem_append.1 (List.mem_of_mem_tail hmem) with hmem | hmem
        · obtain ⟨entry, -, rfl⟩ := List.mem_map.1 hmem
          rfl
        · rcases List.mem_cons.1 hmem with rfl | hmem
          · rfl
          · obtain rfl := List.mem_singleton.1 hmem
            rfl

/-- What an operation drops, a connection kept, and there was a reason. -/
theorem Course.drops {operation : Operation ρ κ} {answer : Answer} {acts : List (Act ρ κ)}
    {v v' : View ρ κ} (h : Course operation answer acts) (hpath : Path v acts v') {act : Act ρ κ}
    (hmem : act ∈ acts) {hook : Hook} {callback : κ} (hdropped : act.dropped hook = some callback) :
    ∃ id conn, v.ctx.conn? id = some conn ∧ conn.hung hook = some callback ∧
      Operation.Drops id conn (acts.flatMap Act.events) operation answer hook := by
  cases hpath with
  | nil => cases hmem
  | @cons _ _ first rest enabled _ =>
      -- so the act is the first one, and its connection is as the operation found it
      rcases List.mem_cons.1 hmem with rfl | htail
      · have hbelongs := h.belongsTo act hmem
        cases act with
        | takenBack id conn key load | adopted id conn key size =>
            obtain ⟨rfl, rfl⟩ := hbelongs
            exact ⟨id, conn, enabled.1, hdropped, .reclaimed hook⟩
        | deferred id conn onDisconnect =>
            obtain ⟨rfl, rfl⟩ := hbelongs
            cases hook with
            | connect => cases hdropped
            | disconnect => exact ⟨id, conn, enabled.1, hdropped, .replaced onDisconnect⟩
        | finished id conn ending =>
            cases ending with
            | deferred =>
                obtain ⟨event, rfl⟩ := hbelongs
                cases hook with
                | connect =>
                    obtain ⟨hconn, -, hpending⟩ := enabled
                    refine ⟨id, conn, hconn, hdropped, .overtaken event answer hpending ?_⟩
                    exact List.mem_append_left _ List.mem_cons_self
                | disconnect => cases hdropped
            | dismissed key =>
                obtain ⟨rfl, rfl⟩ := hbelongs
                exact ⟨id, conn, enabled.1, hdropped, .reclaimed hook⟩
            | bad _ _ | pollFailed _ | refused _ _ | abandoned _ _ | disconnected _ | lost _ _
            | shrunk _ _ | shutDown => cases hdropped
        | noted _ | asked _ _ _ | poolCreated _ _ | opened _ _ _ _ | openFailed _ _ _ _
        | openSpoiled _ _ _ | stepped _ _ _ | lent _ _ _ _ _ _ | tagged _ _ _ | poolsDropped =>
            cases hdropped
      · rw [h.dropped_of_mem_tail hook act htail] at hdropped
        cases hdropped

/-! ## Why acts drop -/

theorem Connection.poll_of_mem_pollEvents {conn : Connection ρ κ} {id : ConnId}
    {session : SessionNo} {poll reported : PollReport}
    (hmem : .polled session reported ∈ conn.pollEvents id poll) : reported = poll := by
  rcases List.mem_cons.1 hmem with heq | hlogged
  · cases heq
    rfl
  · cases List.mem_singleton.1 hlogged

theorem Connection.poll_of_mem_stepEvents {conn : Connection ρ κ} {id : ConnId}
    {session : SessionNo} {poll reported : PollReport}
    (hmem : .polled session reported ∈ conn.stepEvents id poll) : reported = poll := by
  rw [stepEvents, List.mem_append, List.mem_append] at hmem
  rcases hmem with (hpoll | hwatched) | hcall
  · exact poll_of_mem_pollEvents hpoll
  · cases List.mem_singleton.1 hwatched
  · split at hcall
    · rcases List.mem_cons.1 hcall with heq | hcall
      · cases heq
      · obtain ⟨callback, -, heq⟩ := List.mem_map.1 hcall
        cases heq
    · cases hcall

theorem Connection.polled_not_mem_failureCalls {conn : Connection ρ κ} {id : ConnId}
    {session : SessionNo} {poll : PollReport} {error : PoolError} :
    .polled session poll ∉ conn.failureCalls id error := by
  rw [failureCalls, List.mem_append, not_or]
  constructor
  · simp [connectCall]
  · split
    · simp [disconnectCall]
    · simp

/-- A poll among the events of an ending is one that led to it. -/
theorem Ending.mem_heralds_of_polled {ending : Ending κ} {id : ConnId} {conn : Connection ρ κ}
    {session : SessionNo} {poll : PollReport}
    (hmem : .polled session poll ∈ ending.events id conn) :
    .polled session poll ∈ ending.heralds id conn := by
  rw [events, List.mem_append, List.mem_append, List.mem_append] at hmem
  rcases hmem with ((hheralds | hunwatching) | hcalls) | htorn
  · exact hheralds
  · rw [Connection.unwatching] at hunwatching
    split at hunwatching
    · cases List.mem_singleton.1 hunwatching
    · cases hunwatching
  · cases ending with
    | bad _ _ | pollFailed _ | refused _ _ | abandoned _ _ =>
        exact absurd hcalls Connection.polled_not_mem_failureCalls
    | deferred | disconnected _ | lost _ _ | shrunk _ _ | dismissed _ | shutDown =>
        simp [calls, Connection.releaseCalls, Connection.disconnectCall,
          Connection.connectCall] at hcalls
  · cases List.mem_singleton.1 htorn

/-- An event report ends a connection in a successful handshake only if a
    disconnect waits for it. -/
theorem Ending.deferred_of_polled {ending : Ending κ} {id : ConnId} {conn : Connection ρ κ}
    {session : SessionNo} (hreport : ending.FromReport) (hfits : ending.Fits conn)
    (hpending : conn.disconnectPending = true)
    (hmem : .polled session .ok ∈ ending.events id conn) : ending = .deferred := by
  have hheralds := mem_heralds_of_polled hmem
  cases ending with
  | deferred => rfl
  | pollFailed reason =>
      rcases List.mem_append.1 hheralds with hpoll | hlogged
      · cases Connection.poll_of_mem_pollEvents hpoll
      · cases List.mem_singleton.1 hlogged
  | refused poll reason =>
      -- the socket is registered again only if no disconnect waits
      obtain ⟨-, -, hkeeps⟩ := hfits
      rcases List.mem_append.1 hheralds with hpoll | hrefused
      · obtain rfl := Connection.poll_of_mem_pollEvents hpoll
        exact absurd ⟨rfl, hpending⟩ hkeeps
      · simp at hrefused
  | abandoned event reason | lost event reason => simp [heralds] at hheralds
  | bad _ _ | disconnected _ | shrunk _ _ | dismissed _ | shutDown => exact hreport.elim

/-- An operation that has reason to drop a callback does. -/
theorem Course.exists_dropped {operation : Operation ρ κ} {answer : Answer} {acts : List (Act ρ κ)}
    {v v' : View ρ κ} (h : Course operation answer acts) (hpath : Path v acts v')
    (hc : v.ctx.Coherent) {id : ConnId} {conn : Connection ρ κ} (hconn : v.ctx.conn? id = some conn)
    {hook : Hook} {callback : κ} (hhung : conn.hung hook = some callback)
    (hdrops : Operation.Drops id conn (acts.flatMap Act.events) operation answer hook) :
    ∃ act ∈ acts, act.dropped hook = some callback := by
  -- the acts concern the connection as it was found
  have hsame : ∀ {conn' : Connection ρ κ}, v.ctx.conn? id = some conn' → conn' = conn := by
    intro conn' hconn'
    rw [hconn] at hconn'
    exact (Option.some.inj hconn').symm
  cases hdrops with
  | reclaimed _ =>
      cases h with
      | reclaim hreclaiming =>
          cases hreclaiming with
          | takenBack conn' key load acts hshrinks | adopted conn' key size acts hshrinks
          | dismissed conn' key =>
              cases hpath with
              | cons enabled _ =>
                  obtain rfl := hsame enabled.1
                  exact ⟨_, List.mem_cons_self, hhung⟩
  | overtaken event _ hpending hpolled =>
      cases h with
      | advance _ state hadvancing =>
          cases hadvancing with
          | ignored record => simp [Act.events] at hpolled
          | stepped conn' poll =>
              cases hpath with
              | cons enabled _ =>
                  obtain rfl := hsame enabled.1
                  rw [List.flatMap_singleton] at hpolled
                  -- a step that is kept has no disconnect waiting for its success
                  obtain rfl := Connection.poll_of_mem_stepEvents hpolled
                  exact absurd ⟨rfl, hpending⟩ enabled.2.2.2
          | ended conn' ending hending records =>
              cases hpath with
              | cons enabled _ =>
                  obtain rfl := hsame enabled.1
                  rw [List.flatMap_cons, List.mem_append] at hpolled
                  rcases hpolled with hends | hrecords
                  · obtain rfl := Ending.deferred_of_polled hending enabled.2 hpending hends
                    exact ⟨_, List.mem_cons_self, hhung⟩
                  · simp [Act.events] at hrecords
  | replaced onDisconnect =>
      cases h with
      | deferred _ _ conn' =>
          cases hpath with
          | cons enabled _ =>
              obtain rfl := hsame enabled.1
              exact ⟨_, List.mem_cons_self, hhung⟩
      | disconnected _ _ conn' =>
          cases hpath with
          | cons enabled _ =>
              -- it was not in a handshake, so nothing waited for one
              obtain rfl := hsame enabled.1
              have hcoherent := hc id conn' hconn
              have hnone : conn'.onDisconnect = none := enabled.2.elim
                hcoherent.onDisconnect_of_connected fun hfree => (hcoherent.free hfree).2.2.1
              rw [Connection.hung, hnone] at hhung
              cases hhung

theorem droppedBy_pos_iff [DecidableEq κ] {acts : List (Act ρ κ)} {hook : Hook} {callback : κ} :
    0 < droppedBy acts hook callback ↔ ∃ act ∈ acts, act.dropped hook = some callback := by
  induction acts with
  | nil => simp [droppedBy]
  | cons first rest ih =>
      have hsum : droppedBy (first :: rest) hook callback =
          tally (first.dropped hook) callback + droppedBy rest hook callback := rfl
      simp only [List.mem_cons, exists_eq_or_imp]
      rw [← ih, hsum, tally]
      split
      · rename_i hfirst
        exact iff_of_true (by omega) (.inl hfirst)
      · rename_i hfirst
        simp [hfirst]

/-- An operation drops a callback at most once. -/
theorem Course.droppedBy_le_one [DecidableEq κ] {operation : Operation ρ κ} {answer : Answer}
    {acts : List (Act ρ κ)} (h : Course operation answer acts) (hook : Hook) (callback : κ) :
    droppedBy acts hook callback ≤ 1 := by
  have htail := h.dropped_of_mem_tail hook
  cases acts with
  | nil => exact Nat.zero_le 1
  | cons first rest =>
      have hrest : droppedBy rest hook callback = 0 := by
        refine List.sum_eq_zero_iff_forall_eq_nat.2 (List.forall_mem_map.2 fun act hmem => ?_)
        rw [htail act hmem, tally_none]
      have hfirst : tally (first.dropped hook) callback ≤ 1 := by
        rw [tally]
        split <;> omega
      have hsum : droppedBy (first :: rest) hook callback =
          tally (first.dropped hook) callback + droppedBy rest hook callback := rfl
      omega

end ConnPool
