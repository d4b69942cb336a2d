/-
  ConnPool.Proofs.Worker.Course

  Every operation is a path of acts.

  A `Course` says which acts an operation with a given answer can consist of.
  `perform_course` is the only result about the whole of `perform`: what is
  known of acts, of paths and of courses is thereby known of operations.
-/

import ConnPool.Proofs.Worker.Reclaiming

namespace ConnPool

variable {ω ρ κ : Type}

/-- Whether an operation opens or lends connections. -/
def Operation.Provides : Operation ρ κ → Prop
  | connect .. | connectUri .. | acquire .. | spawn .. => True
  | reclaim _ | disconnect .. | advance .. | session .. | shutdown => False

/-- Whether an operation was answered that disconnects the connection under
    `id`, now or later. -/
def Operation.Disconnects (operation : Operation ρ κ) (answer : Answer) (id : ConnId)
    (onDisconnect : Option κ) : Prop :=
  operation = .disconnect id onDisconnect ∧ answer = .status (.ok ())

/-- The acts of an operation, by what it answers. -/
inductive Course : Operation ρ κ → Answer → List (Act ρ κ) → Prop
  | misdirected (request : Option ρ) (onConnect : Option κ) (keys values : List String)
      (expandDbname : Bool) (reason : String) :
      Course (.connect request onConnect keys values expandDbname)
        (.opened (.error (.invalidConfig reason))) []
  | connect (request : Option ρ) (onConnect : Option κ) (keys values : List String)
      (expandDbname : Bool) (target : Target) {outcome : Except PoolError ConnId} {act : Act ρ κ}
      (hopening : Opening target request onConnect .registry outcome act) :
      Course (.connect request onConnect keys values expandDbname) (.opened outcome) [act]
  | connectUri (request : Option ρ) (onConnect : Option κ) (uri : String)
      {outcome : Except PoolError ConnId} {act : Act ρ κ}
      (hopening : Opening (.uri uri) request onConnect .registry outcome act) :
      Course (.connectUri request onConnect uri) (.opened outcome) [act]
  | acquire {key : PoolKey} {request : Option ρ} {onConnect : Option κ}
      {outcome : Except PoolError ConnId} {acts : List (Act ρ κ)}
      (hacquisition : Acquisition key request onConnect outcome acts) :
      Course (.acquire key request onConnect) (.opened outcome) acts
  | spawn (key : PoolKey) (count : Nat) (status : Status) (acts : List (Act ρ κ))
      (hidle : ∀ act ∈ acts, act.Idle key) : Course (.spawn key count) (.status status) acts
  | reclaim {id : ConnId} {status : Status} {acts : List (Act ρ κ)}
      (hreclaiming : Reclaiming id status acts) : Course (.reclaim id) (.status status) acts
  | unknown (id : ConnId) (onDisconnect : Option κ) :
      Course (.disconnect id onDisconnect) (.status (.error (.unknownConnection id))) []
  | deferred (id : ConnId) (onDisconnect : Option κ) (conn : Connection ρ κ) :
      Course (.disconnect id onDisconnect) (.status (.ok ())) [.deferred id conn onDisconnect]
  | disconnected (id : ConnId) (onDisconnect : Option κ) (conn : Connection ρ κ) :
      Course (.disconnect id onDisconnect) (.status (.ok ()))
        [.finished id conn (.disconnected onDisconnect)]
  | advance (event : Readiness) (state : Option ConnState) {id : ConnId} {acts : List (Act ρ κ)}
      (hadvancing : Advancing id acts) : Course (.advance id event) (.state state) acts
  | stale (id : ConnId) (call : SessionCall) : Course (.session id call) (.session none) []
  | asked (id : ConnId) (call : SessionCall) (reply : SessionReply) (conn : Connection ρ κ)
      (events : List (Event ρ κ)) :
      Course (.session id call) (.session (some reply)) [.asked id conn events]
  | shutdown (entries : List (ConnId × Connection ρ κ)) (count : Nat) (record : LogRecord) :
      Course .shutdown (.released count)
        ((entries.map fun entry => .finished entry.1 entry.2 .shutDown) ++
          [.poolsDropped, .noted [.logged record]])

/-! ## Acts of operations -/

/-- Which operations and answers an act can belong to. -/
def Act.BelongsTo (operation : Operation ρ κ) (answer : Answer) : Act ρ κ → Prop
  | noted _ => True
  | asked id _ _ => ∃ call, operation = .session id call
  | poolCreated .. | opened .. | openFailed .. | openSpoiled .. => operation.Provides
  | stepped id _ _ => ∃ event, operation = .advance id event
  | lent id _ key request onConnect _ =>
    operation = .acquire key request onConnect ∧ answer = .opened (.ok id)
  | tagged id _ key =>
    ∃ request onConnect, operation = .acquire key request onConnect ∧ answer = .opened (.ok id)
  | takenBack id .. | adopted id .. | finished id _ (.dismissed _) =>
    operation = .reclaim id ∧ answer = .status (.ok ())
  | finished _ _ (.shrunk ..) => ∃ id, operation = .reclaim id ∧ answer = .status (.ok ())
  | deferred id _ onDisconnect | finished id _ (.disconnected onDisconnect) =>
    operation = .disconnect id onDisconnect ∧ answer = .status (.ok ())
  | finished _ _ .shutDown | poolsDropped => operation = .shutdown
  | finished _ _ (.bad ..) => False
  | finished id _ _ => ∃ event, operation = .advance id event

theorem Act.Idle.belongsTo {key : PoolKey} {act : Act ρ κ} (h : act.Idle key)
    {operation : Operation ρ κ} (hprovides : operation.Provides) (answer : Answer) :
    act.BelongsTo operation answer := by
  cases act with
  | noted _ => trivial
  | poolCreated _ _ | opened _ _ _ _ | openFailed _ _ _ _ | openSpoiled _ _ _ => exact hprovides
  | asked _ _ _ | stepped _ _ _ | lent _ _ _ _ _ _ | takenBack _ _ _ _ | adopted _ _ _ _
  | tagged _ _ _ | deferred _ _ _ | finished _ _ _ | poolsDropped => exact h.elim

theorem Opening.belongsTo {target : Target} {request : Option ρ} {onConnect : Option κ}
    {membership : Membership} {outcome : Except PoolError ConnId} {act : Act ρ κ}
    (h : Opening target request onConnect membership outcome act) {operation : Operation ρ κ}
    (hprovides : operation.Provides) (answer : Answer) : act.BelongsTo operation answer := by
  cases h with
  | unstarted _ _ _ => trivial
  | opened _ _ _ _ _ _ | spoiled _ _ | failed _ _ _ _ _ _ _ _ => exact hprovides

theorem Ending.FromReport.belongsTo {ending : Ending κ} (h : ending.FromReport) (id : ConnId)
    (conn : Connection ρ κ) (event : Readiness) (answer : Answer) :
    (Act.finished id conn ending).BelongsTo (.advance id event) answer := by
  cases ending with
  | pollFailed _ | refused _ _ | abandoned _ _ | deferred | lost _ _ => exact ⟨event, rfl⟩
  | bad _ _ | disconnected _ | shrunk _ _ | dismissed _ | shutDown => exact h.elim

/-- The acts of an operation belong to it. -/
theorem Course.belongsTo {operation : Operation ρ κ} {answer : Answer} {acts : List (Act ρ κ)}
    (h : Course operation answer acts) : ∀ act ∈ acts, act.BelongsTo operation answer := by
  cases h with
  | misdirected _ _ _ _ _ _ | unknown _ _ | stale _ _ => exact List.forall_mem_nil _
  | connect _ _ _ _ _ _ hopening | connectUri _ _ _ hopening =>
      exact List.forall_mem_singleton.2 (hopening.belongsTo (by trivial) _)
  | acquire hacquisition =>
      cases hacquisition with
      | unregistered => exact List.forall_mem_nil _
      | exhausted acts hidle => exact fun act hmem => (hidle act hmem).belongsTo (by trivial) _
      | lent acts hidle id conn load =>
          exact List.forall_mem_append.2 ⟨fun act hmem => (hidle act hmem).belongsTo (by trivial) _,
            List.forall_mem_singleton.2 ⟨rfl, rfl⟩⟩
      | direct acts hidle id target conn poll hopening =>
          refine List.forall_mem_append.2
            ⟨fun act hmem => (hidle act hmem).belongsTo (by trivial) _, ?_⟩
          exact List.forall_mem_cons.2 ⟨trivial, List.forall_mem_singleton.2 ⟨_, _, rfl, rfl⟩⟩
      | failed acts hidle target error act hopening =>
          exact List.forall_mem_append.2 ⟨fun act hmem => (hidle act hmem).belongsTo (by trivial) _,
            List.forall_mem_singleton.2 (hopening.belongsTo (by trivial) _)⟩
  | spawn _ _ _ acts hidle => exact fun act hmem => (hidle act hmem).belongsTo (by trivial) _
  | @reclaim id status acts hreclaiming =>
      cases hreclaiming with
      | stale | notBorrowed => exact List.forall_mem_nil _
      | takenBack conn key load acts hshrinks | adopted conn key size acts hshrinks =>
          refine List.forall_mem_cons.2 ⟨⟨rfl, rfl⟩, fun act hmem => ?_⟩
          obtain ⟨i, conn, load, rfl⟩ := (hshrinks act hmem).eq_finished
          exact ⟨id, rfl, rfl⟩
      | dismissed conn key => exact List.forall_mem_singleton.2 ⟨rfl, rfl⟩
  | deferred _ _ _ | disconnected _ _ _ => exact List.forall_mem_singleton.2 ⟨rfl, rfl⟩
  | asked id call _ _ _ => exact List.forall_mem_singleton.2 ⟨call, rfl⟩
  | @advance event state id acts hadvancing =>
      cases hadvancing with
      | ignored record => exact List.forall_mem_singleton.2 trivial
      | stepped conn poll => exact List.forall_mem_singleton.2 ⟨event, rfl⟩
      | ended conn ending hending records =>
          exact List.forall_mem_cons.2 ⟨hending.belongsTo id conn event _,
            List.forall_mem_singleton.2 trivial⟩
  | shutdown entries count record =>
      exact List.forall_mem_append.2 ⟨List.forall_mem_map.2 fun _ _ => rfl,
        List.forall_mem_cons.2 ⟨rfl, List.forall_mem_singleton.2 trivial⟩⟩

namespace Act.BelongsTo

variable {operation : Operation ρ κ} {answer : Answer} {act : Act ρ κ}

theorem not_provides {id : ConnId} {conn : Connection ρ κ} {ending : Ending κ}
    (h : (Act.finished id conn ending).BelongsTo operation answer) : ¬operation.Provides := by
  cases ending with
  | bad _ _ => exact h.elim
  | dismissed _ | disconnected _ =>
      rw [h.1]
      exact fun hprovides => hprovides
  | shrunk _ _ =>
      obtain ⟨i, rfl, -⟩ := h
      exact fun hprovides => hprovides
  | shutDown =>
      rw [show operation = .shutdown from h]
      exact fun hprovides => hprovides
  | pollFailed _ | refused _ _ | abandoned _ _ | deferred | lost _ _ =>
      obtain ⟨event, rfl⟩ := h
      exact fun hprovides => hprovides

/-- An operation that provides ends nothing. -/
theorem not_ends (h : act.BelongsTo operation answer) (hprovides : operation.Provides)
    (id : ConnId) : ¬act.Ends id := by
  cases act with
  | finished i conn ending => exact absurd hprovides h.not_provides
  | noted _ | asked _ _ _ | poolCreated _ _ | opened _ _ _ _ | openFailed _ _ _ _
  | openSpoiled _ _ _ | stepped _ _ _ | lent _ _ _ _ _ _ | takenBack _ _ _ _ | adopted _ _ _ _
  | tagged _ _ _ | deferred _ _ _ | poolsDropped => exact fun h => h

/-- Only an operation that provides opens connections. -/
theorem not_opens (h : act.BelongsTo operation answer) (hnot : ¬operation.Provides)
    (id : ConnId) : ¬act.Opens id := by
  cases act with
  | opened i target conn poll => exact absurd h hnot
  | noted _ | asked _ _ _ | poolCreated _ _ | openFailed _ _ _ _ | openSpoiled _ _ _
  | stepped _ _ _ | lent _ _ _ _ _ _ | takenBack _ _ _ _ | adopted _ _ _ _ | tagged _ _ _
  | deferred _ _ _ | finished _ _ _ | poolsDropped => exact fun h => h

end Act.BelongsTo

/-- An operation that leaves a connection alive has not ended one under its
    id. -/
theorem Course.not_ends_of_live {operation : Operation ρ κ} {answer : Answer}
    {acts : List (Act ρ κ)} {v v' : View ρ κ} (h : Course operation answer acts)
    (hpath : Path v acts v') (hw : v.ctx.Orderly) {id : ConnId}
    (hlive : (v'.ctx.conn? id).isSome) : ∀ act ∈ acts, ¬act.Ends id := by
  intro act hmem hends
  -- one that provides ends nothing; any other one opens nothing that could be there again
  by_cases hprovides : operation.Provides
  · exact (h.belongsTo act hmem).not_ends hprovides id hends
  · have hopens : ∀ act ∈ acts, ¬act.Opens id :=
      fun act hmem => (h.belongsTo act hmem).not_opens hprovides id
    rw [hpath.conn?_of_ends hw hopens ⟨act, hmem, hends⟩] at hlive
    cases hlive

namespace Worker

variable [Environment ω]

theorem callSession_asked {w : Worker ω ρ κ} {id : ConnId} {conn : Connection ρ κ}
    (hconn : w.ctx.conn? id = some conn) (call : SessionCall) :
    ∃ events, (Act.asked id conn events).Enabled w.view ∧
      (Act.asked id conn events).run w.view = (w.callSession conn.session call).2.view := by
  cases call with
  | status | socket | errorText =>
      exact ⟨[], ⟨hconn, List.forall_mem_nil _⟩, View.ext rfl rfl (List.append_nil _) rfl⟩
  | nonblocking =>
      exact ⟨[.nonblocking conn.session (w.setNonblocking conn.session).1],
        ⟨hconn, List.forall_mem_singleton.2 rfl⟩, rfl⟩
  | poll =>
      exact ⟨[.polled conn.session (w.pollSession conn.session).1],
        ⟨hconn, List.forall_mem_singleton.2 rfl⟩, rfl⟩

/-- A connect whose lists do not fit together does nothing; any other one is
    an opening. -/
theorem connect_course {w w' : Worker ω ρ κ} {request : Option ρ} {onConnect : Option κ}
    {keys values : List String} {expandDbname : Bool} {outcome : Except PoolError ConnId}
    (hw : w.ctx.Orderly)
    (h : w.connect request onConnect keys values expandDbname = (outcome, w'))
    (ha : w'.view.slotCount ≤ 2 ^ 32) :
    ∃ acts, Course (.connect request onConnect keys values expandDbname) (.opened outcome) acts ∧
      Path w.view acts w'.view := by
  rw [connect, Target.ofLists] at h
  split at h
  · rename_i e htarget
    obtain ⟨rfl, rfl⟩ := Prod.mk.inj h
    split at htarget
    · cases htarget
    · cases htarget
      exact ⟨[], .misdirected .., .nil _⟩
  · rename_i target _
    obtain ⟨act, hopening, henabled, hrun⟩ :=
      establish_opening hw (.inl rfl) (Context.hasRoom_registry _) h ha
    exact ⟨[act], .connect _ _ _ _ _ target hopening, .single henabled hrun⟩

theorem shutdown_course {w w' : Worker ω ρ κ} {count : Nat} (h : w.shutdown = (count, w'))
    (ha : w'.view.slotCount ≤ 2 ^ 32) :
    ∃ acts, Course .shutdown (.released count) acts ∧ Path w.view acts w'.view := by
  have hslots := slotCount_shutdown w
  rw [h] at hslots
  have haddressable : w.ctx.conns.Addressable := by
    rw [hslots] at ha
    exact ha
  have hpath := path_shutdown w haddressable
  rw [h] at hpath
  exact ⟨_, .shutdown _ count _, hpath⟩

/-- Every operation on a context in order is a path of acts. -/
theorem perform_course {w w' : Worker ω ρ κ} {operation : Operation ρ κ} {answer : Answer}
    (hw : w.ctx.Orderly) (h : w.perform operation = (answer, w'))
    (ha : w'.view.slotCount ≤ 2 ^ 32) :
    ∃ acts, Course operation answer acts ∧ Path w.view acts w'.view := by
  cases operation with
  | connect request onConnect keys values expandDbname =>
      rcases hconnect : w.connect request onConnect keys values expandDbname with ⟨outcome, w₁⟩
      rw [perform, hconnect] at h
      obtain ⟨rfl, rfl⟩ := Prod.mk.inj h
      exact connect_course hw hconnect ha
  | connectUri request onConnect uri =>
      rcases hconnect : w.connectUri request onConnect uri with ⟨outcome, w₁⟩
      rw [perform, hconnect] at h
      obtain ⟨rfl, rfl⟩ := Prod.mk.inj h
      obtain ⟨act, hopening, henabled, hrun⟩ :=
        establish_opening hw (.inl rfl) (Context.hasRoom_registry _) hconnect ha
      exact ⟨[act], .connectUri _ _ uri hopening, .single henabled hrun⟩
  | acquire key request onConnect =>
      rcases hacquire : w.acquire key request onConnect with ⟨outcome, w₁⟩
      rw [perform, hacquire] at h
      obtain ⟨rfl, rfl⟩ := Prod.mk.inj h
      obtain ⟨acts, hacquisition, hpath⟩ := acquire_path hw hacquire ha
      exact ⟨acts, .acquire hacquisition, hpath⟩
  | spawn key count =>
      rcases hspawn : w.spawn key count with ⟨status, w₁⟩
      rw [perform, hspawn] at h
      obtain ⟨rfl, rfl⟩ := Prod.mk.inj h
      -- without a configuration under the key nothing happens
      rcases spawn_path hw hspawn ha with ⟨rfl, rfl, -, -⟩ | ⟨acts, hidle, hpath⟩
      · exact ⟨[], .spawn key count _ [] (List.forall_mem_nil _), .nil _⟩
      · exact ⟨acts, .spawn key count status acts hidle, hpath⟩
  | reclaim id =>
      rcases hreclaim : w.reclaim id with ⟨status, w₁⟩
      rw [perform, hreclaim] at h
      obtain ⟨rfl, rfl⟩ := Prod.mk.inj h
      obtain ⟨acts, hreclaiming, hpath⟩ := reclaim_path hw hreclaim
      exact ⟨acts, .reclaim hreclaiming, hpath⟩
  | disconnect id onDisconnect =>
      rcases hdisconnect : w.disconnect id onDisconnect with ⟨status, w₁⟩
      rw [perform, hdisconnect] at h
      obtain ⟨rfl, rfl⟩ := Prod.mk.inj h
      -- an unknown id, a handshake that is still under way, or a connection that is dropped
      rcases disconnect_cases hdisconnect with ⟨rfl, rfl, -⟩ | ⟨conn, act, rfl, hpath, rfl | rfl⟩
      · exact ⟨[], .unknown id onDisconnect, .nil _⟩
      · exact ⟨_, .deferred id onDisconnect conn, hpath⟩
      · exact ⟨_, .disconnected id onDisconnect conn, hpath⟩
  | advance id event =>
      rcases hadvance : w.advance id event with ⟨state, w₁⟩
      rw [perform, hadvance] at h
      obtain ⟨rfl, rfl⟩ := Prod.mk.inj h
      obtain ⟨acts, hadvancing, hpath⟩ := advance_path hadvance
      exact ⟨acts, .advance event state hadvancing, hpath⟩
  | session id call =>
      rw [perform] at h
      split at h
      · obtain ⟨rfl, rfl⟩ := Prod.mk.inj h
        exact ⟨[], .stale id call, .nil _⟩
      · rename_i conn hconn
        obtain ⟨events, henabled, hrun⟩ := callSession_asked hconn call
        obtain ⟨rfl, rfl⟩ := Prod.mk.inj h
        exact ⟨_, .asked id call _ conn events, .single henabled hrun⟩
  | shutdown =>
      rcases hshutdown : w.shutdown with ⟨count, w₁⟩
      rw [perform, hshutdown] at h
      obtain ⟨rfl, rfl⟩ := Prod.mk.inj h
      exact shutdown_course hshutdown ha

end Worker
end ConnPool
