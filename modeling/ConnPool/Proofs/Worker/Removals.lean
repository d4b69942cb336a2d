/-
  ConnPool.Proofs.Worker.Removals

  How many connections leave the arena, read off the trace.

  Every connection that leaves has its session torn down.  So removals are
  counted by teardowns, but for those of sessions that never had a connection,
  which a refusal to make their sockets non-blocking gives away.
-/

import ConnPool.Proofs.Worker.Course
import ConnPool.Proofs.Worker.Recycling
import ConnPool.Proofs.Worker.Told

namespace ConnPool

variable {ρ κ : Type}

/-! ## Events -/

namespace Event

def isTearDown : Event ρ κ → Bool
  | tornDown _ => true
  | _ => false

/-- A socket could not be made non-blocking. -/
def isModeRefusal : Event ρ κ → Bool
  | nonblocking _ (some _) => true
  | _ => false

def isCall : Event ρ κ → Bool
  | connectCalled .. | disconnectCalled .. => true
  | _ => false

end Event

/-- How many connections were taken out of the arena, by what was done to the
    outside.  Each of them has its session torn down; the only other sessions
    torn down are those whose socket could not be made non-blocking, which never
    had a connection. -/
def removalsIn (events : List (Event ρ κ)) : Nat :=
  events.countP Event.isTearDown - events.countP Event.isModeRefusal

section

variable {conn : Connection ρ κ} {id : ConnId}

theorem isCall_of_mem_connectCall {status : Status} :
    ∀ event ∈ conn.connectCall id status, event.isCall = true := by
  intro event hmem
  obtain ⟨callback, -, rfl⟩ := List.mem_map.1 hmem
  rfl

theorem isCall_of_mem_disconnectCall {status : Status} :
    ∀ event ∈ conn.disconnectCall id status, event.isCall = true := by
  intro event hmem
  obtain ⟨callback, -, rfl⟩ := List.mem_map.1 hmem
  rfl

theorem isCall_of_mem_failureCalls {error : PoolError} :
    ∀ event ∈ conn.failureCalls id error, event.isCall = true := by
  rw [Connection.failureCalls]
  refine List.forall_mem_append.2 ⟨isCall_of_mem_connectCall, ?_⟩
  split
  · exact isCall_of_mem_disconnectCall
  · exact List.forall_mem_nil _

theorem Ending.isCall_of_mem_told (ending : Ending κ) :
    ∀ event ∈ ending.told id conn, event.isCall = true := by
  cases ending with
  | bad _ _ | pollFailed _ | abandoned _ _ | refused _ _ => exact isCall_of_mem_failureCalls
  | deferred | shrunk _ _ | disconnected _ | lost _ _ => exact isCall_of_mem_disconnectCall
  | dismissed _ => exact List.forall_mem_nil _
  | shutDown =>
      exact List.forall_mem_append.2 ⟨isCall_of_mem_connectCall, isCall_of_mem_disconnectCall⟩

end

/-- Whether an act is a call of the host on a session. -/
def Act.Asks : Act ρ κ → Prop
  | asked .. => True
  | noted _ | poolCreated .. | opened .. | openFailed .. | openSpoiled .. | stepped .. | lent ..
  | takenBack .. | adopted .. | tagged .. | deferred .. | finished .. | poolsDropped => False

/-- How an act ends sessions. -/
def Act.teardowns : Act ρ κ → List (Event ρ κ)
  | openFailed _ _ conn _ | finished _ conn _ => [.tornDown conn.session]
  | openSpoiled session _ reason => [.nonblocking session (some reason), .tornDown session]
  | noted _ | asked .. | poolCreated .. | opened .. | stepped .. | lent .. | takenBack ..
  | adopted .. | tagged .. | deferred .. | poolsDropped => []

section

variable {p : Event ρ κ → Bool} (hp : ∀ event : Event ρ κ, event.isCall = true → p event = false)

include hp

theorem countP_of_calls {events : List (Event ρ κ)} (h : ∀ event ∈ events, event.isCall = true) :
    events.countP p = 0 := by
  rw [List.countP_eq_zero]
  intro event hmem
  rw [hp event (h event hmem)]
  exact Bool.false_ne_true

/-- Besides its calls, an act only tells how it ends sessions. -/
theorem Act.countP_told (act : Act ρ κ) (hasks : ¬act.Asks) :
    act.told.countP p = act.teardowns.countP p := by
  cases act with
  | asked id conn events => exact absurd trivial hasks
  | noted _ | poolCreated _ _ | openSpoiled _ _ _ | takenBack _ _ _ _ | adopted _ _ _ _
  | tagged _ _ _ | deferred _ _ _ | poolsDropped => rfl
  | opened id _ conn poll | stepped id conn poll =>
      rw [told]
      split
      · exact countP_of_calls hp isCall_of_mem_connectCall
      · rfl
  | lent id conn key request onConnect load =>
      rw [told]
      split
      · exact countP_of_calls hp isCall_of_mem_connectCall
      · rfl
  | openFailed id _ conn ending | finished id conn ending =>
      rw [told, List.countP_append, countP_of_calls hp (Ending.isCall_of_mem_told ending),
        Nat.zero_add]
      rfl

end

theorem Event.isTearDown_of_isCall (event : Event ρ κ) (h : event.isCall = true) :
    event.isTearDown = false := by
  cases event with
  | connectCalled _ _ _ _ | disconnectCalled _ _ _ _ => rfl
  | startRefused _ | started _ _ | nonblocking _ _ | polled _ _ | tornDown _ | registered _ _ _ _
  | deregistered _ | logged _ => cases h

theorem Event.isModeRefusal_of_isCall (event : Event ρ κ) (h : event.isCall = true) :
    event.isModeRefusal = false := by
  cases event with
  | connectCalled _ _ _ _ | disconnectCalled _ _ _ _ => rfl
  | startRefused _ | started _ _ | nonblocking _ _ | polled _ _ | tornDown _ | registered _ _ _ _
  | deregistered _ | logged _ => cases h

theorem Event.matters_of_isTearDown (event : Event ρ κ) (h : event.isTearDown = true) :
    event.matters = true := by
  cases event with
  | tornDown _ => rfl
  | startRefused _ | started _ _ | nonblocking _ _ | polled _ _ | registered _ _ _ _
  | deregistered _ | connectCalled _ _ _ _ | disconnectCalled _ _ _ _ | logged _ => cases h

theorem Event.matters_of_isModeRefusal (event : Event ρ κ) (h : event.isModeRefusal = true) :
    event.matters = true := by
  cases event with
  | nonblocking session refusal =>
      cases refusal with
      | none => cases h
      | some reason => rfl
  | startRefused _ | started _ _ | polled _ _ | tornDown _ | registered _ _ _ _
  | deregistered _ | connectCalled _ _ _ _ | disconnectCalled _ _ _ _ | logged _ => cases h

/-! ## Operations -/

theorem Act.countP_teardowns (act : Act ρ κ) :
    act.teardowns.countP Event.isTearDown =
      act.removes + act.teardowns.countP Event.isModeRefusal := by
  cases act with
  | noted _ | asked _ _ _ | poolCreated _ _ | opened _ _ _ _ | openFailed _ _ _ _
  | openSpoiled _ _ _ | stepped _ _ _ | lent _ _ _ _ _ _ | takenBack _ _ _ _ | adopted _ _ _ _
  | tagged _ _ _ | deferred _ _ _ | finished _ _ _ | poolsDropped => rfl

/-- Along acts that ask nothing, each removal is a teardown, and each other
    teardown a refusal. -/
theorem Path.countP_tearDown {v v' : View ρ κ} {acts : List (Act ρ κ)} (h : Path v acts v')
    (hasks : ∀ act ∈ acts, ¬act.Asks) :
    (acts.flatMap Act.events).countP Event.isTearDown =
      removals acts + (acts.flatMap Act.events).countP Event.isModeRefusal := by
  induction h with
  | nil => rfl
  | @cons v v' act acts enabled _ ih =>
      obtain ⟨hact, hrest⟩ := List.forall_mem_cons.1 hasks
      have htears := Act.countP_events enabled Event.matters_of_isTearDown
      have hrefusals := Act.countP_events enabled Event.matters_of_isModeRefusal
      rw [Act.countP_told Event.isTearDown_of_isCall act hact] at htears
      rw [Act.countP_told Event.isModeRefusal_of_isCall act hact] at hrefusals
      have hends := act.countP_teardowns
      have hih := ih hrest
      have hsum : removals (act :: acts) = act.removes + removals acts := rfl
      rw [List.flatMap_cons, List.countP_append, List.countP_append]
      omega

/-- A host's call on a session is an operation of its own. -/
theorem Course.asks_cases {operation : Operation ρ κ} {answer : Answer} {acts : List (Act ρ κ)}
    (h : Course operation answer acts) :
    (∀ act ∈ acts, ¬act.Asks) ∨ ∃ id conn events, acts = [.asked id conn events] := by
  -- an act that asks belongs to a call on a session, which has no other acts
  by_cases hasks : ∃ act ∈ acts, act.Asks
  · refine .inr ?_
    obtain ⟨act, hmem, hact⟩ := hasks
    have hbelongs := h.belongsTo act hmem
    cases act with
    | asked id conn events =>
        obtain ⟨call, rfl⟩ := hbelongs
        cases h with
        | stale _ _ => cases hmem
        | asked _ _ reply conn' events' => exact ⟨id, conn', events', rfl⟩
    | noted _ | poolCreated _ _ | opened _ _ _ _ | openFailed _ _ _ _ | openSpoiled _ _ _
    | stepped _ _ _ | lent _ _ _ _ _ _ | takenBack _ _ _ _ | adopted _ _ _ _ | tagged _ _ _
    | deferred _ _ _ | finished _ _ _ | poolsDropped => exact hact.elim
  · exact .inl fun act hmem hact => hasks ⟨act, hmem, hact⟩

/-- The trace of an operation tells how many connections it removed. -/
theorem Course.removalsIn_events {operation : Operation ρ κ} {answer : Answer}
    {acts : List (Act ρ κ)} {v v' : View ρ κ} (h : Course operation answer acts)
    (hpath : Path v acts v') : removalsIn (acts.flatMap Act.events) = removals acts := by
  rcases h.asks_cases with hasks | ⟨id, conn, events, rfl⟩
  · rw [removalsIn, hpath.countP_tearDown hasks, Nat.add_sub_cancel_right]
  · -- a refusal that the host asked for itself ends no session
    have htears : ([Act.asked id conn events].flatMap Act.events).countP Event.isTearDown = 0 := by
      cases hpath with
      | cons enabled _ =>
          rw [List.flatMap_singleton, List.countP_eq_zero]
          intro event hmem
          have hreply := enabled.2 event hmem
          cases event with
          | tornDown session => exact hreply.elim
          | startRefused _ | started _ _ | nonblocking _ _ | polled _ _ | registered _ _ _ _
          | deregistered _ | connectCalled _ _ _ _ | disconnectCalled _ _ _ _ | logged _ =>
              exact Bool.false_ne_true
    rw [removalsIn, htears, Nat.zero_sub]
    rfl

end ConnPool
