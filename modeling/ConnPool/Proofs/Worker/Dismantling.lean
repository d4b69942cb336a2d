/-
  ConnPool.Proofs.Worker.Dismantling

  How operations watch connections and end them.

  A socket is only taken for a connection that is live before the operation or
  after it.  The sockets that an operation has the event loop forget are those
  of the connections that it ends, each once.  And the end of a connection is
  one stretch of what the operation does:

      deregistered    the event loop forgets the socket
      calls           the callbacks are told
      tornDown        the session ends

  with no call of its callbacks before or after it.
-/

import ConnPool.Proofs.Worker.Sessions
import Mathlib.Data.List.Basic

namespace ConnPool

variable {ρ κ : Type}

/-! ## Ends -/

/-- The connection that an act ends, if it ends one. -/
def Act.ended? : Act ρ κ → Option ConnId
  | finished id _ _ => some id
  | _ => none

theorem Act.ended?_eq_some {act : Act ρ κ} {id : ConnId} :
    act.ended? = some id ↔ act.Ends id := by
  cases act with
  | finished i _ _ => exact Option.some_inj
  | noted _ | asked _ _ _ | poolCreated _ _ | opened _ _ _ _ | openFailed _ _ _ _
  | openSpoiled _ _ _ | stepped _ _ _ | lent _ _ _ _ _ _ | takenBack _ _ _ _ | adopted _ _ _ _
  | tagged _ _ _ | deferred _ _ _ | poolsDropped => exact iff_of_false (by rintro ⟨⟩) fun h => h

theorem Act.live_of_ends {v : View ρ κ} {act : Act ρ κ} (enabled : act.Enabled v) {id : ConnId}
    (h : act.Ends id) : (v.ctx.conn? id).isSome := by
  cases act with
  | finished i _ _ =>
      obtain rfl : i = id := h
      exact Option.isSome_of_eq_some enabled.1
  | noted _ | asked _ _ _ | poolCreated _ _ | opened _ _ _ _ | openFailed _ _ _ _
  | openSpoiled _ _ _ | stepped _ _ _ | lent _ _ _ _ _ _ | takenBack _ _ _ _ | adopted _ _ _ _
  | tagged _ _ _ | deferred _ _ _ | poolsDropped => exact h.elim

/-- An act has the event loop forget the socket of the connection that it
    ends. -/
theorem Act.deregistered_eq {v : View ρ κ} {act : Act ρ κ} (enabled : act.Enabled v)
    (hv : v.ctx.Watched) :
    act.events.filterMap Event.deregistered? = act.ended?.toList.filterMap v.ctx.socket? := by
  rw [filterMap_resources enabled hv fun _ => Event.deregistered?_eq_none]
  cases act with
  | finished id conn ending =>
      have hsocket : v.ctx.socket? id = some conn.socket := by
        rw [Context.socket?, enabled.1]
        rfl
      rw [ended?, Option.toList_some, List.filterMap_cons_some hsocket]
      rfl
  | noted _ | asked _ _ _ | poolCreated _ _ | opened _ _ _ _ | openFailed _ _ _ _
  | openSpoiled _ _ _ | stepped _ _ _ | lent _ _ _ _ _ _ | takenBack _ _ _ _ | adopted _ _ _ _
  | tagged _ _ _ | deferred _ _ _ | poolsDropped => rfl

/-- The connections that acts end, in order. -/
def endedBy (acts : List (Act ρ κ)) : List ConnId :=
  acts.filterMap Act.ended?

theorem mem_endedBy {acts : List (Act ρ κ)} {id : ConnId} :
    id ∈ endedBy acts ↔ ∃ act ∈ acts, act.Ends id := by
  rw [endedBy, List.mem_filterMap]
  simp only [Act.ended?_eq_some]

theorem endedBy_cons (act : Act ρ κ) (acts : List (Act ρ κ)) :
    endedBy (act :: acts) = act.ended?.toList ++ endedBy acts := by
  rw [endedBy, endedBy, List.filterMap_cons]
  cases act.ended? with
  | none => rfl
  | some id => rfl

/-- No connection is both opened and ended by the acts. -/
def Apart (acts : List (Act ρ κ)) : Prop :=
  ∀ id, (∀ act ∈ acts, ¬act.Opens id) ∨ ∀ act ∈ acts, ¬act.Ends id

theorem Apart.tail {act : Act ρ κ} {acts : List (Act ρ κ)} (h : Apart (act :: acts)) :
    Apart acts := fun id =>
  (h id).imp (fun hopens => (List.forall_mem_cons.1 hopens).2)
    fun hends => (List.forall_mem_cons.1 hends).2

theorem Apart.not_opens {acts : List (Act ρ κ)} (h : Apart acts) {id : ConnId}
    (hends : ∃ act ∈ acts, act.Ends id) : ∀ act ∈ acts, ¬act.Opens id := by
  obtain ⟨act, hmem, hact⟩ := hends
  rcases h id with hopens | hnot
  · exact hopens
  · exact absurd hact (hnot act hmem)

theorem Course.apart {operation : Operation ρ κ} {answer : Answer} {acts : List (Act ρ κ)}
    (h : Course operation answer acts) : Apart acts := by
  intro id
  by_cases hprovides : operation.Provides
  · exact .inr fun act hmem => (h.belongsTo act hmem).not_ends hprovides id
  · exact .inl fun act hmem => (h.belongsTo act hmem).not_opens hprovides id

namespace Path

variable {v v' : View ρ κ} {acts : List (Act ρ κ)}

/-- What acts end was live before them and is gone after them. -/
theorem mem_endedBy_iff (h : Path v acts v') (hw : v.ctx.Orderly) (hapart : Apart acts)
    {id : ConnId} :
    id ∈ endedBy acts ↔ (v.ctx.conn? id).isSome ∧ v'.ctx.conn? id = none := by
  rw [mem_endedBy]
  constructor
  · intro hends
    have hopens := hapart.not_opens hends
    refine ⟨?_, h.conn?_of_ends hw hopens hends⟩
    obtain ⟨act, hmem, hact⟩ := hends
    obtain ⟨earlier, later, v₁, rfl, first, enabled, -⟩ := h.of_mem hmem
    -- live when it is ended, it was live before, since it is not opened
    exact first.live_of_live hw (fun act hmem => hopens act (List.mem_append_left _ hmem))
      (Act.live_of_ends enabled hact)
  · rintro ⟨hlive, hgone⟩
    exact h.exists_ends hw hlive hgone

/-- No connection is ended twice. -/
theorem nodup_endedBy (h : Path v acts v') (hw : v.ctx.Orderly) (hapart : Apart acts) :
    (endedBy acts).Nodup := by
  induction h with
  | nil => exact List.nodup_nil
  | @cons v v' act acts enabled hrest ih =>
      have hw' := Act.orderly_run enabled hw
      have hlater := ih hw' hapart.tail
      rw [endedBy_cons]
      cases hended : act.ended? with
      | none => exact hlater
      | some id =>
          refine List.nodup_cons.2 ⟨fun hmem => ?_, hlater⟩
          have hlive := ((hrest.mem_endedBy_iff hw' hapart.tail).1 hmem).1
          rw [Act.conn?_of_ends enabled hw (Act.ended?_eq_some.1 hended)] at hlive
          cases hlive

/-- The sockets that acts have the event loop forget are those of the
    connections that they end. -/
theorem deregistered_eq (h : Path v acts v') (hw : v.ctx.Orderly) (hv : v.ctx.Watched)
    (hapart : Apart acts) :
    (acts.flatMap Act.events).filterMap Event.deregistered? =
      (endedBy acts).filterMap v.ctx.socket? := by
  induction h with
  | nil => rfl
  | @cons v v' act acts enabled hrest ih =>
      have hw' := Act.orderly_run enabled hw
      have hlater := ih hw' (Act.watched_run enabled hw hv) hapart.tail
      have hsame : (endedBy acts).filterMap (act.run v).ctx.socket? =
          (endedBy acts).filterMap v.ctx.socket? := by
        refine List.filterMap_congr fun id hmem => ?_
        -- what is ended later is neither opened nor ended now
        obtain ⟨other, hother, hact⟩ := mem_endedBy.1 hmem
        have hopens := hapart.not_opens ⟨other, List.mem_cons_of_mem _ hother, hact⟩
        have hlive := ((hrest.mem_endedBy_iff hw' hapart.tail).1 hmem).1
        have hends : ¬act.Ends id := by
          intro hends
          rw [Act.conn?_of_ends enabled hw hends] at hlive
          cases hlive
        rw [Context.socket?_eq_held?, Context.socket?_eq_held?,
          Act.held?_run enabled hw (hopens act List.mem_cons_self) hends]
      rw [List.flatMap_cons, List.filterMap_append, Act.deregistered_eq enabled hv, hlater, hsame,
        endedBy_cons, List.filterMap_append]

theorem addressee?_of_mem (h : Path v acts v') {event : Event ρ κ}
    (hmem : event ∈ acts.flatMap Act.events) {id : ConnId} (hevent : event.addressee? = some id) :
    ∃ act ∈ acts, act.addressee? = some id := by
  obtain ⟨act, hact, hmem⟩ := List.mem_flatMap.1 hmem
  obtain ⟨_, _, _, _, _, enabled, _⟩ := h.of_mem hact
  exact ⟨act, hact, Act.addressee?_of_mem enabled hmem hevent⟩

end Path

/-! ## Registrations -/

/-- A registration that is accepted is that of a connection that is opened or
    steps on. -/
theorem Act.of_registered {v : View ρ κ} {act : Act ρ κ} (enabled : act.Enabled v)
    (hv : v.ctx.Watched) {socket : Int} {interest : Interest} {id : ConnId}
    (hmem : .registered socket interest id none ∈ act.events) :
    act.Opens id ∨ ∃ conn poll, act = .stepped id conn poll := by
  rw [mem_resources enabled hv rfl] at hmem
  cases act with
  | opened i target conn poll =>
      rcases List.mem_cons.1 hmem with heq | hmem
      · cases heq
      · cases List.mem_singleton.1 hmem
        exact .inl rfl
  | stepped i conn poll =>
      cases List.mem_singleton.1 hmem
      exact .inr ⟨conn, poll, rfl⟩
  | noted _ | asked _ _ _ | poolCreated _ _ | openFailed _ _ _ _ | openSpoiled _ _ _
  | lent _ _ _ _ _ _ | takenBack _ _ _ _ | adopted _ _ _ _ | tagged _ _ _ | deferred _ _ _
  | finished _ _ _ | poolsDropped => simp [resources] at hmem

theorem Act.live_of_opens {v : View ρ κ} {act : Act ρ κ} (enabled : act.Enabled v)
    (hw : v.ctx.Orderly) {id : ConnId} (h : act.Opens id) :
    ((act.run v).ctx.conn? id).isSome := by
  cases act with
  | opened i target conn poll =>
      obtain rfl : i = id := h
      rw [conn?_run enabled hw]
      simp [change]
  | noted _ | asked _ _ _ | poolCreated _ _ | openFailed _ _ _ _ | openSpoiled _ _ _
  | stepped _ _ _ | lent _ _ _ _ _ _ | takenBack _ _ _ _ | adopted _ _ _ _ | tagged _ _ _
  | deferred _ _ _ | finished _ _ _ | poolsDropped => exact h.elim

theorem Act.registered_of_opens {act : Act ρ κ} {id : ConnId} (h : act.Opens id) :
    ∃ socket interest, .registered socket interest id none ∈ act.events := by
  cases act with
  | opened i target conn poll =>
      obtain rfl : i = id := h
      exact ⟨conn.socket, poll.interest, by simp [events, Connection.stepEvents]⟩
  | noted _ | asked _ _ _ | poolCreated _ _ | openFailed _ _ _ _ | openSpoiled _ _ _
  | stepped _ _ _ | lent _ _ _ _ _ _ | takenBack _ _ _ _ | adopted _ _ _ _ | tagged _ _ _
  | deferred _ _ _ | finished _ _ _ | poolsDropped => exact h.elim

/-- A connection that comes to life has its socket accepted. -/
theorem Path.registered_of_live {v v' : View ρ κ} {acts : List (Act ρ κ)} (h : Path v acts v')
    (hw : v.ctx.Orderly) {id : ConnId} (hnone : v.ctx.conn? id = none)
    (hlive : (v'.ctx.conn? id).isSome) :
    ∃ socket interest, .registered socket interest id none ∈ acts.flatMap Act.events := by
  by_cases hopens : ∃ act ∈ acts, act.Opens id
  · obtain ⟨act, hmem, hact⟩ := hopens
    obtain ⟨socket, interest, hevent⟩ := Act.registered_of_opens hact
    exact ⟨socket, interest, List.mem_flatMap.2 ⟨act, hmem, hevent⟩⟩
  · have hbefore := h.live_of_live hw (fun act hmem hact => hopens ⟨act, hmem, hact⟩) hlive
    rw [hnone] at hbefore
    cases hbefore

/-! ## Operations -/

section

variable {operation : Operation ρ κ} {answer : Answer} {acts : List (Act ρ κ)} {v v' : View ρ κ}
  {id : ConnId}

/-- An operation has sockets accepted only for connections that are live before
    it or after it. -/
theorem Course.live_of_registered (h : Course operation answer acts) (hpath : Path v acts v')
    (hw : v.ctx.Orderly) (hv : v.ctx.Watched) {socket : Int} {interest : Interest}
    (hmem : .registered socket interest id none ∈ acts.flatMap Act.events) :
    (v.ctx.conn? id).isSome ∨ (v'.ctx.conn? id).isSome := by
  obtain ⟨act, hact, hevent⟩ := List.mem_flatMap.1 hmem
  have hbelongs := h.belongsTo act hact
  obtain ⟨earlier, later, v₁, rfl, first, enabled, rest⟩ := hpath.of_mem hact
  have hw₁ := first.orderly hw
  rcases Act.of_registered enabled (first.watched hw hv) hevent with hopens | ⟨conn, poll, rfl⟩
  · -- opened now, it is still there in the end
    refine .inr ?_
    have hends := fun other hother => (h.apart id).resolve_left
      (fun hnot => hnot act hact hopens) other hother
    have hlive := Act.live_of_opens enabled hw₁ hopens
    have hsame := rest.held?_of_live (Act.orderly_run enabled hw₁) hlive fun other hother =>
      hends other (List.mem_append_right _ (List.mem_cons_of_mem _ hother))
    rw [← Context.isSome_held?, hsame, Context.isSome_held?]
    exact hlive
  · -- stepping on, it was there in the beginning
    refine .inl (first.live_of_live hw (fun other hother => ?_)
      (Option.isSome_of_eq_some enabled.1))
    obtain ⟨event, rfl⟩ := hbelongs
    exact (h.belongsTo other (List.mem_append_left _ hother)).not_opens (fun h => h) id

/-- An operation that opens nothing calls the callbacks of a connection when it
    steps on or ends. -/
theorem Act.BelongsTo.of_addressee? {act : Act ρ κ} (h : act.BelongsTo operation answer)
    (hnot : ¬operation.Provides) (haddressee : act.addressee? = some id) :
    (∃ conn poll, act = .stepped id conn poll) ∨ act.Ends id := by
  cases act with
  | opened _ _ _ _ | openFailed _ _ _ _ => exact absurd h hnot
  | lent i conn key request onConnect load =>
      rw [h.1] at hnot
      exact absurd trivial hnot
  | stepped i conn poll =>
      cases haddressee
      exact .inl ⟨conn, poll, rfl⟩
  | finished i conn ending => exact .inr (Option.some.inj haddressee)
  | noted _ | asked _ _ _ | poolCreated _ _ | openSpoiled _ _ _ | takenBack _ _ _ _
  | adopted _ _ _ _ | tagged _ _ _ | deferred _ _ _ | poolsDropped => cases haddressee

/-- A handshake step that keeps its connection is all that its operation
    does. -/
theorem Course.eq_stepped (h : Course operation answer acts) {conn : Connection ρ κ}
    {poll : PollReport} (hmem : .stepped id conn poll ∈ acts) : acts = [.stepped id conn poll] := by
  obtain ⟨event, rfl⟩ := h.belongsTo _ hmem
  cases h with
  | advance _ _ hadvancing =>
      cases hadvancing with
      | ignored record => simp at hmem
      | stepped conn' poll' => rw [List.mem_singleton.1 hmem]
      | ended conn' ending hending records => simp at hmem

theorem Ending.addressee?_of_mem_heralds (ending : Ending κ) (conn : Connection ρ κ) :
    ∀ event ∈ ending.heralds id conn, event.addressee? = none := by
  cases ending with
  | bad _ _ | abandoned _ _ | lost _ _ | shrunk _ _ | dismissed _ =>
      exact List.forall_mem_singleton.2 rfl
  | disconnected _ | shutDown => exact List.forall_mem_nil _
  | pollFailed _ | deferred | refused _ _ =>
      simp [heralds, Connection.pollEvents, Event.addressee?]

section

variable {earlier later : List (Act ρ κ)} {v₁ : View ρ κ} {conn : Connection ρ κ}
  {ending : Ending κ}

/-- Before its end in an operation, a connection was not ended. -/
theorem Course.not_ends_before (h : Course operation answer
    (earlier ++ .finished id conn ending :: later)) (first : Path v earlier v₁)
    (hw : v.ctx.Orderly) (hconn : v₁.ctx.conn? id = some conn) :
    ∀ act ∈ earlier, ¬act.Ends id := by
  intro act hmem hends
  have hopens := h.apart.not_opens ⟨.finished id conn ending, by simp, rfl⟩
  have hnone := first.conn?_of_ends hw
    (fun other hother => hopens other (List.mem_append_left _ hother)) ⟨act, hmem, hends⟩
  rw [hconn] at hnone
  cases hnone

/-- Before the end of a connection its operation does not call its
    callbacks. -/
theorem Course.not_addressee?_before (h : Course operation answer
    (earlier ++ .finished id conn ending :: later)) (first : Path v earlier v₁)
    (hw : v.ctx.Orderly) (hconn : v₁.ctx.conn? id = some conn) :
    ∀ act ∈ earlier, act.addressee? ≠ some id := by
  intro act hact hcalls
  have hmem : .finished id conn ending ∈ earlier ++ .finished id conn ending :: later := by simp
  have hmem' := List.mem_append_left (.finished id conn ending :: later) hact
  have hnot := (h.belongsTo _ hmem).not_provides
  -- it did not end before, and had it stepped on, it would not end now
  rcases (h.belongsTo act hmem').of_addressee? hnot hcalls with ⟨old, poll, rfl⟩ | hends
  · rw [h.eq_stepped hmem', List.mem_singleton] at hmem
    cases hmem
  · exact h.not_ends_before first hw hconn act hact hends

/-- Nor does it do so after the end. -/
theorem Course.not_addressee?_after {v₂ : View ρ κ} (h : Course operation answer
    (earlier ++ .finished id conn ending :: later)) (hw : v₂.ctx.Orderly)
    (hgone : v₂.ctx.conn? id = none) (rest : Path v₂ later v') :
    ∀ act ∈ later, act.addressee? ≠ some id := by
  intro act hact hcalls
  have hmem : .finished id conn ending ∈ earlier ++ .finished id conn ending :: later := by simp
  have hmem' : act ∈ earlier ++ .finished id conn ending :: later :=
    List.mem_append_right _ (List.mem_cons_of_mem _ hact)
  have hopens := h.apart.not_opens ⟨_, hmem, rfl⟩
  have hnot := (h.belongsTo _ hmem).not_provides
  obtain ⟨before, _, v₃, rfl, first, enabled, -⟩ := rest.of_mem hact
  -- gone, it can neither step on nor end
  have hlive : (v₃.ctx.conn? id).isSome := by
    rcases (h.belongsTo act hmem').of_addressee? hnot hcalls with ⟨old, poll, rfl⟩ | hends
    · exact Option.isSome_of_eq_some enabled.1
    · exact Act.live_of_ends enabled hends
  have hback := first.live_of_live hw (fun other hother => hopens other (by simp [hother])) hlive
  rw [hgone] at hback
  cases hback

end

/-- An operation ends a connection in one stretch, and calls its callbacks
    nowhere else. -/
theorem Course.dismantles (h : Course operation answer acts) (hpath : Path v acts v')
    (hw : v.ctx.Orderly) (hv : v.ctx.Watched) {session : SessionNo} {socket : Int}
    (hheld : v.ctx.held? id = some (session, socket)) (hgone : v'.ctx.conn? id = none) :
    ∃ front calls back, acts.flatMap Act.events =
        front ++ .deregistered socket :: (calls ++ .tornDown session :: back) ∧
      (∀ event ∈ calls, event.isResource = false) ∧
      ∀ event ∈ front ++ back, event.addressee? ≠ some id := by
  have hlive : (v.ctx.conn? id).isSome := by
    rw [← Context.isSome_held?, hheld]
    rfl
  obtain ⟨act, hmem, hends⟩ := hpath.exists_ends hw hlive hgone
  cases act with
  | finished i conn ending =>
      obtain rfl : i = id := hends
      obtain ⟨earlier, later, v₁, rfl, first, enabled, rest⟩ := hpath.of_mem hmem
      have hw₁ := first.orderly hw
      -- the record that ends has the session and the socket of the one before
      have hsame := first.held?_of_live hw hlive (h.not_ends_before first hw enabled.1)
      rw [hheld, Context.held?, enabled.1] at hsame
      obtain ⟨rfl, rfl⟩ := Prod.mk.inj (Option.some.inj hsame)
      have hwatched := first.watched hw hv i conn enabled.1
      refine ⟨earlier.flatMap Act.events ++ ending.heralds i conn, ending.calls i conn,
        later.flatMap Act.events, ?_, ending.isResource_of_mem_calls conn i, ?_⟩
      · simp [Act.events, Ending.events, hwatched.unwatching_eq]
      · intro event hevent haddressee
        rw [List.append_assoc, List.mem_append, List.mem_append] at hevent
        rcases hevent with hfirst | hheralds | hlast
        · obtain ⟨act, hact, hcalls⟩ := first.addressee?_of_mem hfirst haddressee
          exact h.not_addressee?_before first hw enabled.1 act hact hcalls
        · rw [ending.addressee?_of_mem_heralds conn event hheralds] at haddressee
          cases haddressee
        · obtain ⟨act, hact, hcalls⟩ := rest.addressee?_of_mem hlast haddressee
          exact h.not_addressee?_after (Act.orderly_run enabled hw₁)
            (Act.conn?_of_ends enabled hw₁ rfl) rest act hact hcalls
  | noted _ | asked _ _ _ | poolCreated _ _ | opened _ _ _ _ | openFailed _ _ _ _
  | openSpoiled _ _ _ | stepped _ _ _ | lent _ _ _ _ _ _ | takenBack _ _ _ _ | adopted _ _ _ _
  | tagged _ _ _ | deferred _ _ _ | poolsDropped => exact hends.elim

end

end ConnPool
