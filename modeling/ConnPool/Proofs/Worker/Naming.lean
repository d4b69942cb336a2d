/-
  ConnPool.Proofs.Worker.Naming

  Which ids connections are given.

  A connection is put into the arena by the act that opens it, and given an id
  there, even if it is gone at once because its opening fails.  That id was not
  issued before the act and is issued after it.  So the acts of a path give
  different ids, as long as no generation wraps around.

  Sessions never wrap around: the act takes the next one, so no two connections
  have the same session, and a session belongs to a connection for good.
-/

import ConnPool.Proofs.Worker.Recycling
import ConnPool.Proofs.Worker.Resources

namespace ConnPool

variable {ρ κ : Type}

/-- The connection that an act puts into the arena, if it puts one in: its
    session and its id. -/
def Act.named? : Act ρ κ → Option (SessionNo × ConnId)
  | opened id _ conn _ | openFailed id _ conn _ => some (conn.session, id)
  | noted _ | asked .. | poolCreated .. | openSpoiled .. | stepped .. | lent .. | takenBack ..
  | adopted .. | tagged .. | deferred .. | finished .. | poolsDropped => none

/-- The connections that acts put into the arena, in order. -/
def namedBy (acts : List (Act ρ κ)) : List (SessionNo × ConnId) :=
  acts.filterMap Act.named?

theorem namedBy_cons (act : Act ρ κ) (acts : List (Act ρ κ)) :
    namedBy (act :: acts) = act.named?.toList ++ namedBy acts := by
  rw [namedBy, namedBy, List.filterMap_cons]
  cases act.named? with
  | none => rfl
  | some name => rfl

/-! ## New ids -/

/-- The id that an act gives is new. -/
theorem Act.issued_of_named {v : View ρ κ} {act : Act ρ κ} {n : Nat} (enabled : act.Enabled v)
    (hw : v.ctx.Orderly) (hn : v.ctx.conns.AtMostRemoved n) (hlt : n + act.removes < 2 ^ 32)
    {name : SessionNo × ConnId} (h : act.named? = some name) :
    ¬v.ctx.conns.Issued name.2 ∧ (act.run v).ctx.conns.Issued name.2 := by
  cases act with
  | opened id target conn poll =>
      cases h
      have hopened : (Act.opened id target conn poll).Enabled v := enabled
      obtain ⟨-, -, -, rfl, -, -, ha⟩ := enabled
      refine ⟨Arena.not_issued_fst_insert hw.arena ha, ?_⟩
      have hconn := conn?_run hopened hw (v.ctx.nextId conn)
      simp only [change, if_pos] at hconn
      exact Arena.issued_of_get? hconn
  | openFailed id target conn ending =>
      cases h
      obtain ⟨-, -, -, rfl, ha⟩ := enabled
      refine ⟨Arena.not_issued_fst_insert hw.arena ha, ?_⟩
      -- it was issued when the connection was put in, and stays so
      have hget : (v.ctx.conns.insert conn).2.get? (v.ctx.nextId conn) = some conn := by
        rw [Arena.get?_insert hw.arena ha]
        exact if_pos rfl
      exact (Arena.issued_of_get? hget).remove (hn.insert hw.arena conn) hlt _
  | noted _ | asked _ _ _ | poolCreated _ _ | openSpoiled _ _ _ | stepped _ _ _
  | lent _ _ _ _ _ _ | takenBack _ _ _ _ | adopted _ _ _ _ | tagged _ _ _ | deferred _ _ _
  | finished _ _ _ | poolsDropped => cases h

namespace Path

variable {v v' : View ρ κ} {acts : List (Act ρ κ)}

/-- The ids that a path gives are new. -/
theorem issued_of_named (h : Path v acts v') (hw : v.ctx.Orderly) {n : Nat}
    (hn : v.ctx.conns.AtMostRemoved n) (hlt : n + removals acts < 2 ^ 32) :
    ∀ name ∈ namedBy acts, ¬v.ctx.conns.Issued name.2 ∧ v'.ctx.conns.Issued name.2 := by
  intro name hmem
  obtain ⟨act, hact, hname⟩ := List.mem_filterMap.1 hmem
  obtain ⟨earlier, later, v₁, rfl, first, enabled, rest⟩ := h.of_mem hact
  rw [removals_split] at hlt
  have hw₁ := first.orderly hw
  obtain ⟨hn₁, hfirst⟩ := first.recycles hw hn (by omega)
  obtain ⟨hnew, hissued⟩ := Act.issued_of_named enabled hw₁ hn₁ (by omega) hname
  obtain ⟨-, hrest⟩ := rest.recycles (Act.orderly_run enabled hw₁)
    (Act.atMostRemoved_run hw₁ hn₁) (by omega)
  exact ⟨fun hold => hnew (hfirst.issued _ hold), hrest.issued _ hissued⟩

/-- A path gives no id twice. -/
theorem nodup_named (h : Path v acts v') (hw : v.ctx.Orderly) {n : Nat}
    (hn : v.ctx.conns.AtMostRemoved n) (hlt : n + removals acts < 2 ^ 32) :
    ((namedBy acts).map Prod.snd).Nodup := by
  induction h generalizing n with
  | nil => exact List.nodup_nil
  | @cons v v' act acts enabled hrest ih =>
      rw [removals_cons] at hlt
      have hw' := Act.orderly_run enabled hw
      have hn' : (act.run v).ctx.conns.AtMostRemoved (n + act.removes) :=
        Act.atMostRemoved_run hw hn
      have hlater := ih hw' hn' (by omega)
      rw [namedBy_cons]
      cases hname : act.named? with
      | none => exact hlater
      | some name =>
          refine List.nodup_cons.2 ⟨fun hmem => ?_, hlater⟩
          -- given now, the id cannot be new later
          obtain ⟨other, hother, heq⟩ := List.mem_map.1 hmem
          have hissued := (Act.issued_of_named enabled hw hn (by omega) hname).2
          have hnew := (hrest.issued_of_named hw' hn' (by omega) other hother).1
          rw [heq] at hnew
          exact hnew hissued

end Path

/-! ## Who is named -/

/-- A session that is started gets a connection, unless its socket cannot be
    made non-blocking. -/
theorem Act.named_of_started {v : View ρ κ} {act : Act ρ κ} (enabled : act.Enabled v)
    (hv : v.ctx.Watched) {session : SessionNo} {target : Target}
    (hmem : .started session target ∈ act.events) :
    (∃ id, act.named? = some (session, id)) ∨
      ∃ reason, .nonblocking session (some reason) ∈ act.events := by
  rw [mem_resources enabled hv rfl] at hmem
  cases act with
  | opened id target conn poll =>
      rcases List.mem_cons.1 hmem with heq | hmem
      · cases heq
        exact .inl ⟨id, rfl⟩
      · cases List.mem_singleton.1 hmem
  | openFailed id target conn ending =>
      rcases List.mem_cons.1 hmem with heq | hmem
      · cases heq
        exact .inl ⟨id, rfl⟩
      · cases List.mem_singleton.1 hmem
  | openSpoiled session target reason =>
      rcases List.mem_cons.1 hmem with heq | hmem
      · cases heq
        exact .inr ⟨reason, by simp [events]⟩
      · cases List.mem_singleton.1 hmem
  | finished _ _ _ => simp [resources] at hmem
  | stepped _ _ _ => simp [resources] at hmem
  | noted _ | asked _ _ _ | poolCreated _ _ | lent _ _ _ _ _ _ | takenBack _ _ _ _
  | adopted _ _ _ _ | tagged _ _ _ | deferred _ _ _ | poolsDropped => cases hmem

theorem Path.named_of_started {v v' : View ρ κ} {acts : List (Act ρ κ)} (h : Path v acts v')
    (hw : v.ctx.Orderly) (hv : v.ctx.Watched) {session : SessionNo} {target : Target}
    (hmem : .started session target ∈ acts.flatMap Act.events) :
    (∃ id, (session, id) ∈ namedBy acts) ∨
      ∃ reason, .nonblocking session (some reason) ∈ acts.flatMap Act.events := by
  obtain ⟨act, hact, hevent⟩ := List.mem_flatMap.1 hmem
  obtain ⟨earlier, later, v₁, rfl, first, enabled, -⟩ := h.of_mem hact
  rcases Act.named_of_started enabled (first.watched hw hv) hevent with ⟨id, hname⟩ | ⟨reason, hno⟩
  · exact .inl ⟨id, List.mem_filterMap.2 ⟨act, hact, hname⟩⟩
  · exact .inr ⟨reason, List.mem_flatMap.2 ⟨act, hact, hno⟩⟩

/-- A connection that is live after an act was so before, or is the one that the
    act puts in. -/
theorem Act.named_of_held {v : View ρ κ} {act : Act ρ κ} (enabled : act.Enabled v)
    (hw : v.ctx.Orderly) {id : ConnId} {session : SessionNo} {socket : Int}
    (h : (act.run v).ctx.held? id = some (session, socket)) :
    v.ctx.held? id = some (session, socket) ∨ act.named? = some (session, id) := by
  have hends : ¬act.Ends id := by
    intro hends
    rw [Context.held?, conn?_of_ends enabled hw hends] at h
    cases h
  by_cases hopens : act.Opens id
  · refine .inr ?_
    cases act with
    | opened i target conn poll =>
        obtain rfl : i = id := hopens
        rw [Context.held?, conn?_run enabled hw] at h
        simp only [change, if_pos, Option.map_some] at h
        cases h
        rfl
    | noted _ | asked _ _ _ | poolCreated _ _ | openFailed _ _ _ _ | openSpoiled _ _ _
    | stepped _ _ _ | lent _ _ _ _ _ _ | takenBack _ _ _ _ | adopted _ _ _ _ | tagged _ _ _
    | deferred _ _ _ | finished _ _ _ | poolsDropped => exact hopens.elim
  · rw [held?_run enabled hw hopens hends] at h
    exact .inl h

theorem Path.named_of_held {v v' : View ρ κ} {acts : List (Act ρ κ)} (h : Path v acts v')
    (hw : v.ctx.Orderly) {id : ConnId} {session : SessionNo} {socket : Int}
    (hheld : v'.ctx.held? id = some (session, socket)) :
    v.ctx.held? id = some (session, socket) ∨ (session, id) ∈ namedBy acts := by
  induction h with
  | nil => exact .inl hheld
  | @cons v v' act acts enabled _ ih =>
      rw [namedBy_cons]
      rcases ih (Act.orderly_run enabled hw) hheld with hbefore | hlater
      · rcases Act.named_of_held enabled hw hbefore with hold | hname
        · exact .inl hold
        · refine .inr (List.mem_append_left _ ?_)
          rw [hname]
          exact List.mem_singleton_self _
      · exact .inr (List.mem_append_right _ hlater)

/-! ## Sessions and their connections -/

/-- The sessions of live connections have been started, and no two connections
    have the same one. -/
structure View.Numbered (v : View ρ κ) : Prop where
  started : ∀ id session socket, v.ctx.held? id = some (session, socket) → session < v.started
  unique : ∀ id other session socket socket', v.ctx.held? id = some (session, socket) →
    v.ctx.held? other = some (session, socket') → other = id

section

variable {v v' : View ρ κ} {act : Act ρ κ} {acts : List (Act ρ κ)} {id : ConnId}
  {session : SessionNo} {socket : Int}

/-- A connection is named after a session that is just being started. -/
theorem Act.started_of_named (enabled : act.Enabled v) (h : act.named? = some (session, id)) :
    session = v.started ∧ act.starts = 1 := by
  cases act with
  | opened i target conn poll =>
      cases h
      exact ⟨enabled.2.1, rfl⟩
  | openFailed i target conn ending =>
      cases h
      exact ⟨enabled.2.1, rfl⟩
  | noted _ | asked _ _ _ | poolCreated _ _ | openSpoiled _ _ _ | stepped _ _ _
  | lent _ _ _ _ _ _ | takenBack _ _ _ _ | adopted _ _ _ _ | tagged _ _ _ | deferred _ _ _
  | finished _ _ _ | poolsDropped => cases h

theorem Act.numbered_run (enabled : act.Enabled v) (hw : v.ctx.Orderly) (h : v.Numbered) :
    (act.run v).Numbered := by
  have hstarted : (act.run v).started = v.started + act.starts := rfl
  constructor
  case started =>
    intro id session socket hheld
    rw [hstarted]
    rcases named_of_held enabled hw hheld with hold | hname
    · exact Nat.lt_add_right _ (h.started id session socket hold)
    · obtain ⟨rfl, hstarts⟩ := started_of_named enabled hname
      rw [hstarts]
      exact Nat.lt_succ_self _
  case unique =>
    intro id other session socket socket' hid hother
    rcases named_of_held enabled hw hid with hid | hid
    · rcases named_of_held enabled hw hother with hother | hother
      · exact h.unique id other session socket socket' hid hother
      · have hlt := h.started id session socket hid
        rw [(started_of_named enabled hother).1] at hlt
        exact absurd hlt (Nat.lt_irrefl _)
    · rcases named_of_held enabled hw hother with hother | hother
      · have hlt := h.started other session socket' hother
        rw [(started_of_named enabled hid).1] at hlt
        exact absurd hlt (Nat.lt_irrefl _)
      · rw [hid] at hother
        exact (congrArg Prod.snd (Option.some.inj hother)).symm

theorem Path.numbered (h : Path v acts v') (hw : v.ctx.Orderly) (hv : v.Numbered) :
    v'.Numbered := by
  induction h with
  | nil => exact hv
  | cons enabled _ ih => exact ih (Act.orderly_run enabled hw) (Act.numbered_run enabled hw hv)

/-- Whoever has a session from before a path had it then. -/
theorem Path.held?_of_started (h : Path v acts v') (hw : v.ctx.Orderly)
    (hheld : v'.ctx.held? id = some (session, socket)) (hstarted : session < v.started) :
    v.ctx.held? id = some (session, socket) := by
  induction h with
  | nil => exact hheld
  | @cons v v' act acts enabled _ ih =>
      have hrun : session < (act.run v).started := Nat.lt_add_right _ hstarted
      rcases Act.named_of_held enabled hw (ih (Act.orderly_run enabled hw) hheld hrun) with
        hold | hname
      · exact hold
      · rw [(Act.started_of_named enabled hname).1] at hstarted
        exact absurd hstarted (Nat.lt_irrefl _)

end

end ConnPool
