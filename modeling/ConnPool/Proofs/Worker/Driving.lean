/-
  ConnPool.Proofs.Worker.Driving

  Who polls which session, and what is asked for after it.

  A session is polled by the act that opens its connection, and from then on by
  the steps of that connection while it is connecting.  Sessions are numbered in
  the order of their starts, so that an opening polls a session that nobody has,
  and a step one that nobody else has; hence what is asked for after a poll is
  asked for the connection of the session.
-/

import ConnPool.Proofs.Worker.Course
import ConnPool.Proofs.Worker.Naming
import ConnPool.Proofs.Worker.Polling

namespace ConnPool

variable {ρ κ : Type}

/-! ## Who is polled -/

section

variable {v v' : View ρ κ} {act : Act ρ κ} {acts : List (Act ρ κ)} {polling : Polling}

theorem Ending.session_of_polling {id : ConnId} {conn : Connection ρ κ} {ending : Ending κ}
    (h : ending.polling? id conn = some polling) : polling.session = conn.session := by
  cases ending with
  | pollFailed _ | refused _ _ | deferred =>
      cases h
      rfl
  | bad _ _ | abandoned _ _ | disconnected _ | lost _ _ | shrunk _ _ | dismissed _
  | shutDown => cases h

theorem Ending.connecting_of_polling {id : ConnId} {conn : Connection ρ κ} {ending : Ending κ}
    (h : ending.polling? id conn = some polling) (hfits : ending.Fits conn) :
    conn.state = .connecting := by
  cases ending with
  | pollFailed _ => exact hfits
  | refused _ _ | deferred => exact hfits.1
  | bad _ _ | abandoned _ _ | disconnected _ | lost _ _ | shrunk _ _ | dismissed _
  | shutDown => cases h

/-- The session that an act polls is just being started, or it is that of a
    connecting connection, which is the one that the act concerns. -/
theorem Act.polling_cases (enabled : act.Enabled v) (h : act.polling? = some polling) :
    (act.starts = 1 ∧ polling.session = v.started) ∨
      (act.starts = 0 ∧ ∃ id conn, v.ctx.conn? id = some conn ∧ conn.state = .connecting ∧
        conn.session = polling.session ∧ act.change.map Prod.fst = some id) := by
  cases act with
  | opened id target conn poll =>
      cases h
      exact .inl ⟨rfl, enabled.2.1⟩
  | openFailed id target conn ending =>
      exact .inl ⟨rfl, (Ending.session_of_polling h).trans enabled.2.1⟩
  | stepped id conn poll =>
      cases h
      exact .inr ⟨rfl, id, conn, enabled.1, enabled.2.1, rfl, rfl⟩
  | finished id conn ending =>
      exact .inr ⟨rfl, id, conn, enabled.1, Ending.connecting_of_polling h enabled.2,
        (Ending.session_of_polling h).symm, rfl⟩
  | noted _ | asked _ _ _ | poolCreated _ _ | openSpoiled _ _ _ | lent _ _ _ _ _ _
  | takenBack _ _ _ _ | adopted _ _ _ _ | tagged _ _ _ | deferred _ _ _
  | poolsDropped => cases h

/-- An act that starts a session polls no other one. -/
theorem Act.session_of_polling (enabled : act.Enabled v) (h : act.polling? = some polling)
    (hstarts : act.starts = 1) : polling.session = v.started := by
  rcases polling_cases enabled h with ⟨-, hsession⟩ | ⟨hnone, -⟩
  · exact hsession
  · rw [hnone] at hstarts
    cases hstarts

/-- Sessions are polled by those who open connections, and on reports that they
    are ready. -/
theorem Act.BelongsTo.of_polling {operation : Operation ρ κ} {answer : Answer}
    (h : act.BelongsTo operation answer) (hpolling : act.polling? = some polling) :
    (operation.Provides ∧ act.starts = 1) ∨ ∃ id event, operation = .advance id event := by
  cases act with
  | opened id target conn poll | openFailed id target conn ending => exact .inl ⟨h, rfl⟩
  | stepped id conn poll => exact .inr ⟨id, h⟩
  | finished id conn ending =>
      cases ending with
      | pollFailed _ | refused _ _ | deferred => exact .inr ⟨id, h⟩
      | bad _ _ | abandoned _ _ | disconnected _ | lost _ _ | shrunk _ _ | dismissed _
      | shutDown => cases hpolling
  | noted _ | asked _ _ _ | poolCreated _ _ | openSpoiled _ _ _ | lent _ _ _ _ _ _
  | takenBack _ _ _ _ | adopted _ _ _ _ | tagged _ _ _ | deferred _ _ _
  | poolsDropped => cases hpolling

/-- An opening polls its session if the socket could be made non-blocking. -/
theorem Act.nonblocking_iff (enabled : act.Enabled v) (hasks : ¬act.Asks) (session : SessionNo) :
    .nonblocking session none ∈ act.events ↔
      act.starts = 1 ∧ ∃ polling, act.polling? = some polling ∧ polling.session = session := by
  have hmem : .nonblocking session none ∈ act.events ↔ .nonblocking session none ∈ act.driving := by
    rw [← filter_driving enabled hasks, List.mem_filter]
    exact (and_iff_left rfl).symm
  rw [hmem]
  cases act with
  | opened id target conn poll => simp [driving, starts, polling?, eq_comm]
  | openFailed id target conn ending =>
      obtain ⟨-, -, hends, -⟩ := enabled
      cases ending with
      | bad _ _ => simp [driving, polling?, Ending.polling?]
      | pollFailed _ | refused _ _ =>
          simp [driving, Ending.driving, starts, polling?, Ending.polling?, eq_comm]
      | abandoned _ _ | deferred | disconnected _ | lost _ _ | shrunk _ _ | dismissed _
      | shutDown => exact hends.elim
  | finished id conn ending => cases ending <;> simp [driving, Ending.driving, starts]
  | openSpoiled session' target reason => simp [driving, polling?]
  | noted _ | asked _ _ _ | poolCreated _ _ | stepped _ _ _ | lent _ _ _ _ _ _
  | takenBack _ _ _ _ | adopted _ _ _ _ | tagged _ _ _ | deferred _ _ _
  | poolsDropped => simp [driving, starts]

/-- An opening polls its session if it comes to a handshake step. -/
theorem Opening.readied_iff {target : Target} {request : Option ρ} {onConnect : Option κ}
    {membership : Membership} {outcome : Except PoolError ConnId}
    (h : Opening target request onConnect membership outcome act) (enabled : act.Enabled v) :
    act.Readied ↔ ∃ polling, act.polling? = some polling := by
  cases h with
  | opened id conn poll _ _ _ => exact iff_of_true trivial ⟨_, rfl⟩
  | unstarted _ _ _ | spoiled _ _ => exact iff_of_false (fun h => h) (by rintro ⟨_, ⟨⟩⟩)
  | failed id conn ending _ _ _ _ _ =>
      obtain ⟨hnew, -, hends, -⟩ := enabled
      cases ending with
      | bad _ _ => exact iff_of_false (fun h => h) (by rintro ⟨_, ⟨⟩⟩)
      | pollFailed _ => exact iff_of_true trivial ⟨_, rfl⟩
      | refused poll _ =>
          -- nobody can have asked a new connection to end
          have hpending : conn.disconnectPending = false := by rw [hnew]
          refine iff_of_true ⟨hends, fun hboth => ?_⟩ ⟨_, rfl⟩
          rw [hpending] at hboth
          cases hboth.2
      | abandoned _ _ | deferred | disconnected _ | lost _ _ | shrunk _ _ | dismissed _
      | shutDown => exact hends.elim

theorem Opening.starts_of_polling {target : Target} {request : Option ρ} {onConnect : Option κ}
    {membership : Membership} {outcome : Except PoolError ConnId}
    (h : Opening target request onConnect membership outcome act)
    (hpolling : act.polling? = some polling) : act.starts = 1 := by
  cases h with
  | opened _ _ _ _ _ _ | failed _ _ _ _ _ _ _ _ => rfl
  | unstarted _ _ _ | spoiled _ _ => cases hpolling

theorem Opening.not_asks {target : Target} {request : Option ρ} {onConnect : Option κ}
    {membership : Membership} {outcome : Except PoolError ConnId}
    (h : Opening target request onConnect membership outcome act) : ¬act.Asks := by
  cases h with
  | opened _ _ _ _ _ _ | unstarted _ _ _ | spoiled _ _ | failed _ _ _ _ _ _ _ _ =>
      exact fun hasks => hasks

/-- Only a session that is started is made ready for its handshake. -/
theorem Act.started_of_nonblocking (enabled : act.Enabled v) (hasks : ¬act.Asks)
    {session : SessionNo} (h : .nonblocking session none ∈ act.events) :
    ∃ target, .started session target ∈ act.events := by
  obtain ⟨hstarts, polling, hpolling, rfl⟩ := (nonblocking_iff enabled hasks session).1 h
  rw [session_of_polling enabled hpolling hstarts]
  cases act with
  | opened id target conn poll =>
      rw [← enabled.2.1]
      exact ⟨target, List.mem_cons_self⟩
  | openFailed id target conn ending =>
      rw [← enabled.2.1]
      refine ⟨target, ?_⟩
      cases ending <;> exact List.mem_cons_self
  | openSpoiled _ _ _ => cases hpolling
  | noted _ | asked _ _ _ | poolCreated _ _ | stepped _ _ _ | lent _ _ _ _ _ _
  | takenBack _ _ _ _ | adopted _ _ _ _ | tagged _ _ _ | deferred _ _ _ | finished _ _ _
  | poolsDropped => cases hstarts

/-- Sessions that are polled as they are started are new, and polled once. -/
theorem Path.nodup_polled (h : Path v acts v')
    (hstarts : ∀ act ∈ acts, ∀ polling, act.polling? = some polling → act.starts = 1) :
    ((acts.filterMap Act.polling?).map Polling.session).Nodup ∧
      ∀ polling ∈ acts.filterMap Act.polling?, v.started ≤ polling.session := by
  induction h with
  | nil => exact ⟨List.nodup_nil, List.forall_mem_nil _⟩
  | @cons v v' act acts enabled _ ih =>
      obtain ⟨hact, hrest⟩ := List.forall_mem_cons.1 hstarts
      obtain ⟨hnodup, hlater⟩ := ih hrest
      have hrun : (act.run v).started = v.started + act.starts := rfl
      rw [hrun] at hlater
      cases hpolling : act.polling? with
      | none =>
          rw [List.filterMap_cons_none hpolling]
          exact ⟨hnodup, fun polling hmem => Nat.le_trans (Nat.le_add_right _ _) (hlater _ hmem)⟩
      | some polling =>
          have hone := hact polling hpolling
          have hsession := Act.session_of_polling enabled hpolling hone
          rw [List.filterMap_cons_some hpolling]
          constructor
          · refine List.nodup_cons.2 ⟨fun hmem => ?_, hnodup⟩
            obtain ⟨other, hother, heq⟩ := List.mem_map.1 hmem
            have hle := hlater other hother
            rw [heq, hsession, hone] at hle
            exact Nat.not_succ_le_self _ hle
          · refine List.forall_mem_cons.2 ⟨Nat.le_of_eq hsession.symm, fun other hother => ?_⟩
            exact Nat.le_trans (Nat.le_add_right _ _) (hlater other hother)

end

/-! ## What is asked for after a poll -/

/-- Whether a disconnect waits for the handshake of a session. -/
def Context.Awaits (ctx : Context ρ κ) (session : SessionNo) : Prop :=
  ∃ id conn, ctx.conn? id = some conn ∧ conn.session = session ∧ conn.disconnectPending = true

/-- Whether a poll was followed by what it called for, on the way from one
    context to another. -/
structure Polling.Settled (polling : Polling) (ctx ctx' : Context ρ κ) : Prop where
  /-- After a failure nothing is asked for, nor after a success for which a
      disconnect waits. -/
  refrained : polling.report = .failed ∨ (polling.report = .ok ∧ ctx.Awaits polling.session) →
    polling.attempts = []
  /-- Otherwise the event loop is asked once to watch the socket of the session
      for what the poll reported, on behalf of the session's connection. -/
  asked : polling.report ≠ .failed → ¬(polling.report = .ok ∧ ctx.Awaits polling.session) →
    ∃ socket id, polling.attempts = [(socket, polling.report.interest, id)] ∧
      ∀ other socket', ctx.held? other = some (polling.session, socket') ∨
        ctx'.held? other = some (polling.session, socket') → other = id ∧ socket' = socket

section

variable {v v' : View ρ κ} {act : Act ρ κ} {acts : List (Act ρ κ)} {polling : Polling}

/-- What an opening asks for, it asks for the connection that it opens. -/
theorem Act.attempts_of_starts (enabled : act.Enabled v) (hw : v.ctx.Orderly) (hv : v.Numbered)
    (h : act.polling? = some polling) (hstarts : act.starts = 1) :
    (polling.report = .failed ∧ polling.attempts = []) ∨
      (polling.report ≠ .failed ∧
        ∃ socket id, polling.attempts = [(socket, polling.report.interest, id)] ∧
          ∀ other socket', (act.run v).ctx.held? other = some (polling.session, socket') →
            other = id ∧ socket' = socket) := by
  have hsession := session_of_polling enabled h hstarts
  -- nobody had the session before it was started, so whoever has it is named after it
  have hnamed : ∀ other socket', (act.run v).ctx.held? other = some (polling.session, socket') →
      act.named? = some (polling.session, other) := by
    intro other socket' hheld
    refine (named_of_held enabled hw hheld).resolve_left fun hold => ?_
    have hlt := hv.started other _ socket' hold
    rw [hsession] at hlt
    exact Nat.lt_irrefl _ hlt
  cases act with
  | opened id target conn poll =>
      cases h
      refine .inr ⟨enabled.2.2.1, conn.socket, id, rfl, fun other socket' hheld => ?_⟩
      obtain rfl : id = other := congrArg Prod.snd (Option.some.inj (hnamed other socket' hheld))
      rw [Context.held?, conn?_run enabled hw] at hheld
      simp only [change, if_pos, Option.map_some] at hheld
      cases hheld
      exact ⟨rfl, rfl⟩
  | openFailed id target conn ending =>
      have hgone := conn?_run_openFailed hw enabled
      obtain ⟨-, -, hends, -⟩ := enabled
      cases ending with
      | pollFailed reason =>
          cases h
          exact .inl ⟨rfl, rfl⟩
      | refused poll reason =>
          cases h
          refine .inr ⟨hends, conn.socket, id, rfl, fun other socket' hheld => ?_⟩
          -- it is gone already
          obtain rfl : id = other := congrArg Prod.snd (Option.some.inj (hnamed other socket' hheld))
          rw [Context.held?, hgone] at hheld
          cases hheld
      | bad _ _ => cases h
      | abandoned _ _ | deferred | disconnected _ | lost _ _ | shrunk _ _ | dismissed _
      | shutDown => exact hends.elim
  | openSpoiled _ _ _ => cases h
  | noted _ | asked _ _ _ | poolCreated _ _ | stepped _ _ _ | lent _ _ _ _ _ _
  | takenBack _ _ _ _ | adopted _ _ _ _ | tagged _ _ _ | deferred _ _ _ | finished _ _ _
  | poolsDropped => cases hstarts

/-- The poll of an opening is followed by what it calls for. -/
theorem Path.settled_of_starts (h : Path v acts v') (hw : v.ctx.Orderly) (hv : v.Numbered)
    (hmem : act ∈ acts) (hpolling : act.polling? = some polling) (hstarts : act.starts = 1) :
    polling.Settled v.ctx v'.ctx := by
  obtain ⟨earlier, later, v₁, -, hfirst, enabled, hlater⟩ := h.of_mem hmem
  have hw₁ := hfirst.orderly hw
  have hsession := Act.session_of_polling enabled hpolling hstarts
  have hrun : polling.session < (act.run v₁).started := by
    show polling.session < v₁.started + act.starts
    rw [hsession, hstarts]
    exact Nat.lt_succ_self _
  -- nobody has the session yet
  have hnew : ∀ other socket, v.ctx.held? other ≠ some (polling.session, socket) := by
    intro other socket hheld
    have hlt := hv.started other _ socket hheld
    rw [hsession] at hlt
    exact absurd hlt (Nat.not_lt_of_le hfirst.started_le)
  have hawaits : ¬v.ctx.Awaits polling.session := by
    rintro ⟨other, conn, hconn, hsame, -⟩
    exact hnew other conn.socket (hsame ▸ Context.held?_of_conn? hconn)
  rcases Act.attempts_of_starts enabled hw₁ (hfirst.numbered hw hv) hpolling hstarts with
    ⟨hfailed, hnone⟩ | ⟨hreport, socket, id, hasked, howner⟩
  · exact ⟨fun _ => hnone, fun hreport => absurd hfailed hreport⟩
  · refine ⟨fun hor => ?_, fun _ _ => ⟨socket, id, hasked, fun other socket' hor => ?_⟩⟩
    · rcases hor with hfailed | ⟨-, hwaits⟩
      · exact absurd hfailed hreport
      · exact absurd hwaits hawaits
    · refine hor.elim (fun hheld => absurd hheld (hnew other socket')) fun hheld => ?_
      exact howner other socket'
        (hlater.held?_of_started (Act.orderly_run enabled hw₁) hheld hrun)

/-- A report that drives a handshake polls its session once, and what the poll
    calls for follows. -/
theorem Stepping.settled {id : ConnId} {conn : Connection ρ κ} (h : Stepping id conn acts)
    (hpath : Path v acts v') (hw : v.ctx.Orderly) (hv : v.Numbered) :
    ∃ polling, acts.filterMap Act.polling? = [polling] ∧ polling.session = conn.session ∧
      polling.Settled v.ctx v'.ctx := by
  have hconn : v.ctx.conn? id = some conn := by
    cases h with
    | stepped poll | ended ending hends records =>
        cases hpath with
        | cons enabled _ => exact enabled.1
  have hheld := Context.held?_of_conn? hconn
  -- the session is that of this connection, before and after
  have howner : ∀ other socket', v.ctx.held? other = some (conn.session, socket') ∨
      v'.ctx.held? other = some (conn.session, socket') → other = id ∧ socket' = conn.socket := by
    intro other socket' hor
    have hother : v.ctx.held? other = some (conn.session, socket') :=
      hor.elim (fun hbefore => hbefore) fun hafter =>
        hpath.held?_of_started hw hafter (hv.started id _ _ hheld)
    obtain rfl := hv.unique id other _ _ _ hheld hother
    rw [hheld] at hother
    exact ⟨rfl, (congrArg Prod.snd (Option.some.inj hother)).symm⟩
  have hawaits : v.ctx.Awaits conn.session ↔ conn.disconnectPending = true := by
    constructor
    · rintro ⟨other, conn', hconn', hsession, hpending⟩
      have hother := Context.held?_of_conn? hconn'
      rw [hsession] at hother
      obtain rfl := hv.unique id other _ _ _ hheld hother
      rw [hconn] at hconn'
      rwa [Option.some.inj hconn']
    · exact fun hpending => ⟨id, conn, hconn, rfl, hpending⟩
  have hasks : ∀ poll : PollReport, poll ≠ .failed →
      ¬(poll = .ok ∧ conn.disconnectPending = true) →
      Polling.Settled ⟨conn.session, poll, [(conn.socket, poll.interest, id)]⟩ v.ctx v'.ctx := by
    intro poll hpoll hnot
    refine ⟨fun hor => ?_, fun _ _ => ⟨conn.socket, id, rfl, howner⟩⟩
    rcases hor with hfailed | ⟨hok, hwaits⟩
    · exact absurd hfailed hpoll
    · exact absurd ⟨hok, hawaits.1 hwaits⟩ hnot
  cases h with
  | stepped poll =>
      cases hpath with
      | cons enabled _ =>
          obtain ⟨-, -, hpoll, hnot⟩ := enabled
          exact ⟨_, rfl, rfl, hasks poll hpoll hnot⟩
  | ended ending hends records =>
      cases ending with
      | pollFailed reason =>
          exact ⟨_, rfl, rfl, fun _ => rfl, fun hreport => absurd rfl hreport⟩
      | refused poll reason => exact ⟨_, rfl, rfl, hasks poll hends.1 hends.2⟩
      | deferred =>
          exact ⟨_, rfl, rfl, fun _ => rfl, fun _ hnot => absurd ⟨rfl, hawaits.2 hends⟩ hnot⟩
      | bad _ _ | abandoned _ _ | disconnected _ | lost _ _ | shrunk _ _ | dismissed _
      | shutDown => exact hends.elim

/-- Any other report polls nothing. -/
theorem Resting.polling?_eq_none {id : ConnId} (h : Resting id acts) :
    acts.filterMap Act.polling? = [] := by
  cases h with
  | ignored _ | abandoned _ _ _ | lost _ _ _ => rfl

end

end ConnPool
