/-
  ConnPool.Proofs.Run.Sessions

  Sessions and sockets along runs.

  No session leaks and none is torn down twice: each session that was started
  is owned by one live connection until it is torn down.  And a socket is given
  back as often as it was taken: when a connection ends that the event loop has
  accepted, and then once, before the callbacks are told and the session ends.
-/

import ConnPool.Proofs.Run.Membership
import ConnPool.Proofs.Worker.Dismantling

namespace ConnPool

variable {ω ρ κ : Type} [Environment ω]

/-- Whether the connection under `id` is live and owns a session. -/
def Context.Owns (ctx : Context ρ κ) (id : ConnId) (session : SessionNo) : Prop :=
  ∃ conn, ctx.conn? id = some conn ∧ conn.session = session

theorem Context.mem_sessions {ctx : Context ρ κ} (ha : ctx.conns.Addressable)
    {session : SessionNo} : session ∈ ctx.sessions ↔ ∃ id, ctx.Owns id session := by
  rw [sessions, List.mem_map]
  constructor
  · rintro ⟨⟨id, conn⟩, hmem, hsession⟩
    exact ⟨id, conn, (Arena.mem_entries ha).1 hmem, hsession⟩
  · rintro ⟨id, conn, hconn, hsession⟩
    exact ⟨(id, conn), (Arena.mem_entries ha).2 hconn, hsession⟩

theorem Context.eq_of_owns {ctx : Context ρ κ} (ha : ctx.conns.Addressable)
    (h : ctx.sessions.Nodup) {id other : ConnId} {session : SessionNo} (hid : ctx.Owns id session)
    (hother : ctx.Owns other session) : other = id := by
  obtain ⟨conn, hconn, rfl⟩ := hid
  obtain ⟨conn', hconn', hsession⟩ := hother
  exact eq_of_nodup_entries ha h hconn hconn' hsession

/-! ## Sessions -/

namespace Worker

/-- The sessions that were started, in order. -/
def sessionsStarted (w : Worker ω ρ κ) : List SessionNo :=
  w.trace.filterMap Event.started?

/-- The sessions that were torn down, in order. -/
def sessionsTornDown (w : Worker ω ρ κ) : List SessionNo :=
  w.trace.filterMap Event.tornDown?

end Worker

/-- What has become of the sessions that were started. -/
structure SessionLedger (w : Worker ω ρ κ) : Prop where
  started_once : w.sessionsStarted.Nodup
  /-- Either one live connection owns the session and it was never torn down,
      or it was torn down once and nobody owns it. -/
  settled : ∀ session ∈ w.sessionsStarted,
    ((∃ id, w.ctx.Owns id session ∧ ∀ other, w.ctx.Owns other session → other = id) ∧
        w.sessionsTornDown.count session = 0) ∨
      ((∀ id, ¬w.ctx.Owns id session) ∧ w.sessionsTornDown.count session = 1)
  /-- Nothing else is owned or torn down. -/
  started : ∀ session, (∃ id, w.ctx.Owns id session) ∨ session ∈ w.sessionsTornDown →
    session ∈ w.sessionsStarted
  balanced : w.sessionsStarted.length = w.sessionsTornDown.length + w.ctx.count

omit [Environment ω] in
theorem View.Kept.sessionLedger {w : Worker ω ρ κ} (h : w.view.Kept) (hw : w.ctx.Orderly)
    (ha : w.ctx.conns.Addressable) : SessionLedger w := by
  have hkept : w.sessionsStarted.Perm (w.ctx.sessions ++ w.sessionsTornDown) := h.kept
  have hmem : ∀ session, session ∈ w.sessionsStarted ↔
      (∃ id, w.ctx.Owns id session) ∨ session ∈ w.sessionsTornDown := fun session => by
    rw [hkept.mem_iff, List.mem_append, Context.mem_sessions ha]
  obtain ⟨howned, htorn, hdisjoint⟩ := List.nodup_append.1 h.nodup_kept
  constructor
  case started_once => exact h.nodup_started
  case started => exact fun session => (hmem session).2
  case settled =>
    intro session hsession
    rcases (hmem session).1 hsession with ⟨id, hid⟩ | hdown
    · have howner := (Context.mem_sessions ha).2 ⟨id, hid⟩
      refine .inl ⟨⟨id, hid, fun other => Context.eq_of_owns ha howned hid⟩, ?_⟩
      exact List.count_eq_zero.2 fun hdown => hdisjoint session howner session hdown rfl
    · refine .inr ⟨fun id hid => ?_, List.count_eq_one_of_mem htorn hdown⟩
      exact hdisjoint session ((Context.mem_sessions ha).2 ⟨id, hid⟩) session hdown rfl
  case balanced =>
    have hcount : w.ctx.sessions.length = w.ctx.count := by
      rw [Context.sessions, List.length_map, Context.count, hw.arena.size_eq]
    rw [hkept.length_eq, List.length_append, hcount, Nat.add_comm]

/-! ## Sockets -/

namespace Step

/-- Whether a step has the event loop accept the socket of the connection
    under `id`. -/
def Accepts (step : Step ω ρ κ) (id : ConnId) : Prop :=
  ∃ socket interest, .registered socket interest id none ∈ step.events

/-- Whether a step ends the connection under `id`. -/
def Ends (step : Step ω ρ κ) (id : ConnId) : Prop :=
  (step.before.ctx.conn? id).isSome ∧ step.after.ctx.conn? id = none

end Step

/-- Whether the connection under `id` has been accepted by the event loop since
    it came to life. -/
def Accepted (history : List (Step ω ρ κ)) (id : ConnId) : Prop :=
  Since (fun step => step.Accepts id) (fun step => step.before.ctx.conn? id = none) history

/-- What a step that comes after a history does with sockets. -/
structure Step.Unwatches (history : List (Step ω ρ κ)) (step : Step ω ρ κ) : Prop where
  /-- Only connections that outlast an operation are ever accepted. -/
  accepts : ∀ id, step.Accepts id →
    (step.before.ctx.conn? id).isSome ∨ (step.after.ctx.conn? id).isSome
  /-- The sockets given back are those of the connections that end, and all of
      these were accepted.  A connection that never was gives nothing back. -/
  accepted : ∀ id, step.Ends id → Accepted history id
  deregistered : ∃ ended : List ConnId, ended.Nodup ∧ (∀ id, id ∈ ended ↔ step.Ends id) ∧
    step.events.filterMap Event.deregistered? = ended.filterMap step.before.ctx.socket?
  /-- First the socket is given back, then the callbacks are told, and last the
      session is torn down. -/
  ordered : ∀ id conn, step.before.ctx.conn? id = some conn → step.Ends id →
    ∃ front calls back,
      step.events = front ++ .deregistered conn.socket :: (calls ++ .tornDown conn.session :: back) ∧
      (∀ event ∈ calls, event.isResource = false) ∧
      ∀ event ∈ front ++ back, event.addressee? ≠ some id

/-- A step gives back the sockets of the connections that it ends. -/
theorem Step.unwatches {history : List (Step ω ρ κ)} {step : Step ω ρ κ} {acts : List (Act ρ κ)}
    (hcourse : Course step.operation step.answer acts)
    (hpath : Path step.before.view acts step.after.view) (hw : step.before.ctx.Orderly)
    (hv : step.before.ctx.Watched)
    (haccepted : ∀ id, (step.before.ctx.conn? id).isSome → Accepted history id) :
    step.Unwatches history where
  accepts := by
    rintro id ⟨socket, interest, hmem⟩
    rw [events_eq hpath] at hmem
    exact hcourse.live_of_registered hpath hw hv hmem
  accepted id hends := haccepted id hends.1
  deregistered := by
    refine ⟨endedBy acts, hpath.nodup_endedBy hw hcourse.apart, fun id => ?_, ?_⟩
    · exact hpath.mem_endedBy_iff hw hcourse.apart
    · rw [events_eq hpath]
      exact hpath.deregistered_eq hw hv hcourse.apart
  ordered := by
    rintro id conn hconn ⟨-, hgone⟩
    rw [events_eq hpath]
    exact hcourse.dismantles hpath hw hv (Context.held?_of_conn? hconn) hgone

/-! ## Runs -/

/-- What a history and the worker that it leads to have to do with each other,
    as to sessions and sockets. -/
structure ResourceLedger (history : List (Step ω ρ κ)) (w : Worker ω ρ κ) : Prop where
  watched : w.ctx.Watched
  kept : w.view.Kept
  accepted : ∀ id, (w.ctx.conn? id).isSome → Accepted history id
  unwatches : ∀ earlier step, earlier ++ [step] <+: history → step.Unwatches earlier

namespace ResourceLedger

variable {history : List (Step ω ρ κ)} {w : Worker ω ρ κ}

theorem fresh (configs : Registry) (env : ω) :
    ResourceLedger ([] : List (Step ω ρ κ)) (Worker.fresh configs env) where
  watched id conn hconn := by cases hconn
  kept := ⟨rfl, .refl _⟩
  accepted id hlive := by cases hlive
  unwatches earlier step h := by simp at h

/-- Each operation keeps the ledger. -/
theorem perform (h : ResourceLedger history w) (hw : w.ctx.Orderly) {operation : Operation ρ κ}
    {acts : List (Act ρ κ)} (hcourse : Course operation (Step.mk w operation).answer acts)
    (hpath : Path w.view acts (Step.mk w operation).after.view) :
    ResourceLedger (history ++ [⟨w, operation⟩]) (Step.mk w operation).after where
  watched := hpath.watched hw h.watched
  kept := hpath.kept hw h.watched h.kept
  accepted id hlive := by
    rw [Accepted, Since.append_singleton]
    cases hbefore : w.ctx.conn? id with
    | none =>
        -- it has just come to life
        obtain ⟨socket, interest, hmem⟩ := hpath.registered_of_live hw hbefore hlive
        have hevents : (Step.mk w operation).events = acts.flatMap Act.events :=
          Step.events_eq hpath
        rw [← hevents] at hmem
        exact .inl ⟨socket, interest, hmem⟩
    | some conn =>
        refine .inr ⟨h.accepted id (Option.isSome_of_eq_some hbefore), fun hnone => ?_⟩
        cases hnone
  unwatches earlier step hprefix := by
    rcases List.prefix_concat_iff.1 hprefix with heq | hprefix
    · obtain ⟨rfl, hlast⟩ := List.append_inj' heq rfl
      obtain rfl := List.singleton_inj.1 hlast
      exact Step.unwatches hcourse hpath hw h.watched h.accepted
    · exact h.unwatches earlier step hprefix

end ResourceLedger

namespace Worker

/-- Every run from a fresh context balances the ledger of sessions and
    sockets. -/
theorem resourceLedger_of_run (configs : Registry) (env : ω) (operations : List (Operation ρ κ))
    (ha : ((fresh configs env).afterAll operations).ctx.conns.slots.length ≤ 2 ^ 32) :
    ((fresh configs env).afterAll operations).ctx.Orderly ∧
      ResourceLedger ((fresh configs env).steps operations)
        ((fresh configs env).afterAll operations) :=
  run_induction (P := ResourceLedger) (Context.Orderly.fresh configs) (.fresh configs env)
    (fun _ _ _ _ hw hcourse hpath h => h.perform hw hcourse hpath) operations ha

/-- So does every run on the way. -/
theorem resourceLedger_of_split {configs : Registry} {env : ω} {operations : List (Operation ρ κ)}
    (ha : ((fresh configs env).afterAll operations).ctx.conns.slots.length ≤ 2 ^ 32)
    {earlier later : List (Step ω ρ κ)} {step : Step ω ρ κ}
    (h : (fresh configs env).steps operations = earlier ++ step :: later) :
    ResourceLedger earlier step.before := by
  obtain ⟨first, rest, rfl, rfl, hbefore, -⟩ := steps_split h
  rw [hbefore]
  rw [afterAll_append] at ha
  exact (resourceLedger_of_run configs env first
    (Nat.le_trans (slotCount_le_afterAll _ _) ha)).2

/-- After every run each session that was started is owned by one live
    connection or was torn down once; and each step of the run gave back the
    sockets of the connections that it ended. -/
theorem sessionLedger_of_run (configs : Registry) (env : ω) (operations : List (Operation ρ κ))
    (ha : ((fresh configs env).afterAll operations).ctx.conns.slots.length ≤ 2 ^ 32) :
    SessionLedger ((fresh configs env).afterAll operations) ∧
      ∀ earlier step later, (fresh configs env).steps operations = earlier ++ step :: later →
        step.Unwatches earlier := by
  obtain ⟨hw, hledger⟩ := resourceLedger_of_run configs env operations ha
  refine ⟨hledger.kept.sessionLedger hw ha, fun earlier step later heq => ?_⟩
  exact hledger.unwatches earlier step ⟨later, by rw [heq, List.append_assoc]; rfl⟩

theorem sessionLedger_of_overflowRun :
    ((fresh smallPool slowStage).afterAll overflowRun).ctx.conns.slots.length ≤ 2 ^ 32 ∧
      SessionLedger ((fresh smallPool slowStage).afterAll overflowRun) ∧
      ∀ earlier step later, (fresh smallPool slowStage).steps overflowRun =
        earlier ++ step :: later → step.Unwatches earlier :=
  have ha := by decide +kernel
  ⟨ha, sessionLedger_of_run smallPool slowStage overflowRun ha⟩

end Worker
end ConnPool
