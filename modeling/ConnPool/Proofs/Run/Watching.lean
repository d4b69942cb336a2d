/-
  ConnPool.Proofs.Run.Watching

  What the event loop watches along runs.

  As long as live connections have different sockets, the event loop watches
  the sockets of the live connections and no others, each for what the latest
  handshake step asked for, whichever registrations it refuses.
-/

import ConnPool.Proofs.Context.Census
import ConnPool.Proofs.Run.Membership
import ConnPool.Proofs.Worker.Watching

namespace ConnPool

variable {ω ρ κ : Type} [Environment ω]

/-- The sockets of all live connections, in slot order. -/
def Context.sockets (ctx : Context ρ κ) : List Int :=
  ctx.conns.entries.map fun entry => entry.2.socket

theorem Context.socketsDiffer_of_nodup {ctx : Context ρ κ} (ha : ctx.conns.Addressable)
    (h : ctx.sockets.Nodup) : ctx.SocketsDiffer := by
  intro id other socket hid hother
  obtain ⟨conn, hconn, rfl⟩ := Option.map_eq_some_iff.1 hid
  obtain ⟨conn', hconn', hsocket⟩ := Option.map_eq_some_iff.1 hother
  exact eq_of_nodup_entries ha h hconn' hconn hsocket.symm

namespace Worker

/-- What the event loop watches, by what it was told. -/
def watches (w : Worker ω ρ κ) : WatchTable :=
  WatchTable.empty.replay w.trace

/-- Along runs the table follows the live connections. -/
theorem mirrors_of_run (configs : Registry) (env : ω) (operations : List (Operation ρ κ))
    (ha : ((fresh configs env).afterAll operations).ctx.conns.slots.length ≤ 2 ^ 32)
    (hdiffer : ∀ step ∈ (fresh configs env).steps operations, step.after.ctx.SocketsDiffer) :
    ((fresh configs env).afterAll operations).ctx.Watched ∧
      ((fresh configs env).afterAll operations).watches.Mirrors
        ((fresh configs env).afterAll operations).ctx := by
  have hrun := run_induction (w := fresh configs env)
    (P := fun history w => w.ctx.Watched ∧
      ((∀ step ∈ history, step.after.ctx.SocketsDiffer) →
        w.ctx.SocketsDiffer ∧ w.watches.Mirrors w.ctx))
    (Context.Orderly.fresh configs) ?_ ?_ operations ha
  · exact ⟨hrun.2.1, (hrun.2.2 hdiffer).2⟩
  · -- in the beginning nothing is live and nothing is watched
    refine ⟨fun id conn hconn => ?_, fun _ => ⟨fun id other socket hid => ?_, ?_⟩⟩
    · cases hconn
    · cases hid
    · intro socket interest id
      exact iff_of_false (by rintro ⟨⟩) (by rintro ⟨⟩)
  · rintro history w operation acts hw hcourse hpath ⟨hwatched, hmirrors⟩
    refine ⟨hpath.watched hw hwatched, fun hall => ?_⟩
    obtain ⟨hearlier, hlast⟩ := List.forall_mem_append.1 hall
    obtain ⟨hbefore, hsame⟩ := hmirrors hearlier
    have hafter := hlast _ List.mem_cons_self
    have htrace : (Step.mk w operation).after.trace = w.trace ++ acts.flatMap Act.events :=
      hpath.trace_eq
    refine ⟨hafter, ?_⟩
    rw [watches, htrace, WatchTable.replay_append]
    exact hcourse.mirrors hpath hw hwatched hbefore hafter hsame

/-- Along runs the table has no entry of a connection that is gone, whichever
    sockets agree. -/
theorem current_of_run (configs : Registry) (env : ω) (operations : List (Operation ρ κ))
    (ha : ((fresh configs env).afterAll operations).ctx.conns.slots.length ≤ 2 ^ 32) :
    ((fresh configs env).afterAll operations).watches.Current
      ((fresh configs env).afterAll operations).ctx := by
  have hrun := run_induction (w := fresh configs env)
    (P := fun _ w => w.ctx.Watched ∧ w.watches.Current w.ctx)
    (Context.Orderly.fresh configs) ?_ ?_ operations ha
  · exact hrun.2.2
  · refine ⟨fun id conn hconn => ?_, fun socket interest id hentry => ?_⟩
    · cases hconn
    · cases hentry
  · rintro history w operation acts hw - hpath ⟨hwatched, hcurrent⟩
    have htrace : (Step.mk w operation).after.trace = w.trace ++ acts.flatMap Act.events :=
      hpath.trace_eq
    refine ⟨hpath.watched hw hwatched, ?_⟩
    rw [watches, htrace, WatchTable.replay_append]
    exact hpath.current hw hwatched hcurrent

/-- After every run in the course of which live connections have different
    sockets, the event loop watches what it should: the socket of each live
    connection, for reading or writing as the latest poll asked, and for errors
    only once the handshake is complete. -/
theorem watches_of_run (configs : Registry) (env : ω) (operations : List (Operation ρ κ))
    (ha : ((fresh configs env).afterAll operations).ctx.conns.slots.length ≤ 2 ^ 32)
    (hsockets : ∀ step ∈ (fresh configs env).steps operations, step.after.ctx.sockets.Nodup) :
    (∀ socket interest id, ((fresh configs env).afterAll operations).watches socket =
        some (interest, id) ↔
      ∃ conn, ((fresh configs env).afterAll operations).ctx.conn? id = some conn ∧
        conn.socket = socket ∧ conn.interest = interest) ∧
    ∀ id conn, ((fresh configs env).afterAll operations).ctx.conn? id = some conn →
      (conn.state = .connecting ∧
        (conn.lastPoll = some .reading ∨ conn.lastPoll = some .writing)) ∨
      (conn.state = .connected ∧ conn.lastPoll = some .ok) := by
  have hdiffer : ∀ step ∈ (fresh configs env).steps operations, step.after.ctx.SocketsDiffer :=
    fun step hmem => Context.socketsDiffer_of_nodup (addressable_of_mem_steps ha hmem)
      (hsockets step hmem)
  obtain ⟨hwatched, hmirrors⟩ := mirrors_of_run configs env operations ha hdiffer
  constructor
  · intro socket interest id
    rw [hmirrors, Context.watch?, Option.map_eq_some_iff]
    simp only [Prod.mk.injEq]
  · intro id conn hconn
    obtain ⟨poll, hpoll, hlast, hstate⟩ := (hwatched id conn hconn).polled
    rw [hlast, hstate]
    cases poll with
    | failed => exact absurd rfl hpoll
    | ok => exact .inr ⟨rfl, rfl⟩
    | reading => exact .inl ⟨rfl, .inl rfl⟩
    | writing => exact .inl ⟨rfl, .inr rfl⟩

theorem watches_of_overflowRun :
    ((fresh smallPool slowStage).afterAll overflowRun).ctx.conns.slots.length ≤ 2 ^ 32 ∧
      (∀ step ∈ (fresh smallPool slowStage).steps overflowRun, step.after.ctx.sockets.Nodup) ∧
      ∀ socket interest id, ((fresh smallPool slowStage).afterAll overflowRun).watches socket =
          some (interest, id) ↔
        ∃ conn, ((fresh smallPool slowStage).afterAll overflowRun).ctx.conn? id = some conn ∧
          conn.socket = socket ∧ conn.interest = interest :=
  have ha := by decide +kernel
  have hsockets := by decide +kernel
  ⟨ha, hsockets, (watches_of_run smallPool slowStage overflowRun ha hsockets).1⟩

end Worker
end ConnPool
