/-
  ConnPool.Proofs.Run.StaleIds

  Ids along runs.

  Every connection has an id of its own, even one whose opening fails.  Once a
  connection is gone, its id stays stale for good, whatever becomes of its slot,
  and the operations on a stale id do nothing.

  An id would be given out again once its slot has been vacated `2 ^ 32` times;
  this is for runs that take fewer connections than that out of the arena.
-/

import ConnPool.Proofs.Run.Lending
import ConnPool.Proofs.Worker.Naming

namespace ConnPool

variable {ω ρ κ : Type} [Environment ω]

/-! ## Names -/

/-- Whether `names` are the connections that a step put into the arena, each
    with its session and its id, in order. -/
def Step.Names (step : Step ω ρ κ) (names : List (SessionNo × ConnId)) : Prop :=
  ∃ acts, Course step.operation step.answer acts ∧
    Path step.before.view acts step.after.view ∧ names = namedBy acts

/-- Whether the connection of a session was given an id in a history. -/
def Named (history : List (Step ω ρ κ)) (session : SessionNo) (id : ConnId) : Prop :=
  ∃ step ∈ history, ∃ names, step.Names names ∧ (session, id) ∈ names

/-- What a history and the worker that it leads to have to do with each other,
    as to ids. -/
structure NameLedger (history : List (Step ω ρ κ)) (w : Worker ω ρ κ) : Prop where
  watched : w.ctx.Watched
  atMostRemoved : w.ctx.conns.AtMostRemoved (removalsOf history)
  issued : ∀ session id, Named history session id → w.ctx.conns.Issued id
  nodup : ∀ names : Step ω ρ κ → List (SessionNo × ConnId),
    (∀ step ∈ history, step.Names (names step)) → ((history.flatMap names).map Prod.snd).Nodup
  started : ∀ session target, .started session target ∈ w.trace →
    (∃ id, Named history session id) ∨ ∃ reason, .nonblocking session (some reason) ∈ w.trace
  live : ∀ id session socket, w.ctx.held? id = some (session, socket) → Named history session id

theorem Named.mono {history : List (Step ω ρ κ)} {session : SessionNo} {id : ConnId}
    (h : Named history session id) (step : Step ω ρ κ) : Named (history ++ [step]) session id := by
  obtain ⟨earlier, hmem, hnames⟩ := h
  exact ⟨earlier, List.mem_append_left _ hmem, hnames⟩

namespace NameLedger

variable {history : List (Step ω ρ κ)} {w : Worker ω ρ κ}

theorem fresh (configs : Registry) (env : ω) :
    NameLedger ([] : List (Step ω ρ κ)) (Worker.fresh configs env) where
  watched id conn hconn := by cases hconn
  atMostRemoved := .empty
  issued := by
    rintro session id ⟨step, hmem, -⟩
    cases hmem
  nodup names _ := List.nodup_nil
  started session target hmem := by cases hmem
  live id session socket hheld := by cases hheld

section

variable {operation : Operation ρ κ} {names : List (SessionNo × ConnId)}

/-- The ids that an operation gives are new, and different from each other. -/
theorem names_spec (h : NameLedger history w) (hw : w.ctx.Orderly)
    (hnames : (Step.mk w operation).Names names)
    (hlt : removalsOf (history ++ [⟨w, operation⟩]) < 2 ^ 32) :
    (names.map Prod.snd).Nodup ∧ ∀ name ∈ names,
      ¬w.ctx.conns.Issued name.2 ∧ (Step.mk w operation).after.ctx.conns.Issued name.2 := by
  obtain ⟨acts, hcourse, hpath, rfl⟩ := hnames
  rw [removalsOf_append_singleton, Step.removals_eq hcourse hpath] at hlt
  exact ⟨hpath.nodup_named hw h.atMostRemoved hlt, hpath.issued_of_named hw h.atMostRemoved hlt⟩

/-- So they differ from all that were given before. -/
theorem nodup_names (h : NameLedger history w) (hw : w.ctx.Orderly)
    {names : Step ω ρ κ → List (SessionNo × ConnId)}
    (hnames : ∀ step ∈ history ++ [⟨w, operation⟩], step.Names (names step))
    (hlt : removalsOf (history ++ [⟨w, operation⟩]) < 2 ^ 32) :
    (((history ++ [Step.mk w operation]).flatMap names).map Prod.snd).Nodup := by
  obtain ⟨hearlier, hlast⟩ := List.forall_mem_append.1 hnames
  obtain ⟨hnodup, hnew⟩ := h.names_spec hw (hlast _ List.mem_cons_self) hlt
  rw [List.flatMap_append, List.map_append, List.flatMap_singleton]
  refine List.nodup_append.2 ⟨h.nodup names hearlier, hnodup, ?_⟩
  -- what was given earlier has been issued, so it is not given now
  rintro id hold other hother rfl
  obtain ⟨⟨session, _⟩, hname, rfl⟩ := List.mem_map.1 hold
  obtain ⟨name, hmem, hsame⟩ := List.mem_map.1 hother
  obtain ⟨step, hstep, hgiven⟩ := List.mem_flatMap.1 hname
  have hissued := h.issued session _ ⟨step, hstep, _, hearlier step hstep, hgiven⟩
  have hnot := (hnew name hmem).1
  rw [hsame] at hnot
  exact hnot hissued

end

/-- Each operation keeps the ledger. -/
theorem perform (h : NameLedger history w) (hw : w.ctx.Orderly) {operation : Operation ρ κ}
    {acts : List (Act ρ κ)} (hcourse : Course operation (Step.mk w operation).answer acts)
    (hpath : Path w.view acts (Step.mk w operation).after.view)
    (hlt : removalsOf (history ++ [⟨w, operation⟩]) < 2 ^ 32) :
    NameLedger (history ++ [⟨w, operation⟩]) (Step.mk w operation).after := by
  have hremovals : removalsOf (history ++ [⟨w, operation⟩]) =
      removalsOf history + removals acts := by
    rw [removalsOf_append_singleton]
    exact congrArg (removalsOf history + ·) (Step.removals_eq hcourse hpath)
  obtain ⟨hremoved, hrecycles⟩ := hpath.recycles hw h.atMostRemoved (hremovals ▸ hlt)
  have hnow : ∀ {session id}, (session, id) ∈ namedBy acts →
      Named (history ++ [⟨w, operation⟩]) session id := fun hmem =>
    ⟨_, List.mem_append_right _ List.mem_cons_self, _, ⟨acts, hcourse, hpath, rfl⟩, hmem⟩
  have htrace : (Step.mk w operation).after.trace = w.trace ++ acts.flatMap Act.events :=
    hpath.trace_eq
  constructor
  case watched => exact hpath.watched hw h.watched
  case atMostRemoved => exact hremovals ▸ hremoved
  case issued =>
    rintro session id ⟨step, hmem, names, hnames, hname⟩
    rcases List.mem_append.1 hmem with hmem | hmem
    · exact hrecycles.issued id (h.issued session id ⟨step, hmem, names, hnames, hname⟩)
    · obtain rfl := List.mem_singleton.1 hmem
      exact ((h.names_spec hw hnames hlt).2 _ hname).2
  case nodup => exact fun names hnames => h.nodup_names hw hnames hlt
  case started =>
    intro session target hmem
    rw [htrace] at hmem ⊢
    rcases List.mem_append.1 hmem with hmem | hmem
    · rcases h.started session target hmem with ⟨id, hname⟩ | ⟨reason, hrefused⟩
      · exact .inl ⟨id, hname.mono _⟩
      · exact .inr ⟨reason, List.mem_append_left _ hrefused⟩
    · rcases hpath.named_of_started hw h.watched hmem with ⟨id, hname⟩ | ⟨reason, hrefused⟩
      · exact .inl ⟨id, hnow hname⟩
      · exact .inr ⟨reason, List.mem_append_right _ hrefused⟩
  case live =>
    intro id session socket hheld
    rcases hpath.named_of_held hw hheld with hbefore | hname
    · exact (h.live id session socket hbefore).mono _
    · exact hnow hname

end NameLedger

/-! ## Stale ids -/

/-- Whatever is done with an id, nothing comes of it: no operation changes the
    context or the environment, or does anything to the outside but log. -/
structure Worker.Inert (w : Worker ω ρ κ) (id : ConnId) : Prop where
  advance : ∀ event,
    w.perform (.advance id event) = (.state none, w.log (.staleReadiness id event))
  disconnect : ∀ onDisconnect,
    w.perform (.disconnect id onDisconnect) = (.status (.error (.unknownConnection id)), w)
  reclaim : w.perform (.reclaim id) = (.status (.error (.unknownConnection id)), w)
  session : ∀ call, w.perform (.session id call) = (.session none, w)
  state? : w.ctx.state? id = none
  socket? : w.ctx.socket? id = none
  lastPoll? : w.ctx.lastPoll? id = none
  isPooled : w.ctx.isPooled id = false

namespace Worker

theorem inert_of_not_live {w : Worker ω ρ κ} {id : ConnId} (h : w.ctx.conn? id = none) :
    w.Inert id := by
  constructor
  case advance =>
    intro event
    simp only [perform, Worker.advance, h]
  case disconnect =>
    intro onDisconnect
    simp only [perform, Worker.disconnect, h]
  case reclaim => simp only [perform, Worker.reclaim, h]
  case session =>
    intro call
    simp only [perform, h]
  case state? => rw [Context.state?, h, Option.map_none]
  case socket? => rw [Context.socket?, h, Option.map_none]
  case lastPoll? => rw [Context.lastPoll?, h, Option.bind_none]
  case isPooled => rw [Context.isPooled, h, Option.any_none]

/-- Along runs issued ids stay issued and do not come back. -/
theorem recycles_of_run {w : Worker ω ρ κ} (hw : w.ctx.Orderly) {n : Nat}
    (hn : w.ctx.conns.AtMostRemoved n) (operations : List (Operation ρ κ))
    (ha : (w.afterAll operations).ctx.conns.slots.length ≤ 2 ^ 32)
    (hlt : n + removalsOf (w.steps operations) < 2 ^ 32) :
    w.view.Recycles (w.afterAll operations).view := by
  have hrun := run_induction (w := w) (P := fun history w' =>
    n + removalsOf history < 2 ^ 32 →
      w'.ctx.conns.AtMostRemoved (n + removalsOf history) ∧ w.view.Recycles w'.view)
    hw (fun _ => ⟨hn, .refl _⟩) ?_ operations ha
  · exact (hrun.2 hlt).2
  · intro history w' operation acts hw' hcourse hpath h hlt
    have hremovals : (Step.mk w' operation).removals = removals acts :=
      Step.removals_eq hcourse hpath
    rw [removalsOf_append_singleton, hremovals, ← Nat.add_assoc] at hlt ⊢
    obtain ⟨hremoved, hbefore⟩ := h (by omega)
    obtain ⟨hremoved', hstep⟩ := hpath.recycles hw' hremoved hlt
    exact ⟨hremoved', hbefore.trans hstep⟩

theorem nameLedger_of_run (configs : Registry) (env : ω) (operations : List (Operation ρ κ))
    (ha : ((fresh configs env).afterAll operations).ctx.conns.slots.length ≤ 2 ^ 32)
    (hremovals : removalsOf ((fresh configs env).steps operations) < 2 ^ 32) :
    ((fresh configs env).afterAll operations).ctx.Orderly ∧
      NameLedger ((fresh configs env).steps operations)
        ((fresh configs env).afterAll operations) := by
  have hrun := run_induction
    (P := fun history w => removalsOf history < 2 ^ 32 → NameLedger history w)
    (Context.Orderly.fresh configs : (fresh configs env : Worker ω ρ κ).ctx.Orderly)
    (fun _ => .fresh configs env) ?_ operations ha
  · exact ⟨hrun.1, hrun.2 hremovals⟩
  · intro history w operation acts hw hcourse hpath h hlt
    refine (h ?_).perform hw hcourse hpath hlt
    rw [removalsOf_append_singleton] at hlt
    omega

/-- In every run each session that gets a connection has an id of its own, and
    an id that was given to a connection that is gone is inert ever after. -/
theorem staleIds_of_run (configs : Registry) (env : ω) (operations : List (Operation ρ κ))
    (ha : ((fresh configs env).afterAll operations).ctx.conns.slots.length ≤ 2 ^ 32)
    (hremovals : removalsOf ((fresh configs env).steps operations) < 2 ^ 32) :
    (∀ step ∈ (fresh configs env).steps operations, ∃ names, step.Names names) ∧
    (∀ names : Step ω ρ κ → List (SessionNo × ConnId),
      (∀ step ∈ (fresh configs env).steps operations, step.Names (names step)) →
        ((((fresh configs env).steps operations).flatMap names).map Prod.snd).Nodup) ∧
    (∀ session target, .started session target ∈ ((fresh configs env).afterAll operations).trace →
      (∃ id, Named ((fresh configs env).steps operations) session id) ∨
        ∃ reason, .nonblocking session (some reason) ∈
          ((fresh configs env).afterAll operations).trace) ∧
    (∀ id conn, ((fresh configs env).afterAll operations).ctx.conn? id = some conn →
      Named ((fresh configs env).steps operations) conn.session id) ∧
    ∀ first rest, operations = first ++ rest → ∀ session id,
      Named ((fresh configs env).steps first) session id →
        ((fresh configs env).afterAll first).ctx.conn? id = none →
          ((fresh configs env).afterAll operations).Inert id := by
  obtain ⟨-, hledger⟩ := nameLedger_of_run configs env operations ha hremovals
  refine ⟨fun step hmem => ?_, hledger.nodup, hledger.started, fun id conn hconn => ?_, ?_⟩
  · obtain ⟨-, acts, hcourse, hpath⟩ :=
      course_of_mem_steps (Context.Orderly.fresh configs) operations ha step hmem
    exact ⟨namedBy acts, acts, hcourse, hpath, rfl⟩
  · exact hledger.live id conn.session conn.socket (Context.held?_of_conn? hconn)
  · rintro first rest rfl session id hnamed hgone
    rw [steps_append, removalsOf, List.map_append, List.sum_append] at hremovals
    rw [afterAll_append] at ha ⊢
    have hfirst : removalsOf ((fresh configs env).steps first) < 2 ^ 32 :=
      Nat.lt_of_le_of_lt (Nat.le_add_right _ _) hremovals
    obtain ⟨hw, hledger⟩ := nameLedger_of_run configs env first
      (Nat.le_trans (slotCount_le_afterAll _ rest) ha) hfirst
    -- issued and gone, the id does not come back
    have hrecycles := recycles_of_run hw hledger.atMostRemoved rest ha hremovals
    refine inert_of_not_live (Option.not_isSome_iff_eq_none.1 fun hlive => ?_)
    have hback := hrecycles.live id (hledger.issued session id hnamed) hlive
    rw [ctx_view, hgone] at hback
    cases hback

/-- A connection is given up, and another one gets its slot. -/
def reuseRun : List (Operation String String) :=
  [.connectUri none none "u", .advance ⟨0, 0⟩ .timeout, .connectUri none none "v"]

theorem staleIds_of_reuseRun :
    ((fresh .empty slowStage).afterAll reuseRun).ctx.conns.slots.length ≤ 2 ^ 32 ∧
      removalsOf ((fresh .empty slowStage).steps reuseRun) < 2 ^ 32 ∧
      (((fresh .empty slowStage).afterAll reuseRun).ctx.conn? ⟨0, 1⟩).isSome ∧
      ((fresh .empty slowStage).afterAll reuseRun).Inert ⟨0, 0⟩ := by
  have ha : ((fresh .empty slowStage).afterAll reuseRun).ctx.conns.slots.length ≤ 2 ^ 32 := by
    decide +kernel
  have hremovals : removalsOf ((fresh .empty slowStage).steps reuseRun) < 2 ^ 32 := by
    decide +kernel
  refine ⟨ha, hremovals, by decide +kernel, ?_⟩
  obtain ⟨-, -, -, -, hinert⟩ := staleIds_of_run .empty slowStage reuseRun ha hremovals
  -- the first connection was live after the first operation, hence named by it
  obtain ⟨-, -, -, hlive, -⟩ := staleIds_of_run .empty slowStage (reuseRun.take 1)
    (by decide +kernel) (by decide +kernel)
  have hopened : (((fresh .empty slowStage).afterAll (reuseRun.take 1)).ctx.conn? ⟨0, 0⟩).isSome :=
    by decide +kernel
  obtain ⟨conn, hconn⟩ := Option.isSome_iff_exists.1 hopened
  exact hinert (reuseRun.take 2) (reuseRun.drop 2) rfl conn.session ⟨0, 0⟩
    ((hlive _ conn hconn).mono _) (by decide +kernel)

end Worker
end ConnPool
