/-
  ConnPool.Proofs.Run.ConnectCallbacks

  What becomes of connect callbacks.

  A connect callback can be called once, so each is handed over once.  From
  then on it is kept by one connection, which is still in its handshake, or it
  was called once, or it was discarded, and there are three reasons for that.
  It is told of a success only when its connection is there to be used, and of
  a failure only when its connection goes.
-/

import ConnPool.Proofs.Run.Callbacks
import ConnPool.Proofs.Run.Membership
import ConnPool.Proofs.Worker.Calling

namespace ConnPool

variable {ω ρ κ : Type}

/-- Whether a connect callback is kept by one live connection, which is in its
    handshake. -/
def Context.KeepsConnect (ctx : Context ρ κ) (callback : κ) : Prop :=
  ∃ id conn, ctx.conn? id = some conn ∧ conn.state = .connecting ∧
    conn.onConnect = some callback ∧
      ∀ other conn', ctx.conn? other = some conn' → conn'.onConnect = some callback → other = id

/-- Whether no live connection keeps a connect callback. -/
def Context.FreeOfConnect (ctx : Context ρ κ) (callback : κ) : Prop :=
  ∀ id conn, ctx.conn? id = some conn → conn.onConnect ≠ some callback

variable [Environment ω]

/-- Why a step discards a connect callback, after the steps `earlier`. -/
inductive Step.DiscardsConnect (earlier : List (Step ω ρ κ)) (step : Step ω ρ κ) (callback : κ) :
    Prop
  /-- The opening that it came with was refused. -/
  | refused (honConnect : step.operation.onConnect? = some callback)
      (hrefusal : step.answer.isRefusal = true)
  /-- Its connection was taken back during the handshake. -/
  | reclaimed (id : ConnId) (conn : Connection ρ κ) (hconn : step.before.ctx.conn? id = some conn)
      (hstate : conn.state = .connecting) (hkeeps : conn.onConnect = some callback)
      (hreclaim : step.operation = .reclaim id) (hanswer : step.answer = .status (.ok ()))
  /-- A disconnect was recorded, and then the handshake succeeded. -/
  | overtaken (id : ConnId) (conn : Connection ρ κ) (event : Readiness)
      (hconn : step.before.ctx.conn? id = some conn) (hstate : conn.state = .connecting)
      (hkeeps : conn.onConnect = some callback) (hpending : conn.disconnectPending = true)
      (hrecorded : ∃ other ∈ earlier, other.Disconnects id conn.onDisconnect)
      (hadvance : step.operation = .advance id event)
      (hpolled : .polled conn.session .ok ∈ step.events)

/-- Whether a history discarded a connect callback. -/
def ConnectDiscarded (history : List (Step ω ρ κ)) (callback : κ) : Prop :=
  ∃ earlier step later, history = earlier ++ step :: later ∧ step.DiscardsConnect earlier callback

/-- What a call of a connect callback in a step says of the connection under
    `id`. -/
structure Step.TellsConnect (step : Step ω ρ κ) (callback : κ) (id : ConnId) (status : Status) :
    Prop where
  /-- The callback came with the step, or the connection kept it. -/
  source : (step.operation.onConnect? = some callback ∧
      (status = .ok () → step.answer = .opened (.ok id))) ∨
    ∃ conn, step.before.ctx.conn? id = some conn ∧ conn.onConnect = some callback
  connected : status = .ok () →
    ∃ conn, step.after.ctx.conn? id = some conn ∧ conn.state = .connected
  /-- Its session, which the step started if not the connection was there
      before, is torn down. -/
  ended : status ≠ .ok () → step.after.ctx.conn? id = none ∧
    ∃ session, .tornDown session ∈ step.events ∧
      (step.before.started ≤ session ∨
        ∃ conn, step.before.ctx.conn? id = some conn ∧ conn.session = session)

namespace Step

variable {earlier : List (Step ω ρ κ)} {step : Step ω ρ κ} {callback : κ}

theorem DiscardsConnect.discards (h : step.DiscardsConnect earlier callback) :
    step.Discards .connect callback := by
  cases h with
  | refused honConnect hrefusal => exact .inl ⟨rfl, honConnect, hrefusal⟩
  | reclaimed id conn hconn hstate hkeeps hreclaim hanswer =>
      refine .inr ⟨id, conn, hconn, hstate, hkeeps, ?_⟩
      rw [hreclaim, hanswer]
      exact .reclaimed .connect
  | overtaken id conn event hconn hstate hkeeps hpending hrecorded hadvance hpolled =>
      refine .inr ⟨id, conn, hconn, hstate, hkeeps, ?_⟩
      rw [hadvance]
      exact .overtaken event step.answer hpending hpolled

theorem Discards.discardsConnect [DecidableEq κ] (h : step.Discards .connect callback)
    (hledger : CallbackLedger earlier step.before) : step.DiscardsConnect earlier callback := by
  rcases h with ⟨-, honConnect, hrefusal⟩ | ⟨id, conn, hconn, hstate, hkeeps, hdrops⟩
  · exact .refused honConnect hrefusal
  · -- the disconnect that overtook it waited, so the ledger has its record
    generalize hoperation : step.operation = operation at hdrops
    generalize hanswer : step.answer = answer at hdrops
    cases hdrops with
    | reclaimed _ => exact .reclaimed id conn hconn hstate hkeeps hoperation hanswer
    | overtaken event _ hpending hpolled =>
        exact .overtaken id conn event hconn hstate hkeeps hpending
          (hledger.recorded id conn hconn hpending) hoperation hpolled

/-- A step calls connect callbacks as it should. -/
theorem tellsConnect {acts : List (Act ρ κ)} (hw : step.before.ctx.Orderly)
    (hcourse : Course step.operation step.answer acts)
    (hpath : Path step.before.view acts step.after.view) {id : ConnId} {status : Status}
    {request : Option ρ} (hmem : .connectCalled callback id status request ∈ step.events) :
    step.TellsConnect callback id status := by
  rw [events_eq hpath] at hmem
  constructor
  case source => exact hcourse.source_of_called hpath hw hmem
  case connected =>
    rintro rfl
    exact hcourse.connected_of_called hpath hw hmem
  case ended =>
    intro hne
    cases status with
    | ok _ => exact absurd rfl hne
    | error error =>
        rw [events_eq hpath]
        exact hcourse.ended_of_called hpath hw hmem

end Step

section

variable [DecidableEq κ] {ctx : Context ρ κ} {callback : κ}

theorem Context.freeOfConnect_of_holds (ha : ctx.conns.Addressable)
    (h : ctx.holds .connect callback = 0) : ctx.FreeOfConnect callback := by
  intro id conn hconn hkeeps
  have hpos := (holds_pos_iff .connect callback ha).2 ⟨id, conn, hconn, hkeeps⟩
  omega

theorem Context.keepsConnect_of_holds (ha : ctx.conns.Addressable) (hc : ctx.Coherent)
    (h : ctx.holds .connect callback = 1) : ctx.KeepsConnect callback := by
  obtain ⟨id, conn, hconn, hkeeps⟩ :=
    (holds_pos_iff .connect callback ha).1 (by rw [h]; exact Nat.one_pos)
  refine ⟨id, conn, hconn, (hc id conn hconn).connecting_of_hung .connect hkeeps, hkeeps, ?_⟩
  intro other conn' hother hkeeps'
  exact eq_of_holds_le_one .connect callback ha (Nat.le_of_eq h) hconn hkeeps hother hkeeps'

end

/-! ## Runs -/

/-- How often a connect callback was called. -/
def Worker.connectCalls [DecidableEq κ] (w : Worker ω ρ κ) (callback : κ) : Nat :=
  w.trace.countP (Event.calls .connect callback)

/-- What a history and the worker that it leads to say of connect callbacks. -/
structure ConnectLedger [DecidableEq κ] (history : List (Step ω ρ κ)) (w : Worker ω ρ κ) :
    Prop where
  balanced : ∀ callback, handedIn .connect callback history =
    w.ctx.holds .connect callback + w.connectCalls callback +
      discardedIn .connect callback history
  kept : ∀ id conn, w.ctx.conn? id = some conn → conn.onConnect ≠ none → conn.state = .connecting
  discarded : ∀ earlier step later, history = earlier ++ step :: later →
    ∀ callback, step.Discards .connect callback → step.DiscardsConnect earlier callback
  /-- A callback that was handed over once is kept, or was called once, or was
      discarded. -/
  settled : ∀ callback, handedIn .connect callback history = 1 →
    (w.ctx.KeepsConnect callback ∧ w.connectCalls callback = 0 ∧
        ¬ConnectDiscarded history callback) ∨
      (w.ctx.FreeOfConnect callback ∧ w.connectCalls callback = 1 ∧
        ¬ConnectDiscarded history callback) ∨
      (w.ctx.FreeOfConnect callback ∧ w.connectCalls callback = 0 ∧
        ConnectDiscarded history callback)
  told : ∀ step ∈ history, ∀ callback id status request,
    .connectCalled callback id status request ∈ step.events → step.TellsConnect callback id status

namespace Worker

theorem connectDiscarded_iff [DecidableEq κ] {configs : Registry} {env : ω}
    {operations : List (Operation ρ κ)}
    (ha : ((fresh configs env).afterAll operations).ctx.conns.slots.length ≤ 2 ^ 32)
    (callback : κ) :
    ConnectDiscarded ((fresh configs env).steps operations) callback ↔
      0 < discardedIn .connect callback ((fresh configs env).steps operations) := by
  rw [discardedIn_pos_iff]
  constructor
  · rintro ⟨earlier, step, later, heq, hdiscards⟩
    refine ⟨step, ?_, hdiscards.discards⟩
    rw [heq]
    exact List.mem_append_right _ List.mem_cons_self
  · rintro ⟨step, hmem, hdiscards⟩
    obtain ⟨earlier, later, heq⟩ := List.append_of_mem hmem
    exact ⟨earlier, step, later, heq, hdiscards.discardsConnect (callbackLedger_of_split ha heq)⟩

/-- What becomes of the connect callbacks of a run: each one that was handed
    over once is kept, called once or discarded, and what is called is called
    in time. -/
theorem connectLedger_of_run [DecidableEq κ] (configs : Registry) (env : ω)
    (operations : List (Operation ρ κ))
    (ha : ((fresh configs env).afterAll operations).ctx.conns.slots.length ≤ 2 ^ 32) :
    ConnectLedger ((fresh configs env).steps operations)
      ((fresh configs env).afterAll operations) := by
  obtain ⟨hw, hledger⟩ := callbackLedger_of_run configs env operations ha
  constructor
  case balanced => exact hledger.balanced .connect
  case kept =>
    intro id conn hconn hkeeps
    obtain ⟨callback, hcallback⟩ := Option.ne_none_iff_exists'.1 hkeeps
    exact (hledger.coherent id conn hconn).connecting_of_hung .connect hcallback
  case discarded =>
    intro earlier step later heq callback hdiscards
    exact hdiscards.discardsConnect (callbackLedger_of_split ha heq)
  case settled =>
    intro callback honce
    have hbalanced := hledger.balanced .connect callback
    have hdiscarded := connectDiscarded_iff ha callback
    rw [honce] at hbalanced
    show (_ ∧ List.countP _ _ = 0 ∧ _) ∨ (_ ∧ List.countP _ _ = 1 ∧ _) ∨
      (_ ∧ List.countP _ _ = 0 ∧ _)
    -- one is the sum of three numbers in three ways
    have hcases : ∀ held called discarded : Nat, 1 = held + called + discarded →
        (held = 1 ∧ called = 0 ∧ discarded = 0) ∨ (held = 0 ∧ called = 1 ∧ discarded = 0) ∨
          (held = 0 ∧ called = 0 ∧ discarded = 1) := by
      omega
    rcases hcases _ _ _ hbalanced with ⟨hheld, hcalled, hnone⟩ | ⟨hheld, hcalled, hnone⟩ |
      ⟨hheld, hcalled, hone⟩
    · refine .inl ⟨Context.keepsConnect_of_holds ha hledger.coherent hheld, hcalled, ?_⟩
      rw [hdiscarded, hnone]
      exact Nat.lt_irrefl 0
    · refine .inr (.inl ⟨Context.freeOfConnect_of_holds ha hheld, hcalled, ?_⟩)
      rw [hdiscarded, hnone]
      exact Nat.lt_irrefl 0
    · refine .inr (.inr ⟨Context.freeOfConnect_of_holds ha hheld, hcalled, ?_⟩)
      rw [hdiscarded, hone]
      exact Nat.one_pos
  case told =>
    intro step hmem callback id status request hcalled
    obtain ⟨hw, acts, hcourse, hpath⟩ :=
      course_of_mem_steps (Context.Orderly.fresh configs) operations ha step hmem
    exact Step.tellsConnect hw hcourse hpath hcalled

theorem connectLedger_of_overflowRun :
    ((fresh smallPool slowStage).afterAll overflowRun).ctx.conns.slots.length ≤ 2 ^ 32 ∧
      handedIn .connect "first" ((fresh smallPool slowStage).steps overflowRun) = 1 ∧
      ConnectLedger ((fresh smallPool slowStage).steps overflowRun)
        ((fresh smallPool slowStage).afterAll overflowRun) :=
  have ha := by decide +kernel
  ⟨ha, by decide +kernel, connectLedger_of_run smallPool slowStage overflowRun ha⟩

end Worker
end ConnPool
