/-
  ConnPool.Proofs.Worker.View

  A worker without its environment.

  Nothing is assumed about an environment, so what there is to say about a
  worker is said about its view: the context, the number of sessions started,
  the trace, and what was missed.  What a worker does adds events at the end of
  the trace (`tell`) or changes the context (`withCtx`), as long as it misses
  nothing; here is what each primitive does to the view.
-/

import ConnPool.Worker.Operation

namespace ConnPool

/-- What an execution context holds and has done. -/
@[ext] structure View (ρ κ : Type) where
  ctx : Context ρ κ
  started : Nat
  trace : List (Event ρ κ)
  missed : List PoolError

namespace View

variable {ρ κ : Type}

/-- Adds events at the end of the trace. -/
def tell (v : View ρ κ) (events : List (Event ρ κ)) : View ρ κ :=
  { v with trace := v.trace ++ events }

/-- Changes the context. -/
def withCtx (v : View ρ κ) (f : Context ρ κ → Context ρ κ) : View ρ κ :=
  { v with ctx := f v.ctx }

@[simp] theorem tell_nil (v : View ρ κ) : v.tell [] = v := by
  rw [tell, List.append_nil]

@[simp] theorem tell_tell (v : View ρ κ) (first second : List (Event ρ κ)) :
    (v.tell first).tell second = v.tell (first ++ second) := by
  simp only [tell, List.append_assoc]

@[simp] theorem withCtx_tell (v : View ρ κ) (events : List (Event ρ κ))
    (f : Context ρ κ → Context ρ κ) : (v.tell events).withCtx f = (v.withCtx f).tell events := rfl

@[simp] theorem ctx_tell (v : View ρ κ) (events : List (Event ρ κ)) :
    (v.tell events).ctx = v.ctx := rfl

@[simp] theorem started_tell (v : View ρ κ) (events : List (Event ρ κ)) :
    (v.tell events).started = v.started := rfl

@[simp] theorem trace_tell (v : View ρ κ) (events : List (Event ρ κ)) :
    (v.tell events).trace = v.trace ++ events := rfl

@[simp] theorem missed_tell (v : View ρ κ) (events : List (Event ρ κ)) :
    (v.tell events).missed = v.missed := rfl

@[simp] theorem ctx_withCtx (v : View ρ κ) (f : Context ρ κ → Context ρ κ) :
    (v.withCtx f).ctx = f v.ctx := rfl

@[simp] theorem started_withCtx (v : View ρ κ) (f : Context ρ κ → Context ρ κ) :
    (v.withCtx f).started = v.started := rfl

@[simp] theorem trace_withCtx (v : View ρ κ) (f : Context ρ κ → Context ρ κ) :
    (v.withCtx f).trace = v.trace := rfl

@[simp] theorem missed_withCtx (v : View ρ κ) (f : Context ρ κ → Context ρ κ) :
    (v.withCtx f).missed = v.missed := rfl

end View

namespace Worker

variable {ω ρ κ : Type}

/-- The worker without its environment. -/
def view (w : Worker ω ρ κ) : View ρ κ := ⟨w.ctx, w.started, w.trace, w.missed⟩

@[simp] theorem ctx_view (w : Worker ω ρ κ) : w.view.ctx = w.ctx := rfl

@[simp] theorem started_view (w : Worker ω ρ κ) : w.view.started = w.started := rfl

@[simp] theorem trace_view (w : Worker ω ρ κ) : w.view.trace = w.trace := rfl

@[simp] theorem missed_view (w : Worker ω ρ κ) : w.view.missed = w.missed := rfl

/-- The context of a worker whose view is known. -/
theorem ctx_of_view {w : Worker ω ρ κ} {v : View ρ κ} (h : w.view = v) : w.ctx = v.ctx :=
  congrArg View.ctx h

/-! ## Bookkeeping -/

@[simp] theorem view_emit (w : Worker ω ρ κ) (event : Event ρ κ) :
    (w.emit event).view = w.view.tell [event] := rfl

@[simp] theorem view_log (w : Worker ω ρ κ) (record : LogRecord) :
    (w.log record).view = w.view.tell [.logged record] := rfl

@[simp] theorem view_logAll (w : Worker ω ρ κ) (records : List LogRecord) :
    (w.logAll records).view = w.view.tell (records.map .logged) := by
  rw [logAll]
  induction records generalizing w with
  | nil => simp
  | cons record rest ih =>
      rw [List.foldl_cons, ih, view_log, View.tell_tell]
      rfl

@[simp] theorem ctx_miss (w : Worker ω ρ κ) (error : PoolError) : (w.miss error).ctx = w.ctx := rfl

@[simp] theorem view_withCtx (w : Worker ω ρ κ) (f : Context ρ κ → Context ρ κ) :
    (w.withCtx f).view = w.view.withCtx f := rfl

@[simp] theorem view_modifyConn (w : Worker ω ρ κ) (id : ConnId)
    (f : Connection ρ κ → Connection ρ κ) :
    (w.modifyConn id f).view = w.view.withCtx (·.modifyConn id f) := rfl

@[simp] theorem view_modifyPool (w : Worker ω ρ κ) (key : PoolKey) (f : Pool → Pool) :
    (w.modifyPool key f).view = w.view.withCtx (·.modifyPool key f) := rfl

theorem fst_addConn (w : Worker ω ρ κ) (conn : Connection ρ κ) :
    (w.addConn conn).1 = (w.ctx.conns.insert conn).1 := rfl

@[simp] theorem view_addConn (w : Worker ω ρ κ) (conn : Connection ρ κ) :
    (w.addConn conn).2.view =
      w.view.withCtx fun ctx => { ctx with conns := (ctx.conns.insert conn).2 } := rfl

/-! ## Looking pools up -/

/-- A pool that exists is found as it is. -/
theorem poolAt_of_get? {w : Worker ω ρ κ} {key : PoolKey} {pool : Pool}
    (h : w.ctx.pools.get? key = some pool) : w.poolAt key = (.ok pool, w) := by
  have hensured : w.ensurePool key = (.ok (), w) := by
    rw [ensurePool, KeyMap.contains, h]
    rfl
  rw [poolAt, hensured]
  simp only [h]

/-- A registered pool that does not exist yet is created empty. -/
theorem poolAt_of_none {w : Worker ω ρ κ} {key : PoolKey} {config : PoolConfig}
    (hnone : w.ctx.pools.get? key = none) (hconfig : w.ctx.configs.get? key = some config) :
    w.poolAt key = (.ok { config },
      (w.log (.poolCreated key config.minSize config.maxSize)).withCtx fun ctx =>
        { ctx with pools := ctx.pools.insert key { config } }) := by
  have hget : ((w.log (.poolCreated key config.minSize config.maxSize)).withCtx fun ctx =>
      { ctx with pools := ctx.pools.insert key { config } }).ctx.pools.get? key =
        some { config } := KeyMap.get?_insert_self w.ctx.pools key { config }
  rw [poolAt, ensurePool, KeyMap.contains, hnone, hconfig]
  simp only [Option.isSome_none, Bool.false_eq_true, if_false, hget]

/-- A pool that is neither there nor registered is missed by the caller alone. -/
theorem poolAt_of_unregistered {w : Worker ω ρ κ} {key : PoolKey}
    (hnone : w.ctx.pools.get? key = none) (hconfig : w.ctx.configs.get? key = none) :
    w.poolAt key = (.error (.configurationNotFound key), w) := by
  rw [poolAt, ensurePool, KeyMap.contains, hnone, hconfig]
  rfl

/-! ## Questions to the environment -/

@[simp] theorem view_ask {α : Type} (w : Worker ω ρ κ) (question : StateM ω α) :
    (w.ask question).2.view = w.view := rfl

variable [Environment ω]

/-- A session that is started gets the next number. -/
theorem view_startSession (w : Worker ω ρ κ) (target : Target) :
    ((w.startSession target).1 = some w.started ∧
      (w.startSession target).2.view =
        { w.view with started := w.started + 1 }.tell [.started w.started target]) ∨
    ((w.startSession target).1 = none ∧
      ∃ records : List LogRecord, (w.startSession target).2.view =
        w.view.tell (.startRefused target :: records.map .logged)) := by
  rw [startSession]
  rcases hask : w.ask (Environment.start target w.started) with ⟨answer, w₁⟩
  have hview : w₁.view = w.view := by
    rw [← view_ask w (Environment.start target w.started), hask]
  have hstarted : w₁.started = w.started := congrArg View.started hview
  cases answer with
  | started =>
      refine .inl ⟨congrArg some hstarted, ?_⟩
      rw [← hview]
      simp only [hstarted]
      rfl
  | refused records =>
      refine .inr ⟨rfl, records, ?_⟩
      simp [hview]

@[simp] theorem view_sessionHealth (w : Worker ω ρ κ) (session : SessionNo) :
    (w.sessionHealth session).2.view = w.view := rfl

@[simp] theorem view_setNonblocking (w : Worker ω ρ κ) (session : SessionNo) :
    (w.setNonblocking session).2.view =
      w.view.tell [.nonblocking session (w.setNonblocking session).1] := rfl

@[simp] theorem view_sessionSocket (w : Worker ω ρ κ) (session : SessionNo) :
    (w.sessionSocket session).2.view = w.view := rfl

@[simp] theorem view_pollSession (w : Worker ω ρ κ) (session : SessionNo) :
    (w.pollSession session).2.view =
      w.view.tell [.polled session (w.pollSession session).1] := rfl

@[simp] theorem view_errorText (w : Worker ω ρ κ) (session : SessionNo) :
    (w.errorText session).2.view = w.view := rfl

@[simp] theorem view_errorTextOr (w : Worker ω ρ κ) (session : SessionNo) (fallback : String) :
    (w.errorTextOr session fallback).2.view = w.view := rfl

@[simp] theorem view_tearDown (w : Worker ω ρ κ) (session : SessionNo) :
    (w.tearDown session).view = w.view.tell [.tornDown session] := rfl

@[simp] theorem view_registerSocket (w : Worker ω ρ κ) (socket : Int) (interest : Interest)
    (id : ConnId) :
    (w.registerSocket socket interest id).2.view =
      w.view.tell [.registered socket interest id (w.registerSocket socket interest id).1] := rfl

@[simp] theorem view_deregisterSocket (w : Worker ω ρ κ) (socket : Int) :
    (w.deregisterSocket socket).view = w.view.tell [.deregistered socket] := rfl

end Worker
end ConnPool
