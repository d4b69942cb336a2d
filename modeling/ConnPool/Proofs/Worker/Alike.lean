/-
  ConnPool.Proofs.Worker.Alike

  Two workers that differ in the contents of their targets only.

  Whatever one of them does, the other does too, as long as the environment
  does not tell targets of one kind apart: `Alike` is kept, and the answers
  agree (`Same`), function by function.  Each function branches on connections,
  on figures of pools and on answers, which are the same for both, and hands
  targets on without a look at what they hold.
-/

import ConnPool.Proofs.Context.Redaction
import ConnPool.Worker.Operation

namespace ConnPool

variable {ω ρ κ α : Type}

/-! ## Environments -/

/-- Whether two questions, put to states that `R` relates, are answered alike
    and leave states that it relates. -/
def Agree (R : ω → ω → Prop) (question question' : StateM ω α) : Prop :=
  ∀ env env', R env env' → (question.run env).1 = (question'.run env').1 ∧
    R (question.run env).2 (question'.run env').2

/-- Whether an environment behaves alike in any two states that `R` relates,
    whatever the targets hold that it is handed in them. -/
structure Environment.Oblivious [Environment ω] (R : ω → ω → Prop) : Prop where
  start : ∀ target target' session, target.kind = target'.kind →
    Agree R (Environment.start target session) (Environment.start target' session)
  status : ∀ session, Agree R (Environment.status session) (Environment.status session)
  setNonblocking : ∀ session,
    Agree R (Environment.setNonblocking session) (Environment.setNonblocking session)
  socket : ∀ session, Agree R (Environment.socket session) (Environment.socket session)
  poll : ∀ session, Agree R (Environment.poll session) (Environment.poll session)
  errorText : ∀ session, Agree R (Environment.errorText session) (Environment.errorText session)
  tearDown : ∀ session, Agree R (Environment.tearDown session) (Environment.tearDown session)
  register : ∀ socket interest id,
    Agree R (Environment.register socket interest id) (Environment.register socket interest id)
  deregister : ∀ socket, Agree R (Environment.deregister socket) (Environment.deregister socket)

/-! ## Events and operations -/

/-- An event without the contents of its target. -/
def Event.redacted : Event ρ κ → Event ρ κ
  | startRefused target => startRefused target.redacted
  | started session target => started session target.redacted
  | event => event

theorem Event.redacted_started {target target' : Target} (h : target.kind = target'.kind)
    (session : SessionNo) :
    (started session target : Event ρ κ).redacted = (started session target').redacted :=
  congrArg (started session) (Target.redacted_eq_iff.2 h)

theorem Event.redacted_startRefused {target target' : Target} (h : target.kind = target'.kind) :
    (startRefused target : Event ρ κ).redacted = (startRefused target').redacted :=
  congrArg startRefused (Target.redacted_eq_iff.2 h)

/-- Whether two operations differ in the contents of their targets only. -/
inductive Operation.Alike : Operation ρ κ → Operation ρ κ → Prop
  | connect (request : Option ρ) (onConnect : Option κ) {keys keys' values values' : List String}
      (hkeys : keys.length = keys'.length) (hvalues : values.length = values'.length)
      (expandDbname expandDbname' : Bool) :
      Alike (.connect request onConnect keys values expandDbname)
        (.connect request onConnect keys' values' expandDbname')
  | connectUri (request : Option ρ) (onConnect : Option κ) (uri uri' : String) :
      Alike (.connectUri request onConnect uri) (.connectUri request onConnect uri')
  | same (operation : Operation ρ κ) : Alike operation operation

namespace Worker

/-! ## Workers -/

/-- Whether two workers differ in the contents of their targets only. -/
structure Alike (R : ω → ω → Prop) (w w' : Worker ω ρ κ) : Prop where
  env : R w.env w'.env
  ctx : w.ctx.redacted = w'.ctx.redacted
  started : w.started = w'.started
  trace : w.trace.map Event.redacted = w'.trace.map Event.redacted

/-- Whether two workers answer the same, and differ afterwards in the contents of
    their targets only. -/
def Same (R : ω → ω → Prop) (result result' : α × Worker ω ρ κ) : Prop :=
  ∃ answer w w', result = (answer, w) ∧ result' = (answer, w') ∧ w.Alike R w'

variable {R : ω → ω → Prop} {w w' : Worker ω ρ κ}

theorem Same.intro {answer : α} (h : w.Alike R w') : Same R (answer, w) (answer, w') :=
  ⟨answer, w, w', rfl, rfl, h⟩

/-- What is made of an answer is the same where the answer is. -/
theorem Same.map {β : Type} {result result' : α × Worker ω ρ κ} (h : Same R result result')
    (f : α → β) : Same R (f result.1, result.2) (f result'.1, result'.2) := by
  obtain ⟨answer, w, w', rfl, rfl, halike⟩ := h
  exact .intro halike

/-- Workers that branch the same way answer the same if they do on each branch. -/
theorem Same.ite {c c' : Prop} [Decidable c] [Decidable c'] (hc : c ↔ c')
    {x x' y y' : α × Worker ω ρ κ} (hthen : c → Same R x x') (helse : ¬c → Same R y y') :
    Same R (if c then x else y) (if c' then x' else y') := by
  by_cases h : c
  · rw [if_pos h, if_pos (hc.1 h)]
    exact hthen h
  · rw [if_neg h, if_neg (mt hc.2 h)]
    exact helse h

namespace Alike

/-! ## What agrees -/

theorem conns (h : w.Alike R w') : w.ctx.conns = w'.ctx.conns :=
  (congrArg Context.conns h.ctx : w.ctx.redacted.conns = w'.ctx.redacted.conns)

theorem conn? (h : w.Alike R w') (id : ConnId) : w.ctx.conn? id = w'.ctx.conn? id := by
  rw [Context.conn?, h.conns, Context.conn?]

theorem state? (h : w.Alike R w') (id : ConnId) : w.ctx.state? id = w'.ctx.state? id := by
  rw [Context.state?, h.conn?, Context.state?]

theorem ids (h : w.Alike R w') : w.ctx.ids = w'.ctx.ids := by
  rw [Context.ids, h.conns, Context.ids]

/-- A pool exists for both workers or for none, and differs in its target only. -/
theorem get?_pools (h : w.Alike R w') (key : PoolKey) :
    (w.ctx.pools.get? key = none ∧ w'.ctx.pools.get? key = none) ∨
      ∃ pool target, w.ctx.pools.get? key = some pool ∧
        w'.ctx.pools.get? key = some (pool.towards target) ∧
        pool.config.target.kind = target.kind := by
  refine (KeyMap.get?_of_map_eq (congrArg Context.pools h.ctx) key).imp_right ?_
  rintro ⟨pool, pool', hpool, hpool', heq⟩
  obtain ⟨target, hkind, rfl⟩ := Pool.eq_towards_of_redacted heq
  exact ⟨pool, target, hpool, hpool', hkind⟩

theorem get?_configs (h : w.Alike R w') (key : PoolKey) :
    (w.ctx.configs.get? key = none ∧ w'.ctx.configs.get? key = none) ∨
      ∃ config target, w.ctx.configs.get? key = some config ∧
        w'.ctx.configs.get? key = some (config.towards target) ∧
        config.target.kind = target.kind := by
  refine (KeyMap.get?_of_map_eq (congrArg Context.configs h.ctx) key).imp_right ?_
  rintro ⟨config, config', hconfig, hconfig', heq⟩
  obtain ⟨target, hkind, rfl⟩ := PoolConfig.eq_towards_of_redacted heq
  exact ⟨config, target, hconfig, hconfig', hkind⟩

/-! ## Bookkeeping -/

theorem emit (h : w.Alike R w') {event event' : Event ρ κ}
    (hevent : event.redacted = event'.redacted) : (w.emit event).Alike R (w'.emit event') where
  env := h.env
  ctx := h.ctx
  started := h.started
  trace := by
    simp only [Worker.emit, List.map_append, h.trace, List.map_singleton, hevent]

theorem log (h : w.Alike R w') (record : LogRecord) : (w.log record).Alike R (w'.log record) :=
  h.emit rfl

theorem logAll (h : w.Alike R w') (records : List LogRecord) :
    (w.logAll records).Alike R (w'.logAll records) := by
  rw [Worker.logAll, Worker.logAll]
  induction records generalizing w w' with
  | nil => exact h
  | cons record rest ih => exact ih (h.log record)

/-- Neither depends on what it missed. -/
theorem miss (h : w.Alike R w') (error : PoolError) : (w.miss error).Alike R (w'.miss error) where
  env := h.env
  ctx := h.ctx
  started := h.started
  trace := h.trace

/-- Changes of the context that are one change once targets are redacted. -/
theorem change (h : w.Alike R w') {f f' g : Context ρ κ → Context ρ κ}
    (hf : ∀ ctx, (f ctx).redacted = g ctx.redacted)
    (hf' : ∀ ctx, (f' ctx).redacted = g ctx.redacted) : (w.withCtx f).Alike R (w'.withCtx f') where
  env := h.env
  ctx := (hf w.ctx).trans ((congrArg g h.ctx).trans (hf' w'.ctx).symm)
  started := h.started
  trace := h.trace

theorem withCtx (h : w.Alike R w') {f g : Context ρ κ → Context ρ κ}
    (hf : ∀ ctx, (f ctx).redacted = g ctx.redacted) : (w.withCtx f).Alike R (w'.withCtx f) :=
  h.change hf hf

theorem modifyConn (h : w.Alike R w') (id : ConnId) (f : Connection ρ κ → Connection ρ κ) :
    (w.modifyConn id f).Alike R (w'.modifyConn id f) :=
  h.withCtx (g := (·.modifyConn id f)) fun _ => rfl

theorem strike (h : w.Alike R w') (id : ConnId) (membership : Membership) :
    (w.withCtx (·.strike id membership)).Alike R (w'.withCtx (·.strike id membership)) :=
  h.withCtx (g := (·.strike id membership)) fun ctx => ctx.redacted_strike id membership

theorem enlist (h : w.Alike R w') (id : ConnId) (membership : Membership) :
    (w.withCtx (·.enlist id membership)).Alike R (w'.withCtx (·.enlist id membership)) :=
  h.withCtx (g := (·.enlist id membership)) fun ctx => ctx.redacted_enlist id membership

theorem modifyPool (h : w.Alike R w') (key : PoolKey) {f : Pool → Pool}
    (hf : ∀ pool, (f pool).redacted = f pool.redacted) :
    (w.modifyPool key f).Alike R (w'.modifyPool key f) :=
  h.withCtx (g := (·.modifyPool key f)) fun ctx => ctx.redacted_modifyPool key hf

/-- Pools that differ in the contents of their targets may be put in the place of
    a pool. -/
theorem putPool (h : w.Alike R w') (key : PoolKey) (pool : Pool) {target : Target}
    (hkind : pool.config.target.kind = target.kind) :
    (w.modifyPool key fun _ => pool).Alike R (w'.modifyPool key fun _ => pool.towards target) :=
  h.change (g := (·.modifyPool key fun _ => pool.redacted))
    (fun ctx => ctx.redacted_modifyPool key fun _ => rfl)
    (fun ctx => ctx.redacted_modifyPool key fun _ => pool.redacted_towards hkind)

/-- So they may where there is no pool yet. -/
theorem addPool (h : w.Alike R w') (key : PoolKey) (pool : Pool) {target : Target}
    (hkind : pool.config.target.kind = target.kind) :
    (w.withCtx fun ctx => { ctx with pools := ctx.pools.insert key pool }).Alike R
      (w'.withCtx fun ctx => { ctx with pools := ctx.pools.insert key (pool.towards target) }) := by
  refine h.change (g := fun ctx => { ctx with pools := ctx.pools.insert key pool.redacted }) ?_ ?_
  · exact fun ctx => ctx.redacted_insertPool key pool
  · intro ctx
    rw [ctx.redacted_insertPool key, pool.redacted_towards hkind]

theorem expectPool (h : w.Alike R w') (membership : Membership) :
    (w.expectPool membership).Alike R (w'.expectPool membership) := by
  rw [Worker.expectPool, Worker.expectPool]
  cases membership.pool? with
  | none => exact h
  | some key =>
      dsimp only
      rcases h.get?_pools key with ⟨hnone, hnone'⟩ | ⟨pool, target, hget, hget', -⟩
      · rw [hnone, hnone']
        exact h.miss _
      · rw [hget, hget']
        exact h

theorem link (h : w.Alike R w') (id : ConnId) : (w.link id).Alike R (w'.link id) := by
  rw [Worker.link, Worker.link, h.conn?]
  cases w'.ctx.conn? id with
  | none => exact h.miss _
  | some conn => exact (h.expectPool conn.membership).enlist id conn.membership

theorem addConn (h : w.Alike R w') (conn : Connection ρ κ) :
    Same R (w.addConn conn) (w'.addConn conn) := by
  rw [Worker.addConn, Worker.addConn, h.conns]
  exact .intro (h.withCtx (g := ({ · with conns := (w'.ctx.conns.insert conn).2 })) fun _ => rfl)

/-! ## Questions to the environment -/

theorem ask (h : w.Alike R w') {question question' : StateM ω α}
    (hquestion : Agree R question question') : Same R (w.ask question) (w'.ask question') := by
  obtain ⟨hanswer, henv⟩ := hquestion _ _ h.env
  have hasked : { w with env := (question.run w.env).2 }.Alike R
      { w' with env := (question'.run w'.env).2 } := ⟨henv, h.ctx, h.started, h.trace⟩
  exact ⟨_, _, _, rfl, congrArg (·, _) hanswer.symm, hasked⟩

section

variable [Environment ω] (hR : Environment.Oblivious R)

include hR

/-- Sessions start alike towards targets of one kind. -/
theorem startSession (h : w.Alike R w') {target target' : Target}
    (hkind : target.kind = target'.kind) :
    Same R (w.startSession target) (w'.startSession target') := by
  -- both ask for the session of the same number
  rw [Worker.startSession, Worker.startSession, h.started]
  obtain ⟨answer, w₁, w₁', hw, hw', h₁⟩ := h.ask (hR.start target target' w'.started hkind)
  rw [hw, hw']
  cases answer with
  | started =>
      have h₂ : { w₁ with started := w₁'.started + 1 }.Alike R
          { w₁' with started := w₁'.started + 1 } := ⟨h₁.env, h₁.ctx, rfl, h₁.trace⟩
      simp only [h₁.started]
      exact .intro (h₂.emit (Event.redacted_started hkind _))
  | refused records =>
      exact .intro ((h₁.emit (Event.redacted_startRefused hkind)).logAll records)

theorem sessionHealth (h : w.Alike R w') (session : SessionNo) :
    Same R (w.sessionHealth session) (w'.sessionHealth session) :=
  h.ask (hR.status session)

theorem setNonblocking (h : w.Alike R w') (session : SessionNo) :
    Same R (w.setNonblocking session) (w'.setNonblocking session) := by
  obtain ⟨refusal, w₁, w₁', hw, hw', h₁⟩ := h.ask (hR.setNonblocking session)
  rw [Worker.setNonblocking, Worker.setNonblocking, hw, hw']
  exact .intro (h₁.emit rfl)

theorem sessionSocket (h : w.Alike R w') (session : SessionNo) :
    Same R (w.sessionSocket session) (w'.sessionSocket session) :=
  h.ask (hR.socket session)

theorem pollSession (h : w.Alike R w') (session : SessionNo) :
    Same R (w.pollSession session) (w'.pollSession session) := by
  obtain ⟨poll, w₁, w₁', hw, hw', h₁⟩ := h.ask (hR.poll session)
  rw [Worker.pollSession, Worker.pollSession, hw, hw']
  exact .intro (h₁.emit rfl)

theorem errorText (h : w.Alike R w') (session : SessionNo) :
    Same R (w.errorText session) (w'.errorText session) :=
  h.ask (hR.errorText session)

theorem errorTextOr (h : w.Alike R w') (session : SessionNo) (fallback : String) :
    Same R (w.errorTextOr session fallback) (w'.errorTextOr session fallback) := by
  obtain ⟨text, w₁, w₁', hw, hw', h₁⟩ := errorText hR h session
  rw [Worker.errorTextOr, Worker.errorTextOr, hw, hw']
  exact .intro h₁

theorem tearDown (h : w.Alike R w') (session : SessionNo) :
    (w.tearDown session).Alike R (w'.tearDown session) := by
  obtain ⟨_, w₁, w₁', hw, hw', h₁⟩ := h.ask (hR.tearDown session)
  rw [Worker.tearDown, Worker.tearDown, hw, hw']
  exact h₁.emit rfl

theorem registerSocket (h : w.Alike R w') (socket : Int) (interest : Interest) (id : ConnId) :
    Same R (w.registerSocket socket interest id) (w'.registerSocket socket interest id) := by
  obtain ⟨refusal, w₁, w₁', hw, hw', h₁⟩ := h.ask (hR.register socket interest id)
  rw [Worker.registerSocket, Worker.registerSocket, hw, hw']
  exact .intro (h₁.emit rfl)

theorem deregisterSocket (h : w.Alike R w') (socket : Int) :
    (w.deregisterSocket socket).Alike R (w'.deregisterSocket socket) := by
  obtain ⟨_, w₁, w₁', hw, hw', h₁⟩ := h.ask (hR.deregister socket)
  rw [Worker.deregisterSocket, Worker.deregisterSocket, hw, hw']
  exact h₁.emit rfl

end

/-! ## Ends -/

theorem tellConnect (h : w.Alike R w') (id : ConnId) (conn : Connection ρ κ) (status : Status) :
    (w.tellConnect id conn status).Alike R (w'.tellConnect id conn status) := by
  rw [Worker.tellConnect, Worker.tellConnect]
  cases conn.onConnect with
  | none => exact h
  | some callback => exact h.emit rfl

theorem tellDisconnect (h : w.Alike R w') (id : ConnId) (conn : Connection ρ κ)
    (status : Status) :
    (w.tellDisconnect id conn status).Alike R (w'.tellDisconnect id conn status) := by
  rw [Worker.tellDisconnect, Worker.tellDisconnect]
  cases conn.onDisconnect with
  | none => exact h
  | some callback => exact h.emit rfl

theorem confirmConnect (h : w.Alike R w') (id : ConnId) :
    (w.confirmConnect id).Alike R (w'.confirmConnect id) := by
  rw [Worker.confirmConnect, Worker.confirmConnect, h.conn?]
  cases w'.ctx.conn? id with
  | none => exact h
  | some conn => exact (h.modifyConn id _).tellConnect id conn (.ok ())

variable [Environment ω] (hR : Environment.Oblivious R)

include hR

theorem withdraw (h : w.Alike R w') (id : ConnId) : Same R (w.withdraw id) (w'.withdraw id) := by
  rw [Worker.withdraw, Worker.withdraw, h.conns]
  rcases w'.ctx.conns.remove id with ⟨conn?, conns⟩
  cases conn? with
  | none => exact .intro h
  | some conn =>
      have h₁ := h.withCtx (f := ({ · with conns })) (g := ({ · with conns })) fun _ => rfl
      refine .intro (strike ?_ id conn.membership)
      split
      · exact deregisterSocket hR h₁ conn.socket
      · exact h₁

theorem abort (h : w.Alike R w') (id : ConnId) (error : PoolError) :
    (w.abort id error).Alike R (w'.abort id error) := by
  obtain ⟨conn?, w₁, w₁', hw, hw', h₁⟩ := withdraw hR h id
  rw [Worker.abort, Worker.abort, hw, hw']
  cases conn? with
  | none => exact h₁
  | some conn =>
      have h₂ := h₁.tellConnect id conn (.error error)
      refine tearDown hR ?_ conn.session
      split
      · exact h₂.tellDisconnect id conn (.error error)
      · exact h₂

theorem release (h : w.Alike R w') (id : ConnId) (status : Status) :
    Same R (w.release id status) (w'.release id status) := by
  obtain ⟨conn?, w₁, w₁', hw, hw', h₁⟩ := withdraw hR h id
  rw [Worker.release, Worker.release, hw, hw']
  cases conn? with
  | none => exact .intro h₁
  | some conn =>
      exact .intro (tearDown hR ((h₁.log _).tellDisconnect id conn status) conn.session)

theorem shutdownConn (h : w.Alike R w') (id : ConnId) :
    (w.shutdownConn id).Alike R (w'.shutdownConn id) := by
  obtain ⟨conn?, w₁, w₁', hw, hw', h₁⟩ := withdraw hR h id
  rw [Worker.shutdownConn, Worker.shutdownConn, hw, hw']
  cases conn? with
  | none => exact h₁
  | some conn =>
      exact tearDown hR ((h₁.tellConnect id conn _).tellDisconnect id conn _) conn.session

theorem shutdown (h : w.Alike R w') : Same R w.shutdown w'.shutdown := by
  rw [Worker.shutdown, Worker.shutdown, h.ids]
  have hends : ∀ (ids : List ConnId) {w w' : Worker ω ρ κ}, w.Alike R w' →
      (ids.foldl Worker.shutdownConn w).Alike R (ids.foldl Worker.shutdownConn w') := by
    intro ids
    induction ids with
    | nil => exact fun h => h
    | cons id rest ih => exact fun h => ih (shutdownConn hR h id)
  have hdropped := (hends w'.ctx.ids h).withCtx (f := ({ · with pools := .empty }))
    (g := ({ · with pools := .empty })) fun _ => rfl
  exact .intro (hdropped.log _)

/-! ## Handshakes -/

theorem watchConn (h : w.Alike R w') (id : ConnId) (socket : Int) (interest : Interest) :
    Same R (w.watchConn id socket interest) (w'.watchConn id socket interest) := by
  obtain ⟨refusal, w₁, w₁', hw, hw', h₁⟩ := registerSocket hR h socket interest id
  rw [Worker.watchConn, Worker.watchConn, hw, hw']
  cases refusal with
  | none => exact .intro (h₁.modifyConn id _)
  | some reason => exact .intro (abort hR (h₁.log _) id _)

theorem stepHandshake (h : w.Alike R w') (id : ConnId) :
    Same R (w.stepHandshake id) (w'.stepHandshake id) := by
  rw [Worker.stepHandshake, Worker.stepHandshake, h.conn?]
  cases w'.ctx.conn? id with
  | none => exact .intro (h.miss _)
  | some conn =>
      obtain ⟨poll, w₁, w₁', hw, hw', h₁⟩ := pollSession hR h conn.session
      simp only [hw, hw']
      have h₂ := (h₁.modifyConn id ({ · with lastPoll := some poll })).log
        (.handshakeStep id poll conn.disconnectPending)
      -- what follows depends on the report, and on what the record says of a disconnect
      cases poll with
      | failed =>
          obtain ⟨reason, w₃, w₃', hw₃, hw₃', h₃⟩ := errorText hR h₂ conn.session
          simp only [hw₃, hw₃']
          exact .intro (abort hR (h₃.log _) id _)
      | ok =>
          have h₃ := h₂.modifyConn id ({ · with state := .connected })
          by_cases hpending : conn.disconnectPending
          · simp only [if_pos hpending]
            obtain ⟨live, w₄, w₄', hw₄, hw₄', h₄⟩ :=
              release hR (h₃.log (.deferredRelease id)) id (.ok ())
            simp only [hw₄, hw₄']
            exact .intro h₄
          · simp only [if_neg hpending]
            obtain ⟨status, w₄, w₄', hw₄, hw₄', h₄⟩ := watchConn hR h₃ id conn.socket .none
            simp only [hw₄, hw₄']
            cases status with
            | error e => exact .intro h₄
            | ok => exact .intro ((h₄.log _).confirmConnect id)
      | reading | writing => exact watchConn hR (h₂.modifyConn id _) id conn.socket _

end Alike
end Worker
end ConnPool
