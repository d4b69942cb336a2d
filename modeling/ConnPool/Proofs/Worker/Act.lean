/-
  ConnPool.Proofs.Worker.Act

  What a context can do in one go.

  An `Act` takes a context in order to a context in order; between two acts an
  operation may leave the collections and the arena out of step, but never at
  their ends.  An act knows what it does to the context (`apply`), what it does
  to the outside (`events`) and when it may happen (`Enabled`), and every
  operation is a path of acts.  So whatever holds along paths is proved act by
  act, and whatever an operation does is told by the acts that it consists of.
-/

import ConnPool.Proofs.Context.Orderly
import ConnPool.Proofs.Worker.Ending
import ConnPool.Proofs.Worker.Slots

namespace ConnPool

variable {ρ κ : Type}

/-- Events that tell of nothing done: what is logged, and refused starts. -/
def Event.IsNote : Event ρ κ → Prop
  | logged _ | startRefused _ => True
  | started .. | nonblocking .. | polled .. | tornDown _ | registered .. | deregistered _
  | connectCalled .. | disconnectCalled .. => False

/-- What a call made directly on a session can show. -/
def Event.IsReply (session : SessionNo) : Event ρ κ → Prop
  | nonblocking s _ | polled s _ => s = session
  | logged _ | startRefused _ | started .. | tornDown _ | registered .. | deregistered _
  | connectCalled .. | disconnectCalled .. => False

/-- What a connection can be opened as: a direct one for a caller, or an idle
    one for nobody. -/
def Membership.CanOpen (membership : Membership) (request : Option ρ) (onConnect : Option κ) :
    Prop :=
  membership = .registry ∨ ((∃ key, membership = .free key) ∧ request = none ∧ onConnect = none)

theorem Membership.CanOpen.ne_busy {membership : Membership} {request : Option ρ}
    {onConnect : Option κ} (h : membership.CanOpen request onConnect) (key : PoolKey) :
    membership ≠ .busy key := by
  rcases h with rfl | ⟨⟨k, rfl⟩, -⟩
  · simp
  · simp

/-- One thing that a context does, from one orderly state to the next. -/
inductive Act (ρ κ : Type) where
  | noted (events : List (Event ρ κ))
  /-- A host calls directly on the session of a connection. -/
  | asked (id : ConnId) (conn : Connection ρ κ) (events : List (Event ρ κ))
  | poolCreated (key : PoolKey) (config : PoolConfig)
  /-- A connection is opened, and its first handshake step keeps it. -/
  | opened (id : ConnId) (target : Target) (conn : Connection ρ κ) (poll : PollReport)
  /-- A connection is opened, and is gone at once. -/
  | openFailed (id : ConnId) (target : Target) (conn : Connection ρ κ) (ending : Ending κ)
  /-- A session is started, but its socket cannot be made non-blocking. -/
  | openSpoiled (session : SessionNo) (target : Target) (reason : String)
  /-- A handshake step keeps its connection. -/
  | stepped (id : ConnId) (conn : Connection ρ κ) (poll : PollReport)
  | lent (id : ConnId) (conn : Connection ρ κ) (key : PoolKey) (request : Option ρ)
      (onConnect : Option κ) (load : PoolLoad)
  | takenBack (id : ConnId) (conn : Connection ρ κ) (key : PoolKey) (load : PoolLoad)
  /-- A direct connection is taken over by the pool it was lent for. -/
  | adopted (id : ConnId) (conn : Connection ρ κ) (key : PoolKey) (size : Nat)
  /-- A direct connection is lent in the stead of one of the pool. -/
  | tagged (id : ConnId) (conn : Connection ρ κ) (key : PoolKey)
  | deferred (id : ConnId) (conn : Connection ρ κ) (onDisconnect : Option κ)
  | finished (id : ConnId) (conn : Connection ρ κ) (ending : Ending κ)
  | poolsDropped

namespace Act

/-- What an act does to the context. -/
def apply (ctx : Context ρ κ) : Act ρ κ → Context ρ κ
  | noted _ | asked .. | openSpoiled .. => ctx
  | poolCreated key config => { ctx with pools := ctx.pools.insert key { config } }
  | opened _ _ conn poll => ctx.takeIn (conn.stepped poll)
  | openFailed _ _ conn _ => ctx.attempt conn
  | stepped id _ poll => ctx.modifyConn id (·.stepped poll)
  | lent id conn key request onConnect _ => ctx.transfer id conn (·.lentBy key request onConnect)
  | takenBack id conn key _ => ctx.transfer id conn (·.returnedTo key)
  | adopted id conn key _ => ctx.transfer id conn (·.adoptedBy key)
  | tagged id _ key =>
    (ctx.modifyConn id ({ · with overflowOf := some key })).modifyPool key
      fun pool => { pool with overflowCount := pool.overflowCount + 1 }
  | deferred id _ onDisconnect => ctx.modifyConn id (·.awaiting onDisconnect)
  | finished id conn _ => ctx.without id conn
  | poolsDropped => { ctx with pools := .empty }

/-- What an act does to the outside. -/
def events : Act ρ κ → List (Event ρ κ)
  | noted events | asked _ _ events => events
  | poolCreated key config => [.logged (.poolCreated key config.minSize config.maxSize)]
  | opened id target conn poll =>
    .started conn.session target :: .nonblocking conn.session none :: conn.stepEvents id poll ++
      [.logged (.opened id conn.socket (some (conn.stepped poll).state))]
  | openFailed id target conn (.bad kind reason) =>
    .started conn.session target :: (Ending.bad kind reason).events id conn
  | openFailed id target conn ending =>
    .started conn.session target :: .nonblocking conn.session none :: ending.events id conn
  | openSpoiled session target reason =>
    [.started session target, .nonblocking session (some reason),
      .logged (.socketModeRefused target.kind reason), .tornDown session]
  | stepped id conn poll => conn.stepEvents id poll
  | lent id conn key request onConnect load =>
    .logged (.lent id key conn.state load) ::
      if conn.state = .connected then { conn with request, onConnect }.connectCall id (.ok ())
      else []
  | takenBack id conn key load => [.logged (.reclaimed id key conn.state load)]
  | adopted id _ key size => [.logged (.adopted id key size)]
  | deferred id conn _ => [.logged (.disconnectDeferred id conn.state)]
  | finished id conn ending => ending.events id conn
  | tagged .. | poolsDropped => []

/-- How many sessions an act starts. -/
def starts : Act ρ κ → Nat
  | opened .. | openFailed .. | openSpoiled .. => 1
  | noted _ | asked .. | poolCreated .. | stepped .. | lent .. | takenBack .. | adopted ..
  | tagged .. | deferred .. | finished .. | poolsDropped => 0

/-- The state after an act. -/
def run (v : View ρ κ) (act : Act ρ κ) : View ρ κ where
  ctx := act.apply v.ctx
  started := v.started + act.starts
  trace := v.trace ++ act.events
  missed := v.missed

/-- When an act may happen. -/
def Enabled (v : View ρ κ) : Act ρ κ → Prop
  | noted events => ∀ event ∈ events, event.IsNote
  | asked id conn events =>
    v.ctx.conn? id = some conn ∧ ∀ event ∈ events, event.IsReply conn.session
  | poolCreated key config =>
    v.ctx.pools.get? key = none ∧ v.ctx.configs.get? key = some config
  | opened id _ conn poll =>
    conn.IsNew ∧ conn.session = v.started ∧ poll ≠ .failed ∧ id = v.ctx.nextId conn ∧
      conn.membership.CanOpen conn.request conn.onConnect ∧ v.ctx.HasRoom conn.membership ∧
      (v.ctx.conns.insert conn).2.Addressable
  | openFailed id _ conn ending =>
    conn.IsNew ∧ conn.session = v.started ∧ ending.EndsOpening ∧ id = v.ctx.nextId conn ∧
      (v.ctx.conns.insert conn).2.Addressable
  | openSpoiled session _ _ => session = v.started
  | stepped id conn poll =>
    v.ctx.conn? id = some conn ∧ conn.state = .connecting ∧ poll ≠ .failed ∧
      ¬(poll = .ok ∧ conn.disconnectPending = true)
  | lent id conn key _ _ _ => v.ctx.conn? id = some conn ∧ conn.membership = .free key
  | takenBack id conn key _ => v.ctx.conn? id = some conn ∧ conn.membership = .busy key
  | adopted id conn key _ =>
    v.ctx.conn? id = some conn ∧ conn.membership = .registry ∧ conn.overflowOf = some key ∧
      v.ctx.HasRoom (.free key)
  | tagged id conn key =>
    v.ctx.conn? id = some conn ∧ conn.membership = .registry ∧ conn.overflowOf = none ∧
      (v.ctx.poolConfig? key).isSome
  | deferred id conn _ =>
    v.ctx.conn? id = some conn ∧ conn.state ≠ .connected ∧ conn.membership.isFree = false
  | finished id conn ending => v.ctx.conn? id = some conn ∧ ending.Fits conn
  | poolsDropped => ∀ id, v.ctx.conn? id = none

end Act

/-! ## Live connections -/

/-- The one connection that an act concerns, and what becomes of it: its new
    record, or nothing if it is gone. -/
def Act.change : Act ρ κ → Option (ConnId × Option (Connection ρ κ))
  | noted _ | asked .. | poolCreated .. | openFailed .. | openSpoiled .. | poolsDropped => none
  | opened id _ conn poll | stepped id conn poll => some (id, some (conn.stepped poll))
  | lent id conn key request onConnect _ => some (id, some (conn.lentBy key request onConnect))
  | takenBack id conn key _ => some (id, some (conn.returnedTo key))
  | adopted id conn key _ => some (id, some (conn.adoptedBy key))
  | tagged id conn key => some (id, some { conn with overflowOf := some key })
  | deferred id conn onDisconnect => some (id, some (conn.awaiting onDisconnect))
  | finished id _ _ => some (id, none)

/-- Whether an act brings the connection under `id` to life. -/
def Act.Opens (id : ConnId) : Act ρ κ → Prop
  | opened i _ _ _ => i = id
  | noted _ | asked .. | poolCreated .. | openFailed .. | openSpoiled .. | stepped .. | lent ..
  | takenBack .. | adopted .. | tagged .. | deferred .. | finished .. | poolsDropped => False

/-- Whether an act ends the connection under `id`. -/
def Act.Ends (id : ConnId) : Act ρ κ → Prop
  | finished i _ _ => i = id
  | noted _ | asked .. | poolCreated .. | opened .. | openFailed .. | openSpoiled .. | stepped ..
  | lent .. | takenBack .. | adopted .. | tagged .. | deferred .. | poolsDropped => False

theorem Context.conn?_modifyConn_of_live {ctx : Context ρ κ} {id : ConnId} {conn : Connection ρ κ}
    (h : ctx.conn? id = some conn) (f : Connection ρ κ → Connection ρ κ) (other : ConnId) :
    (ctx.modifyConn id f).conn? other = if other = id then some (f conn) else ctx.conn? other := by
  rw [conn?_modifyConn, h]
  rfl

/-- An act changes the connection that it concerns and no other. -/
theorem Act.conn?_run {v : View ρ κ} {act : Act ρ κ} (enabled : act.Enabled v)
    (hw : v.ctx.Orderly) (other : ConnId) :
    (act.run v).ctx.conn? other =
      match act.change with
      | some (id, conn?) => if other = id then conn? else v.ctx.conn? other
      | none => v.ctx.conn? other := by
  cases act with
  | noted _ | asked _ _ _ | openSpoiled _ _ _ | poolCreated _ _ | poolsDropped => rfl
  | opened id target conn poll =>
      obtain ⟨-, -, -, hid, -, -, ha⟩ := enabled
      -- the step changes the record before it is listed, not the id
      have hstepped : (v.ctx.conns.insert (conn.stepped poll)).2.Addressable := ha.insert_congr
      rw [Context.nextId_congr v.ctx conn (conn.stepped poll)] at hid
      simp only [change, hid]
      exact Context.conn?_takeIn hw.arena hstepped other
  | openFailed id target conn ending => exact Context.conn?_attempt hw.arena enabled.2.2.2.2 other
  | stepped id conn poll => exact Context.conn?_modifyConn_of_live enabled.1 _ other
  | lent id conn key request onConnect load => exact Context.conn?_transfer enabled.1 _ other
  | takenBack id conn key load => exact Context.conn?_transfer enabled.1 _ other
  | adopted id conn key size => exact Context.conn?_transfer enabled.1 _ other
  | tagged id conn key => exact Context.conn?_modifyConn_of_live enabled.1 _ other
  | deferred id conn onDisconnect => exact Context.conn?_modifyConn_of_live enabled.1 _ other
  | finished id conn ending => exact Context.conn?_without v.ctx id conn other

/-- An act leaves every connection alone that it does not concern. -/
theorem Act.conn?_run_of_ne {v : View ρ κ} {act : Act ρ κ} (enabled : act.Enabled v)
    (hw : v.ctx.Orderly) {other : ConnId} (h : act.change.map Prod.fst ≠ some other) :
    (act.run v).ctx.conn? other = v.ctx.conn? other := by
  rw [conn?_run enabled hw]
  split
  · rename_i id conn? heq
    rw [heq] at h
    exact if_neg fun hid => h (congrArg some hid.symm)
  · rfl

/-- A live connection was there before an act, or is the one that it changed. -/
theorem Act.conn?_of_run {v : View ρ κ} {act : Act ρ κ} (enabled : act.Enabled v)
    (hw : v.ctx.Orderly) {other : ConnId} {conn : Connection ρ κ}
    (h : (act.run v).ctx.conn? other = some conn) :
    v.ctx.conn? other = some conn ∨ act.change = some (other, some conn) := by
  rw [conn?_run enabled hw] at h
  split at h
  · rename_i id conn? hchange
    split at h
    · rename_i heq
      rw [hchange, heq, h]
      exact .inr rfl
    · exact .inl h
  · exact .inl h

/-- An opening that fails leaves nothing under its id. -/
theorem Act.conn?_run_openFailed {v : View ρ κ} {id : ConnId} {target : Target}
    {conn : Connection ρ κ} {ending : Ending κ} (hw : v.ctx.Orderly)
    (enabled : (Act.openFailed id target conn ending).Enabled v) :
    ((Act.openFailed id target conn ending).run v).ctx.conn? id = none := by
  obtain ⟨-, -, -, hid, ha⟩ := enabled
  show (v.ctx.attempt conn).conn? id = none
  rw [Context.conn?_attempt hw.arena ha, hid]
  exact Context.conn?_nextId hw.arena ha

/-- An act brings no other connection to life than the one it opens. -/
theorem Act.live_of_run {v : View ρ κ} {act : Act ρ κ} (enabled : act.Enabled v)
    (hw : v.ctx.Orderly) {other : ConnId} (hopens : ¬act.Opens other)
    (h : ((act.run v).ctx.conn? other).isSome) : (v.ctx.conn? other).isSome := by
  obtain ⟨conn', hconn'⟩ := Option.isSome_iff_exists.1 h
  rcases conn?_of_run enabled hw hconn' with hold | hchange
  · exact Option.isSome_of_eq_some hold
  · cases act with
    | noted _ | asked _ _ _ | poolCreated _ _ | openFailed _ _ _ _ | openSpoiled _ _ _
    | poolsDropped | finished _ _ _ => cases hchange
    | opened id target conn poll =>
        cases hchange
        exact absurd rfl hopens
    | stepped id conn _ | lent id conn _ _ _ _ | takenBack id conn _ _ | adopted id conn _ _
    | tagged id conn _ | deferred id conn _ =>
        cases hchange
        exact Option.isSome_of_eq_some enabled.1

/-- A connection that is there is not opened. -/
theorem Act.not_opens_of_live {v : View ρ κ} {act : Act ρ κ} (enabled : act.Enabled v)
    (hw : v.ctx.Orderly) {id : ConnId} (hlive : (v.ctx.conn? id).isSome) : ¬act.Opens id := by
  cases act with
  | opened i target conn poll =>
      rintro rfl
      obtain ⟨-, -, -, hid, -, -, ha⟩ := enabled
      rw [hid, Context.conn?_nextId hw.arena ha] at hlive
      cases hlive
  | noted _ | asked _ _ _ | poolCreated _ _ | openFailed _ _ _ _ | openSpoiled _ _ _
  | stepped _ _ _ | lent _ _ _ _ _ _ | takenBack _ _ _ _ | adopted _ _ _ _ | tagged _ _ _
  | deferred _ _ _ | finished _ _ _ | poolsDropped => exact fun h => h

/-- A connection that is not ended lives on, and has what its new record has if
    it is changed. -/
theorem Act.stays_run {v : View ρ κ} {act : Act ρ κ} (enabled : act.Enabled v)
    (hw : v.ctx.Orderly) {id : ConnId} (hends : ¬act.Ends id) {P : Connection ρ κ → Prop}
    (hchange : ∀ old new, v.ctx.conn? id = some old → act.change = some (id, some new) →
      ¬act.Opens id → P old → P new)
    (h : ∃ conn, v.ctx.conn? id = some conn ∧ P conn) :
    ∃ conn, (act.run v).ctx.conn? id = some conn ∧ P conn := by
  obtain ⟨conn, hconn, hold⟩ := h
  have hopens := not_opens_of_live enabled hw (Option.isSome_of_eq_some hconn)
  have hrun := conn?_run enabled hw id
  rw [hrun]
  split
  · rename_i i new? heq
    split
    · rename_i hid
      subst hid
      -- only an ending leaves nothing under the id
      cases new? with
      | some new => exact ⟨new, rfl, hchange conn new hconn heq hopens hold⟩
      | none =>
          cases act with
          | finished _ _ _ =>
              cases heq
              exact absurd rfl hends
          | opened _ _ _ _ | stepped _ _ _ | lent _ _ _ _ _ _ | takenBack _ _ _ _
          | adopted _ _ _ _ | tagged _ _ _ | deferred _ _ _ | noted _ | asked _ _ _
          | poolCreated _ _ | openFailed _ _ _ _ | openSpoiled _ _ _ | poolsDropped => cases heq
    · exact ⟨conn, hconn, hold⟩
  · exact ⟨conn, hconn, hold⟩

theorem Act.conn?_of_ends {v : View ρ κ} {act : Act ρ κ} (enabled : act.Enabled v)
    (hw : v.ctx.Orderly) {id : ConnId} (h : act.Ends id) : (act.run v).ctx.conn? id = none := by
  cases act with
  | finished i conn ending =>
      rw [conn?_run enabled hw]
      exact if_pos (Eq.symm h)
  | noted _ | asked _ _ _ | poolCreated _ _ | opened _ _ _ _ | openFailed _ _ _ _
  | openSpoiled _ _ _ | stepped _ _ _ | lent _ _ _ _ _ _ | takenBack _ _ _ _ | adopted _ _ _ _
  | tagged _ _ _ | deferred _ _ _ | poolsDropped => exact h.elim

/-! ## Paths -/

/-- Acts done one after another, each when it may be done. -/
inductive Path : View ρ κ → List (Act ρ κ) → View ρ κ → Prop
  | nil (v : View ρ κ) : Path v [] v
  | cons {v v' : View ρ κ} {act : Act ρ κ} {acts : List (Act ρ κ)} (enabled : act.Enabled v)
      (rest : Path (act.run v) acts v') : Path v (act :: acts) v'

namespace Path

variable {v v₁ v₂ : View ρ κ} {acts acts₁ acts₂ : List (Act ρ κ)}

theorem of_eq (h : v = v₁) : Path v [] v₁ := h ▸ .nil v

theorem single {act : Act ρ κ} (enabled : act.Enabled v) (h : act.run v = v₁) : Path v [act] v₁ :=
  .cons enabled (.of_eq h)

theorem eq_of_nil (h : Path v [] v₁) : v₁ = v := by
  cases h with
  | nil => rfl

theorem enabled {act : Act ρ κ} (h : Path v [act] v₁) : act.Enabled v := by
  cases h with
  | cons enabled _ => exact enabled

theorem run_eq {act : Act ρ κ} (h : Path v [act] v₁) : act.run v = v₁ := by
  cases h with
  | cons _ hnil => exact hnil.eq_of_nil.symm

theorem append (first : Path v acts₁ v₁) (second : Path v₁ acts₂ v₂) :
    Path v (acts₁ ++ acts₂) v₂ := by
  induction first with
  | nil v => exact second
  | cons enabled _ ih => exact .cons enabled (ih second)

/-- A path through two lists of acts stops in between. -/
theorem of_append (h : Path v (acts₁ ++ acts₂) v₂) :
    ∃ v₁, Path v acts₁ v₁ ∧ Path v₁ acts₂ v₂ := by
  induction acts₁ generalizing v with
  | nil => exact ⟨v, .nil v, h⟩
  | cons act acts ih =>
      cases h with
      | cons enabled rest =>
          obtain ⟨v₁, first, second⟩ := ih rest
          exact ⟨v₁, .cons enabled first, second⟩

/-- A path through an act gets there, takes it, and goes on. -/
theorem of_mem {act : Act ρ κ} (h : Path v acts v₁) (hmem : act ∈ acts) :
    ∃ earlier later v₂, acts = earlier ++ act :: later ∧ Path v earlier v₂ ∧ act.Enabled v₂ ∧
      Path (act.run v₂) later v₁ := by
  obtain ⟨earlier, later, rfl⟩ := List.append_of_mem hmem
  obtain ⟨v₂, first, second⟩ := h.of_append
  cases second with
  | cons enabled rest => exact ⟨earlier, later, v₂, rfl, first, enabled, rest⟩

/-- What each act keeps, a path keeps. -/
theorem keeps {P : View ρ κ → Prop}
    (step : ∀ v (act : Act ρ κ), act.Enabled v → P v → P (act.run v)) (h : Path v acts v₁)
    (hv : P v) : P v₁ := by
  induction h with
  | nil => exact hv
  | cons enabled _ ih => exact ih (step _ _ enabled hv)

/-- No act misses anything. -/
theorem missed_eq (h : Path v acts v₁) : v₁.missed = v.missed :=
  h.keeps (P := fun v' => v'.missed = v.missed) (fun _ _ _ hv => hv) rfl

/-- A path only starts sessions. -/
theorem started_le (h : Path v acts v₁) : v.started ≤ v₁.started :=
  h.keeps (P := fun u => v.started ≤ u.started)
    (fun _ _ _ hle => Nat.le_trans hle (Nat.le_add_right _ _)) (Nat.le_refl _)

/-- A path adds the events of its acts to the trace. -/
theorem trace_eq (h : Path v acts v₁) : v₁.trace = v.trace ++ acts.flatMap Act.events := by
  induction h with
  | nil => simp
  | cons _ _ ih =>
      rw [ih, List.flatMap_cons, ← List.append_assoc]
      rfl

end Path

/-! ## Order -/

/-- Every act keeps the context in order. -/
theorem Act.orderly_run {v : View ρ κ} {act : Act ρ κ} (enabled : act.Enabled v)
    (hw : v.ctx.Orderly) : (act.run v).ctx.Orderly := by
  cases act with
  | noted _ | asked _ _ _ | openSpoiled _ _ _ => exact hw
  | poolCreated key config => exact hw.createPool config enabled.1
  | opened id target conn poll =>
      obtain ⟨-, -, -, -, -, hroom, haddressable⟩ := enabled
      exact hw.takeIn haddressable.insert_congr hroom
  | openFailed id target conn ending => exact hw.attempt enabled.2.2.2.2
  | stepped id conn poll => exact hw.modifyConn fun _ _ => rfl
  | lent id conn key request onConnect load =>
      refine hw.transfer (f := (·.lentBy key request onConnect)) enabled.1 (.inl ?_)
      rw [enabled.2]
      rfl
  | takenBack id conn key load =>
      refine hw.transfer (f := (·.returnedTo key)) enabled.1 (.inl ?_)
      rw [enabled.2]
      rfl
  | adopted id conn key size =>
      exact hw.transfer (f := (·.adoptedBy key)) enabled.1 (.inr enabled.2.2.2)
  | tagged id conn key =>
      have htagged : (v.ctx.modifyConn id ({ · with overflowOf := some key })).Orderly :=
        hw.modifyConn fun _ _ => rfl
      exact htagged.modifyPool key (fun _ => rfl) (fun _ => rfl) fun _ => rfl
  | deferred id conn onDisconnect => exact hw.modifyConn fun _ _ => rfl
  | finished id conn ending => exact hw.without enabled.1
  | poolsDropped => exact hw.dropPools enabled

/-- Pools last until all are dropped, and keep their configurations. -/
theorem Act.poolConfig?_run {v : View ρ κ} {act : Act ρ κ} (enabled : act.Enabled v)
    (hdrop : act ≠ .poolsDropped) {key : PoolKey} {config : PoolConfig}
    (h : v.ctx.poolConfig? key = some config) : (act.run v).ctx.poolConfig? key = some config := by
  rw [← h, run]
  cases act with
  | noted _ | asked _ _ _ | openSpoiled _ _ _ => rfl
  | poolCreated k c =>
      -- a pool that exists is not created again
      have hne : key ≠ k := by
        rintro rfl
        rw [Context.poolConfig?, enabled.1] at h
        cases h
      show Option.map _ ((v.ctx.pools.insert k { config := c }).get? key) = _
      rw [KeyMap.get?_insert_of_ne _ hne]
      rfl
  | opened id target conn poll => exact Context.poolConfig?_takeIn v.ctx _ key
  | openFailed id target conn ending => exact Context.poolConfig?_attempt v.ctx conn key
  | stepped id conn poll => exact Context.poolConfig?_modifyConn v.ctx id _ key
  | lent id conn k request onConnect load => exact Context.poolConfig?_transfer v.ctx id conn _ key
  | takenBack id conn k load => exact Context.poolConfig?_transfer v.ctx id conn _ key
  | adopted id conn k size => exact Context.poolConfig?_transfer v.ctx id conn _ key
  | tagged id conn k =>
      exact Context.poolConfig?_modifyPool
        (f := fun pool => { pool with overflowCount := pool.overflowCount + 1 }) (fun _ => rfl) key
  | deferred id conn onDisconnect => exact Context.poolConfig?_modifyConn v.ctx id _ key
  | finished id conn ending => exact Context.poolConfig?_without v.ctx id conn key
  | poolsDropped => exact absurd rfl hdrop

theorem Path.poolConfig? {v v' : View ρ κ} {acts : List (Act ρ κ)} (h : Path v acts v')
    (hdrop : .poolsDropped ∉ acts) {key : PoolKey} {config : PoolConfig}
    (hv : v.ctx.poolConfig? key = some config) : v'.ctx.poolConfig? key = some config := by
  induction h with
  | nil => exact hv
  | cons enabled _ ih =>
      rw [List.mem_cons, not_or] at hdrop
      exact ih hdrop.2 (Act.poolConfig?_run enabled (Ne.symm hdrop.1) hv)

theorem Path.orderly {v v' : View ρ κ} {acts : List (Act ρ κ)} (h : Path v acts v')
    (hw : v.ctx.Orderly) : v'.ctx.Orderly :=
  h.keeps (P := fun v => v.ctx.Orderly) (fun _ _ => Act.orderly_run) hw

/-- A path brings no other connections to life than those its acts open. -/
theorem Path.live_of_live {v v' : View ρ κ} {acts : List (Act ρ κ)} (h : Path v acts v')
    (hw : v.ctx.Orderly) {id : ConnId} (hopens : ∀ act ∈ acts, ¬act.Opens id)
    (hlive : (v'.ctx.conn? id).isSome) : (v.ctx.conn? id).isSome := by
  induction h with
  | nil => exact hlive
  | cons enabled _ ih =>
      obtain ⟨hact, hrest⟩ := List.forall_mem_cons.1 hopens
      exact Act.live_of_run enabled hw hact (ih (Act.orderly_run enabled hw) hrest hlive)

/-- A connection that a path ends and does not open is gone. -/
theorem Path.conn?_of_ends {v v' : View ρ κ} {acts : List (Act ρ κ)} (h : Path v acts v')
    (hw : v.ctx.Orderly) {id : ConnId} (hopens : ∀ act ∈ acts, ¬act.Opens id)
    (hends : ∃ act ∈ acts, act.Ends id) : v'.ctx.conn? id = none := by
  -- over the path: the first act that ends it is either here or later
  induction h with
  | nil => simp at hends
  | cons enabled hrest ih =>
      have hlater := (List.forall_mem_cons.1 hopens).2
      have hw' := Act.orderly_run enabled hw
      obtain ⟨act, hmem, hact⟩ := hends
      rcases List.mem_cons.1 hmem with rfl | hmem
      · -- nothing brings it back after its end
        have hnone := Act.conn?_of_ends enabled hw hact
        rw [← Option.not_isSome_iff_eq_none]
        intro hlive
        have hback := hrest.live_of_live hw' hlater hlive
        rw [hnone] at hback
        cases hback
      · exact ih hw' hlater ⟨act, hmem, hact⟩

end ConnPool
