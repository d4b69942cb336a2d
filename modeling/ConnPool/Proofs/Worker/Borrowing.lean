/-
  ConnPool.Proofs.Worker.Borrowing

  Which connections are lent, and what operations make of it.

  A connection is lent for a key if it is on the busy list of that pool, or if
  it is a direct one tagged with it.  An operation lends at most one
  connection, which nobody held before; besides, what was lent stays lent until
  it is taken back or is gone.
-/

import ConnPool.Proofs.Worker.Course

namespace ConnPool

variable {ρ κ : Type}

/-- Whether the connection is lent for `key`, by the pool or in its stead. -/
def Connection.LentFor (conn : Connection ρ κ) (key : PoolKey) : Prop :=
  conn.membership = .busy key ∨ (conn.membership = .registry ∧ conn.overflowOf = some key)

/-- Whether a live connection is lent for `key`. -/
def Context.Lent (ctx : Context ρ κ) (id : ConnId) (key : PoolKey) : Prop :=
  ∃ conn, ctx.conn? id = some conn ∧ conn.LentFor key

namespace Context

variable {ctx : Context ρ κ} {id : ConnId} {conn : Connection ρ κ} {key : PoolKey}

theorem Lent.live (h : ctx.Lent id key) : (ctx.conn? id).isSome := by
  obtain ⟨conn, hconn, -⟩ := h
  rw [hconn]
  rfl

theorem lent_of_conn? (h : ctx.conn? id = some conn) : ctx.Lent id key ↔ conn.LentFor key := by
  constructor
  · rintro ⟨conn', hconn, hlent⟩
    rw [h] at hconn
    obtain rfl := Option.some.inj hconn
    exact hlent
  · exact fun hlent => ⟨conn, h, hlent⟩

theorem not_lent_of_none (h : ctx.conn? id = none) : ¬ctx.Lent id key := by
  rintro ⟨conn, hconn, -⟩
  rw [h] at hconn
  cases hconn

theorem lent_congr {ctx' : Context ρ κ} (h : ctx'.conn? id = ctx.conn? id) :
    ctx'.Lent id key ↔ ctx.Lent id key := by
  rw [Lent, Lent, h]

end Context

/-! ## Records -/

namespace Connection

variable {conn : Connection ρ κ} {key other : PoolKey}

theorem not_lentFor_of_free (h : conn.membership = .free key) : ¬conn.LentFor other := by
  rintro (hbusy | ⟨hregistry, -⟩)
  · rw [h] at hbusy
    cases hbusy
  · rw [h] at hregistry
    cases hregistry

theorem not_lentFor_untagged (hmembership : ∀ key, conn.membership ≠ .busy key)
    (h : conn.overflowOf = none) : ¬conn.LentFor other := by
  rintro (hbusy | ⟨-, htag⟩)
  · exact hmembership other hbusy
  · rw [h] at htag
    cases htag

theorem lentFor_of_busy (h : conn.membership = .busy key) : conn.LentFor other ↔ key = other := by
  rw [LentFor, h]
  simp

theorem lentFor_of_tagged (hmembership : conn.membership = .registry)
    (htag : conn.overflowOf = some key) : conn.LentFor other ↔ key = other := by
  rw [LentFor, hmembership, htag]
  simp

end Connection

/-! ## Changes -/

namespace Context

variable {ctx ctx' : Context ρ κ} {id i : ConnId} {conn conn' : Connection ρ κ} {key k : PoolKey}

/-- A record that an act leaves lent for the same keys. -/
theorem lent_iff_of_change
    (hchange : ctx'.conn? id = if id = i then some conn' else ctx.conn? id)
    (hconn : ctx.conn? i = some conn) (hsame : conn'.LentFor key ↔ conn.LentFor key) :
    ctx'.Lent id key ↔ ctx.Lent id key := by
  split at hchange
  · rename_i heq
    subst heq
    rw [lent_of_conn? hchange, lent_of_conn? hconn]
    exact hsame
  · exact lent_congr hchange

/-- A record that was not lent is lent for `k` by an act. -/
theorem lent_iff_of_lend
    (hchange : ctx'.conn? id = if id = i then some conn' else ctx.conn? id)
    (hconn : ctx.conn? i = some conn) (hbefore : ¬conn.LentFor key)
    (hafter : conn'.LentFor key ↔ k = key) :
    ctx'.Lent id key ↔ (i = id ∧ k = key) ∨ ctx.Lent id key := by
  split at hchange
  · rename_i heq
    subst heq
    rw [lent_of_conn? hchange, lent_of_conn? hconn, hafter]
    simp [hbefore]
  · rename_i hne
    rw [lent_congr hchange]
    simp [Ne.symm hne]

/-- A record that an act leaves lent to nobody, or takes out. -/
theorem lent_iff_of_drop {conn? : Option (Connection ρ κ)}
    (hchange : ctx'.conn? id = if id = i then conn? else ctx.conn? id)
    (hafter : ∀ conn' ∈ conn?, ¬conn'.LentFor key) :
    ctx'.Lent id key ↔ ctx.Lent id key ∧ ¬i = id := by
  split at hchange
  · rename_i heq
    subst heq
    constructor
    · rintro ⟨conn', hconn', hlent⟩
      rw [hchange] at hconn'
      exact absurd hlent (hafter conn' hconn')
    · exact fun h => absurd rfl h.2
  · rename_i hne
    rw [lent_congr hchange]
    simp [Ne.symm hne]

end Context

/-! ## Acts -/

namespace Act

/-- Whether an act lends the connection under `id` for `key`. -/
def Lends (id : ConnId) (key : PoolKey) : Act ρ κ → Prop
  | lent i _ k _ _ _ | tagged i _ k => i = id ∧ k = key
  | noted _ | asked .. | poolCreated .. | opened .. | openFailed .. | openSpoiled .. | stepped ..
  | takenBack .. | adopted .. | deferred .. | finished .. | poolsDropped => False

/-- Whether an act takes the connection under `id` back. -/
def TakesBack (id : ConnId) : Act ρ κ → Prop
  | takenBack i _ _ _ | adopted i _ _ _ => i = id
  | noted _ | asked .. | poolCreated .. | opened .. | openFailed .. | openSpoiled .. | stepped ..
  | lent .. | tagged .. | deferred .. | finished .. | poolsDropped => False

variable {v : View ρ κ} {act : Act ρ κ} {id : ConnId} {key : PoolKey}

/-- What an act makes of what is lent. -/
theorem lent_run (enabled : act.Enabled v) (hw : v.ctx.Orderly) :
    (act.run v).ctx.Lent id key ↔
      act.Lends id key ∨ (v.ctx.Lent id key ∧ ¬act.TakesBack id ∧ ¬act.Ends id) := by
  have hrun := conn?_run enabled hw id
  cases act with
  | noted _ | asked _ _ _ | poolCreated _ _ | openFailed _ _ _ _ | openSpoiled _ _ _
  | poolsDropped => simp [Context.lent_congr hrun, Lends, TakesBack, Ends]
  | opened i target conn poll =>
      obtain ⟨hnew, -, -, hid, hopen, -, ha⟩ := enabled
      -- nobody can have held what was not there, and a new record has no tag
      have hnone : v.ctx.conn? i = none := hid ▸ Context.conn?_nextId hw.arena ha
      have hfresh : ¬(conn.stepped poll).LentFor key :=
        Connection.not_lentFor_untagged hopen.ne_busy (by
          show conn.overflowOf = none
          rw [hnew])
      rw [Context.lent_iff_of_drop hrun (by rintro conn' ⟨⟩; exact hfresh)]
      simp only [Lends, TakesBack, Ends, false_or, not_false_iff, and_true, and_iff_left_iff_imp]
      rintro hlent rfl
      exact Context.not_lent_of_none hnone hlent
  | stepped i conn poll =>
      rw [Context.lent_iff_of_change hrun enabled.1 Iff.rfl]
      simp [Lends, TakesBack, Ends]
  | lent i conn k request onConnect load =>
      rw [Context.lent_iff_of_lend hrun enabled.1 (Connection.not_lentFor_of_free enabled.2)
        (Connection.lentFor_of_busy rfl)]
      simp [Lends, TakesBack, Ends]
  | takenBack i conn k _ | adopted i conn k _ =>
      rw [Context.lent_iff_of_drop hrun]
      · simp [Lends, TakesBack, Ends]
      · rintro conn' ⟨⟩
        exact Connection.not_lentFor_of_free rfl
  | tagged i conn k =>
      obtain ⟨hconn, hmembership, hnone, -⟩ := enabled
      -- a direct connection counts as lent only with its tag
      have hidle : ¬conn.LentFor key :=
        Connection.not_lentFor_untagged (by simp [hmembership]) hnone
      rw [Context.lent_iff_of_lend hrun hconn hidle (Connection.lentFor_of_tagged hmembership rfl)]
      simp [Lends, TakesBack, Ends]
  | deferred i conn onDisconnect =>
      rw [Context.lent_iff_of_change hrun enabled.1 Iff.rfl]
      simp [Lends, TakesBack, Ends]
  | finished i conn ending =>
      rw [Context.lent_iff_of_drop hrun (by simp)]
      simp [Lends, TakesBack, Ends]

/-- An act lends only what nobody holds. -/
theorem not_lent_of_lends (enabled : act.Enabled v) (h : act.Lends id key) (other : PoolKey) :
    ¬v.ctx.Lent id other := by
  cases act with
  | lent i conn k request onConnect load =>
      obtain ⟨rfl, -⟩ := h
      rw [Context.lent_of_conn? enabled.1]
      exact Connection.not_lentFor_of_free enabled.2
  | tagged i conn k =>
      obtain ⟨rfl, -⟩ := h
      obtain ⟨hconn, hmembership, hnone, -⟩ := enabled
      rw [Context.lent_of_conn? hconn]
      exact Connection.not_lentFor_untagged (by simp [hmembership]) hnone
  | noted _ | asked _ _ _ | poolCreated _ _ | opened _ _ _ _ | openFailed _ _ _ _
  | openSpoiled _ _ _ | stepped _ _ _ | takenBack _ _ _ _ | adopted _ _ _ _ | deferred _ _ _
  | finished _ _ _ | poolsDropped => exact h.elim

end Act

/-! ## Paths -/

namespace Path

variable {v v' : View ρ κ} {acts : List (Act ρ κ)} {id : ConnId} {key : PoolKey}

/-- Along acts that lend nothing, what is lent is held until it is taken back
    or ended. -/
theorem lent_iff_of_not_lends (h : Path v acts v') (hw : v.ctx.Orderly)
    (hlends : ∀ act ∈ acts, ¬act.Lends id key) :
    v'.ctx.Lent id key ↔
      v.ctx.Lent id key ∧ ∀ act ∈ acts, ¬act.TakesBack id ∧ ¬act.Ends id := by
  induction h with
  | nil => simp
  | cons enabled _ ih =>
      obtain ⟨hact, hrest⟩ := List.forall_mem_cons.1 hlends
      rw [ih (Act.orderly_run enabled hw) hrest, Act.lent_run enabled hw, List.forall_mem_cons]
      simp only [hact, false_or]
      exact and_assoc

/-- Along acts that neither take back nor end, what is lent is held, and more is
    lent. -/
theorem lent_iff_of_not_drops (h : Path v acts v') (hw : v.ctx.Orderly)
    (hdrops : ∀ act ∈ acts, ¬act.TakesBack id ∧ ¬act.Ends id) :
    v'.ctx.Lent id key ↔ (∃ act ∈ acts, act.Lends id key) ∨ v.ctx.Lent id key := by
  induction h with
  | nil => simp
  | cons enabled _ ih =>
      obtain ⟨hact, hrest⟩ := List.forall_mem_cons.1 hdrops
      rw [ih (Act.orderly_run enabled hw) hrest, Act.lent_run enabled hw]
      simp only [hact, not_false_iff, and_true, List.mem_cons, exists_eq_or_imp, or_assoc,
        or_left_comm]

/-- What acts lend that take nothing back, nobody held before them. -/
theorem not_lent_of_lends (h : Path v acts v') (hw : v.ctx.Orderly)
    (hdrops : ∀ act ∈ acts, ¬act.TakesBack id ∧ ¬act.Ends id)
    (hlends : ∃ act ∈ acts, act.Lends id key) (other : PoolKey) : ¬v.ctx.Lent id other := by
  induction h with
  | nil => simp at hlends
  | cons enabled _ ih =>
      obtain ⟨hact, hrest⟩ := List.forall_mem_cons.1 hdrops
      simp only [List.mem_cons, exists_eq_or_imp] at hlends
      rcases hlends with hfirst | hlater
      · exact Act.not_lent_of_lends enabled hfirst other
      · intro hlent
        refine ih (Act.orderly_run enabled hw) hrest hlater ?_
        exact (Act.lent_run enabled hw).2 (.inr ⟨hlent, hact⟩)

end Path

/-! ## Operations -/

/-- Whether an operation lent the connection under `id` for `key`. -/
def Operation.Lends (operation : Operation ρ κ) (answer : Answer) (id : ConnId) (key : PoolKey) :
    Prop :=
  ∃ request onConnect, operation = .acquire key request onConnect ∧ answer = .opened (.ok id)

/-- Whether an operation took the connection under `id` back. -/
def Operation.TakesBack (operation : Operation ρ κ) (answer : Answer) (id : ConnId) : Prop :=
  operation = .reclaim id ∧ answer = .status (.ok ())

namespace Act.BelongsTo

variable {operation : Operation ρ κ} {answer : Answer} {act : Act ρ κ} {id : ConnId}
  {key : PoolKey}

theorem lends (h : act.BelongsTo operation answer) (hlends : act.Lends id key) :
    operation.Lends answer id key := by
  cases act with
  | lent i conn k request onConnect load =>
      obtain ⟨rfl, rfl⟩ := hlends
      exact ⟨request, onConnect, h.1, h.2⟩
  | tagged i conn k =>
      obtain ⟨rfl, rfl⟩ := hlends
      exact h
  | noted _ | asked _ _ _ | poolCreated _ _ | opened _ _ _ _ | openFailed _ _ _ _
  | openSpoiled _ _ _ | stepped _ _ _ | takenBack _ _ _ _ | adopted _ _ _ _ | deferred _ _ _
  | finished _ _ _ | poolsDropped => exact hlends.elim

theorem takesBack (h : act.BelongsTo operation answer) (htakes : act.TakesBack id) :
    operation.TakesBack answer id := by
  cases act with
  | takenBack i conn k load | adopted i conn k size =>
      obtain rfl : i = id := htakes
      exact h
  | noted _ | asked _ _ _ | poolCreated _ _ | opened _ _ _ _ | openFailed _ _ _ _
  | openSpoiled _ _ _ | stepped _ _ _ | lent _ _ _ _ _ _ | tagged _ _ _ | deferred _ _ _
  | finished _ _ _ | poolsDropped => exact htakes.elim

end Act.BelongsTo

namespace Course

variable {operation : Operation ρ κ} {answer : Answer} {acts : List (Act ρ κ)} {id : ConnId}
  {key : PoolKey}

/-- What the acts of an operation lend is what it answers. -/
theorem lends_iff (h : Course operation answer acts) :
    (∃ act ∈ acts, act.Lends id key) ↔ operation.Lends answer id key := by
  constructor
  · rintro ⟨act, hmem, hlends⟩
    exact (h.belongsTo act hmem).lends hlends
  · rintro ⟨request, onConnect, rfl, rfl⟩
    cases h with
    | acquire hacquisition =>
        cases hacquisition with
        | lent acts hidle i conn load =>
            exact ⟨_, List.mem_append_right _ List.mem_cons_self, rfl, rfl⟩
        | direct acts hidle i target conn poll hopening =>
            exact ⟨_, List.mem_append_right _ (List.mem_cons_of_mem _ List.mem_cons_self), rfl, rfl⟩

/-- A reclaim that is answered takes back, or ends. -/
theorem drops_of_takesBack (h : Course operation answer acts)
    (htakes : operation.TakesBack answer id) :
    ∃ act ∈ acts, act.TakesBack id ∨ act.Ends id := by
  obtain ⟨rfl, rfl⟩ := htakes
  cases h with
  | reclaim hreclaiming =>
      cases hreclaiming with
      | takenBack conn key load acts hshrinks | adopted conn key size acts hshrinks =>
          exact ⟨_, List.mem_cons_self, .inl rfl⟩
      | dismissed conn key => exact ⟨_, List.mem_cons_self, .inr rfl⟩

/-- An operation that provides neither takes back nor ends. -/
theorem not_drops (h : Course operation answer acts) (hprovides : operation.Provides) :
    ∀ act ∈ acts, ¬act.TakesBack id ∧ ¬act.Ends id := by
  intro act hmem
  refine ⟨fun htakes => ?_, (h.belongsTo act hmem).not_ends hprovides id⟩
  obtain ⟨rfl, -⟩ := (h.belongsTo act hmem).takesBack htakes
  exact hprovides

/-- An operation that does not provide lends nothing. -/
theorem not_lends (h : Course operation answer acts) (hnot : ¬operation.Provides) :
    ∀ act ∈ acts, ¬act.Lends id key := by
  intro act hmem hlends
  obtain ⟨request, onConnect, rfl, -⟩ := (h.belongsTo act hmem).lends hlends
  exact hnot trivial

/-- What an operation makes of what is lent. -/
theorem lent_iff {v v' : View ρ κ} (h : Course operation answer acts) (hpath : Path v acts v')
    (hw : v.ctx.Orderly) :
    v'.ctx.Lent id key ↔
      operation.Lends answer id key ∨
        (v.ctx.Lent id key ∧ ¬operation.TakesBack answer id ∧ (v'.ctx.conn? id).isSome) := by
  -- an operation that provides drops nothing, and any other one lends nothing
  by_cases hprovides : operation.Provides
  · have hlent : v'.ctx.Lent id key ↔ operation.Lends answer id key ∨ v.ctx.Lent id key := by
      rw [← h.lends_iff]
      exact hpath.lent_iff_of_not_drops hw (h.not_drops hprovides)
    have hback : ¬operation.TakesBack answer id := by
      rintro ⟨rfl, -⟩
      exact hprovides
    constructor
    · intro hafter
      exact (hlent.1 hafter).imp_right fun hbefore => ⟨hbefore, hback, hafter.live⟩
    · intro hor
      exact hlent.2 (hor.imp_right And.left)
  · have hlent : v'.ctx.Lent id key ↔ _ := hpath.lent_iff_of_not_lends hw (h.not_lends hprovides)
    rw [← h.lends_iff, hlent]
    constructor
    · rintro ⟨hbefore, hnone⟩
      refine .inr ⟨hbefore, fun htakes => ?_, (hlent.2 ⟨hbefore, hnone⟩).live⟩
      obtain ⟨act, hmem, hact⟩ := h.drops_of_takesBack htakes
      exact hact.elim (hnone act hmem).1 (hnone act hmem).2
    · rintro (⟨act, hmem, hact⟩ | ⟨hbefore, hback, hlive⟩)
      · exact absurd hact (h.not_lends hprovides act hmem)
      · refine ⟨hbefore, fun act hmem => ⟨fun hact => ?_, ?_⟩⟩
        · exact hback ((h.belongsTo act hmem).takesBack hact)
        · exact h.not_ends_of_live hpath hw hlive act hmem

/-- What an operation lends, nobody held before it. -/
theorem not_lent_of_lends {v v' : View ρ κ} (h : Course operation answer acts)
    (hpath : Path v acts v') (hw : v.ctx.Orderly) (hlends : operation.Lends answer id key)
    (other : PoolKey) : ¬v.ctx.Lent id other := by
  have hprovides : operation.Provides := by
    obtain ⟨request, onConnect, rfl, -⟩ := hlends
    trivial
  exact hpath.not_lent_of_lends hw (h.not_drops hprovides) (h.lends_iff.2 hlends) other

end Course

end ConnPool
