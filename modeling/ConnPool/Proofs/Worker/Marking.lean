/-
  ConnPool.Proofs.Worker.Marking

  What records and pools say of each other.

  A connection that was lent in the stead of a pool is marked with its key.
  Only direct connections bear such a mark, and the pool that they are marked
  with exists; so whatever is lent or idle in a pool bears none.  Pools are
  configured as the registry says, which never changes.
-/

import ConnPool.Proofs.Worker.Act

namespace ConnPool

variable {ρ κ : Type}

/-! ## Marks -/

/-- Connections marked with the key of a pool are direct ones, and the pool
    exists. -/
def Context.Marked (ctx : Context ρ κ) : Prop :=
  ∀ id conn key, ctx.conn? id = some conn → conn.overflowOf = some key →
    conn.membership = .registry ∧ (ctx.poolConfig? key).isSome

/-- What is idle in a pool or lent by it bears no mark. -/
theorem Context.Marked.overflowOf_eq_none {ctx : Context ρ κ} (h : ctx.Marked) {id : ConnId}
    {conn : Connection ρ κ} (hconn : ctx.conn? id = some conn) {key : PoolKey}
    (hpool : conn.membership.pool? = some key) : conn.overflowOf = none := by
  cases hmark : conn.overflowOf with
  | none => rfl
  | some other =>
      rw [(h id conn other hconn hmark).1] at hpool
      cases hpool

/-- The pool that a connection is marked with survives all acts that leave
    the connection alive. -/
theorem Act.poolConfig?_of_live {v : View ρ κ} {act : Act ρ κ} (enabled : act.Enabled v)
    {id : ConnId} (hlive : (v.ctx.conn? id).isSome) {key : PoolKey}
    (h : (v.ctx.poolConfig? key).isSome) : ((act.run v).ctx.poolConfig? key).isSome := by
  obtain ⟨config, hconfig⟩ := Option.isSome_iff_exists.1 h
  have hdrop : act ≠ .poolsDropped := by
    rintro rfl
    -- pools are dropped only when nothing is alive
    rw [enabled id] at hlive
    cases hlive
  rw [poolConfig?_run enabled hdrop hconfig]
  rfl

/-- Every act keeps the marks right. -/
theorem Act.marked_run {v : View ρ κ} {act : Act ρ κ} (enabled : act.Enabled v)
    (hw : v.ctx.Orderly) (h : v.ctx.Marked) : (act.run v).ctx.Marked := by
  intro other conn' key hconn' hmark
  have hkeeps : ∀ conn, v.ctx.conn? other = some conn → conn.overflowOf = some key →
      conn.membership = .registry ∧ ((act.run v).ctx.poolConfig? key).isSome := by
    intro conn hconn hold
    obtain ⟨hdirect, hpool⟩ := h other conn key hconn hold
    exact ⟨hdirect, poolConfig?_of_live enabled (Option.isSome_of_eq_some hconn) hpool⟩
  rcases conn?_of_run enabled hw hconn' with hold | hchange
  · exact hkeeps conn' hold hmark
  · cases act with
    | noted _ | asked _ _ _ | poolCreated _ _ | openFailed _ _ _ _ | openSpoiled _ _ _
    | poolsDropped | finished _ _ _ => cases hchange
    | opened id target conn poll =>
        cases hchange
        -- a new connection bears no mark
        have hnone : conn.overflowOf = none := by rw [enabled.1]
        cases hnone.symm.trans hmark
    | stepped id conn _ | deferred id conn _ =>
        cases hchange
        exact hkeeps conn enabled.1 hmark
    | lent id conn k request onConnect load =>
        cases hchange
        have hidle := (hkeeps conn enabled.1 hmark).1
        rw [enabled.2] at hidle
        cases hidle
    | takenBack id conn k load =>
        cases hchange
        have hlent := (hkeeps conn enabled.1 hmark).1
        rw [enabled.2] at hlent
        cases hlent
    | adopted id conn k size =>
        cases hchange
        cases hmark
    | tagged id conn k =>
        cases hchange
        obtain rfl : k = key := Option.some.inj hmark
        have hlive := Option.isSome_of_eq_some enabled.1
        exact ⟨enabled.2.1, poolConfig?_of_live enabled hlive enabled.2.2.2⟩

theorem Path.marked {v v' : View ρ κ} {acts : List (Act ρ κ)} (h : Path v acts v')
    (hw : v.ctx.Orderly) (hv : v.ctx.Marked) : v'.ctx.Marked := by
  induction h with
  | nil => exact hv
  | cons enabled _ ih => exact ih (Act.orderly_run enabled hw) (Act.marked_run enabled hw hv)

/-! ## Configurations -/

/-- Every pool is configured as the registry says. -/
def Context.Configured (ctx : Context ρ κ) : Prop :=
  ∀ key config, ctx.poolConfig? key = some config → ctx.configs.get? key = some config

namespace Context

@[simp] theorem configs_enlist (ctx : Context ρ κ) (id : ConnId) (membership : Membership) :
    (ctx.enlist id membership).configs = ctx.configs := by
  cases membership <;> rfl

@[simp] theorem configs_strike (ctx : Context ρ κ) (id : ConnId) (membership : Membership) :
    (ctx.strike id membership).configs = ctx.configs := by
  cases membership <;> rfl

end Context

/-- No act changes the registry of configurations. -/
theorem Act.configs_run (v : View ρ κ) (act : Act ρ κ) :
    (act.run v).ctx.configs = v.ctx.configs := by
  rw [run]
  cases act with
  | noted _ | asked _ _ _ | openSpoiled _ _ _ | poolCreated _ _ | openFailed _ _ _ _
  | stepped _ _ _ | tagged _ _ _ | deferred _ _ _ | poolsDropped => rfl
  | opened _ _ conn poll => exact Context.configs_enlist _ _ _
  | finished id conn _ => exact Context.configs_strike _ _ _
  | lent id conn key request onConnect _ =>
      exact (Context.configs_enlist _ _ _).trans (Context.configs_strike _ _ _)
  | takenBack id conn key _ =>
      exact (Context.configs_enlist _ _ _).trans (Context.configs_strike _ _ _)
  | adopted id conn key _ =>
      exact (Context.configs_enlist _ _ _).trans (Context.configs_strike _ _ _)

/-- A pool that is there after an act was there before, or was created by it
    from the registry. -/
theorem Act.poolConfig?_of_run {v : View ρ κ} {act : Act ρ κ} {key : PoolKey} {config : PoolConfig}
    (h : (act.run v).ctx.poolConfig? key = some config) :
    v.ctx.poolConfig? key = some config ∨ act = .poolCreated key config := by
  rw [run] at h
  cases act with
  | noted _ | asked _ _ _ | openSpoiled _ _ _ | openFailed _ _ _ _ | stepped _ _ _
  | deferred _ _ _ => exact .inl h
  | poolCreated k c =>
      by_cases hk : key = k
      · subst hk
        simp only [apply, Context.poolConfig?, KeyMap.get?_insert_self, Option.map_some,
          Option.some.injEq] at h
        rw [h]
        exact .inr rfl
      · refine .inl ?_
        rw [← h, Context.poolConfig?, Context.poolConfig?, apply, KeyMap.get?_insert_of_ne _ hk]
  | opened _ _ conn poll => exact .inl ((Context.poolConfig?_takeIn v.ctx _ key).symm.trans h)
  | lent id conn _ _ _ _ | takenBack id conn _ _ | adopted id conn _ _ =>
      exact .inl ((Context.poolConfig?_transfer v.ctx id conn _ key).symm.trans h)
  | tagged id conn k =>
      have hsame : (apply v.ctx (.tagged id conn k)).poolConfig? key = v.ctx.poolConfig? key :=
        Context.poolConfig?_modifyPool
          (f := fun pool => { pool with overflowCount := pool.overflowCount + 1 })
          (fun _ => rfl) key
      exact .inl (hsame.symm.trans h)
  | finished id conn _ => exact .inl ((Context.poolConfig?_without v.ctx id conn key).symm.trans h)
  | poolsDropped => cases h

/-- A pool that a path leaves behind and did not find was created on the way. -/
theorem Path.poolCreated_mem {v v' : View ρ κ} {acts : List (Act ρ κ)} (h : Path v acts v')
    {key : PoolKey} (hnone : v.ctx.poolConfig? key = none)
    (hsome : (v'.ctx.poolConfig? key).isSome) : ∃ config, .poolCreated key config ∈ acts := by
  induction h with
  | nil =>
      rw [hnone] at hsome
      cases hsome
  | @cons v v' act acts _ _ ih =>
      cases hnext : (act.run v).ctx.poolConfig? key with
      | none =>
          obtain ⟨config, hmem⟩ := ih hnext hsome
          exact ⟨config, List.mem_cons_of_mem _ hmem⟩
      | some config =>
          rcases Act.poolConfig?_of_run hnext with hold | rfl
          · rw [hnone] at hold
            cases hold
          · exact ⟨config, List.mem_cons_self⟩

theorem Act.configured_run {v : View ρ κ} {act : Act ρ κ} (enabled : act.Enabled v)
    (h : v.ctx.Configured) : (act.run v).ctx.Configured := by
  intro key config hconfig
  rw [configs_run]
  rcases poolConfig?_of_run hconfig with hold | rfl
  · exact h key config hold
  · exact enabled.2

theorem Path.configs_eq {v v' : View ρ κ} {acts : List (Act ρ κ)} (h : Path v acts v') :
    v'.ctx.configs = v.ctx.configs :=
  h.keeps (P := fun u => u.ctx.configs = v.ctx.configs)
    (fun u act _ hsame => (Act.configs_run u act).trans hsame) rfl

theorem Path.configured {v v' : View ρ κ} {acts : List (Act ρ κ)} (h : Path v acts v')
    (hv : v.ctx.Configured) : v'.ctx.Configured :=
  h.keeps (P := fun u => u.ctx.Configured) (fun _ _ => Act.configured_run) hv

end ConnPool
