/-
  ConnPool.Proofs.Worker.Targets

  Towards what the sessions of a pool's connections were started.

  No record says towards what its session was started; only the trace does.  A
  connection serves the pool under a key if it belongs to the pool or is lent
  in its stead.  Lending and taking back pass a connection around between its
  pool and the pool's borrowers, so it matters only how connections come to
  serve a pool: they are opened for it, or opened and tagged in its stead, and
  both times towards the target that the pool is configured with.
-/

import ConnPool.Proofs.Worker.Course
import ConnPool.Proofs.Worker.Marking

namespace ConnPool

variable {ω ρ κ : Type}

/-- Whether a connection belongs to the pool under `key` or is lent in its
    stead. -/
def Connection.ServesFor (conn : Connection ρ κ) (key : PoolKey) : Prop :=
  conn.membership.pool? = some key ∨ (conn.membership = .registry ∧ conn.overflowOf = some key)

/-- A direct connection serves the pool whose tag it bears. -/
theorem Connection.ServesFor.overflowOf_eq {conn : Connection ρ κ} {key : PoolKey}
    (h : conn.ServesFor key) (hdirect : conn.membership = .registry) :
    conn.overflowOf = some key := by
  rcases h with hpool | ⟨-, htag⟩
  · rw [hdirect] at hpool
    cases hpool
  · exact htag

/-- A connection of a pool serves that pool. -/
theorem Connection.ServesFor.pool?_eq {conn : Connection ρ κ} {key : PoolKey}
    (h : conn.ServesFor key) (hpooled : conn.membership ≠ .registry) :
    conn.membership.pool? = some key :=
  h.resolve_right fun hdirect => hpooled hdirect.1

namespace View

/-- Whether `session` was started towards the target that the registry
    configures for `key`. -/
def AimsAt (v : View ρ κ) (session : SessionNo) (key : PoolKey) : Prop :=
  ∃ config, v.ctx.configs.get? key = some config ∧ .started session config.target ∈ v.trace

/-- The sessions of all connections that serve a pool were started towards its
    target. -/
def Aimed (v : View ρ κ) : Prop :=
  ∀ id conn key, v.ctx.conn? id = some conn → conn.ServesFor key → v.AimsAt conn.session key

theorem AimsAt.run {v : View ρ κ} {session : SessionNo} {key : PoolKey}
    (h : v.AimsAt session key) (act : Act ρ κ) : (act.run v).AimsAt session key := by
  obtain ⟨config, hconfig, hstarted⟩ := h
  refine ⟨config, ?_, List.mem_append_left _ hstarted⟩
  rw [Act.configs_run]
  exact hconfig

end View

/-! ## Acts -/

/-- Whether an act opens connections of pools only towards their targets, and
    lends none in a pool's stead. -/
def Act.AimsWell (configs : Registry) : Act ρ κ → Prop
  | opened _ target conn _ =>
    ∀ key, conn.membership.pool? = some key →
      ∃ config, configs.get? key = some config ∧ config.target = target
  | tagged .. => False
  | noted _ | asked .. | poolCreated .. | openFailed .. | openSpoiled .. | stepped .. | lent ..
  | takenBack .. | adopted .. | deferred .. | finished .. | poolsDropped => True

namespace Act

variable {v : View ρ κ} {act : Act ρ κ}

/-- A connection that is opened has its session started in the same act. -/
theorem started_mem_opened (id : ConnId) (target : Target) (conn : Connection ρ κ)
    (poll : PollReport) :
    .started conn.session target ∈ (opened id target conn poll).events :=
  List.mem_cons_self

/-- Connections that change hands keep the pool that they serve. -/
theorem aimed_run (enabled : act.Enabled v) (hw : v.ctx.Orderly)
    (haims : act.AimsWell v.ctx.configs) (h : v.Aimed) : (act.run v).Aimed := by
  intro other conn' key hconn' hserves
  rcases conn?_of_run enabled hw hconn' with hold | hchange
  · exact (h other conn' key hold hserves).run act
  · cases act with
    | noted _ | asked _ _ _ | poolCreated _ _ | openFailed _ _ _ _ | openSpoiled _ _ _
    | poolsDropped | finished _ _ _ => cases hchange
    | opened id target conn poll =>
        cases hchange
        -- a new record bears no tag, so that it is the membership that counts
        have hnone : conn.overflowOf = none := by rw [enabled.1]
        have hpool : conn.membership.pool? = some key := by
          refine hserves.pool?_eq fun hdirect => ?_
          cases hnone.symm.trans (hserves.overflowOf_eq hdirect)
        obtain ⟨config, hconfig, rfl⟩ := haims key hpool
        refine ⟨config, ?_, List.mem_append_right _ (started_mem_opened other _ conn poll)⟩
        rw [configs_run]
        exact hconfig
    | stepped id conn _ | deferred id conn _ =>
        cases hchange
        exact (h other conn key enabled.1 hserves).run _
    | lent id conn k _ _ _ | takenBack id conn k _ =>
        cases hchange
        refine (h other conn key enabled.1 (.inl ?_)).run _
        rw [enabled.2]
        exact hserves.pool?_eq Membership.noConfusion
    | adopted id conn k _ =>
        cases hchange
        obtain rfl : k = key := Option.some.inj (hserves.pool?_eq Membership.noConfusion)
        exact (h other conn k enabled.1 (.inr ⟨enabled.2.1, enabled.2.2.1⟩)).run _
    | tagged id conn k => exact haims.elim

/-- A connection lent in a pool's stead is to have been opened towards the
    pool's target. -/
theorem aimed_run_tagged {id : ConnId} {conn : Connection ρ κ} {key : PoolKey}
    (enabled : (Act.tagged id conn key).Enabled v) (hw : v.ctx.Orderly)
    (haims : v.AimsAt conn.session key) (h : v.Aimed) : ((Act.tagged id conn key).run v).Aimed := by
  intro other conn' k hconn' hserves
  rcases conn?_of_run enabled hw hconn' with hold | hchange
  · exact (h other conn' k hold hserves).run _
  · cases hchange
    obtain rfl : key = k := Option.some.inj (hserves.overflowOf_eq enabled.2.1)
    exact haims.run _

end Act

theorem Path.aimed {v v' : View ρ κ} {acts : List (Act ρ κ)} (h : Path v acts v')
    (hw : v.ctx.Orderly) (haims : ∀ act ∈ acts, act.AimsWell v.ctx.configs) (hv : v.Aimed) :
    v'.Aimed := by
  induction h with
  | nil => exact hv
  | @cons v v' act acts enabled _ ih =>
      obtain ⟨hact, hrest⟩ := List.forall_mem_cons.1 haims
      refine ih (Act.orderly_run enabled hw) ?_ (Act.aimed_run enabled hw hact hv)
      rw [Act.configs_run]
      exact hrest

/-! ## Pools -/

section

variable {ctx : Context ρ κ} {key : PoolKey} {config : PoolConfig} {pool : Pool}
  {acts : List (Act ρ κ)}

/-- A pool that is found is configured as the registry says. -/
theorem Finding.config_eq (h : Finding ctx key pool acts) (hctx : ctx.Configured) :
    ctx.configs.get? key = some pool.config := by
  cases h with
  | found pool hpool => exact hctx key pool.config (Context.poolConfig?_of_get? hpool)
  | created config hnone hconfig => exact hconfig

theorem Finding.aimsWell (h : Finding ctx key pool acts) (configs : Registry) :
    ∀ act ∈ acts, act.AimsWell configs := by
  cases h with
  | found pool hpool => exact List.forall_mem_nil _
  | created config hnone hconfig => exact List.forall_mem_singleton.2 trivial

/-- What a pool opens, it opens towards its own target. -/
theorem Growing.aimsWell {configs : Registry} {count : Nat} {ids : List ConnId}
    (h : Growing key config.target count ids acts) (hconfig : configs.get? key = some config) :
    ∀ act ∈ acts, act.AimsWell configs := by
  induction h with
  | done => exact List.forall_mem_nil _
  | opened id conn poll hidle hrest ih =>
      refine List.forall_mem_cons.2 ⟨fun k hk => ?_, ih⟩
      rw [hidle.1] at hk
      obtain rfl : key = k := Option.some.inj hk
      exact ⟨config, hconfig, rfl⟩
  | stopped count error act hopening record =>
      refine List.forall_mem_cons.2 ⟨?_, List.forall_mem_singleton.2 trivial⟩
      cases hopening with
      | unstarted _ _ _ | spoiled _ _ | failed _ _ _ _ _ _ _ _ => trivial

/-- An opening on nobody's pool. -/
theorem Opening.aimsWell {target : Target} {request : Option ρ} {onConnect : Option κ}
    {outcome : Except PoolError ConnId} {act : Act ρ κ}
    (h : Opening target request onConnect .registry outcome act) (configs : Registry) :
    act.AimsWell configs := by
  cases h with
  | opened id conn poll hrequest honConnect hmembership =>
      intro key hkey
      rw [hmembership] at hkey
      cases hkey
  | unstarted _ _ _ | spoiled _ _ | failed _ _ _ _ _ _ _ _ => trivial

/-- Whatever a pool answers, its connections and the one lent in its stead were
    started towards its target. -/
theorem Granting.aimed {request : Option ρ} {onConnect : Option κ}
    {outcome : Except PoolError ConnId} (h : Granting key config request onConnect outcome acts)
    {v v' : View ρ κ} (hpath : Path v acts v') (hw : v.ctx.Orderly)
    (hconfig : v.ctx.configs.get? key = some config) (hv : v.Aimed) : v'.Aimed := by
  cases h with
  | idle id conn load => exact hpath.aimed hw (List.forall_mem_singleton.2 trivial) hv
  | grown hgrowing record id conn load =>
      refine hpath.aimed hw (List.forall_mem_append.2 ⟨List.forall_mem_append.2
        ⟨hgrowing.aimsWell hconfig, ?_⟩, ?_⟩) hv
      · exact List.forall_mem_singleton.2 trivial
      · exact List.forall_mem_singleton.2 trivial
  | barren hgrowing record =>
      refine hpath.aimed hw (List.forall_mem_append.2 ⟨hgrowing.aimsWell hconfig, ?_⟩) hv
      exact List.forall_mem_singleton.2 trivial
  | refused record error act hopening =>
      refine hpath.aimed hw (List.forall_mem_cons.2 ⟨trivial, ?_⟩) hv
      exact List.forall_mem_singleton.2 (hopening.aimsWell _)
  | direct record id conn poll hopening =>
      -- the opening is aimed at nothing yet; the tag comes when the trace has its start
      rw [← List.singleton_append, List.append_cons] at hpath
      obtain ⟨v₁, hfirst, hlast⟩ := hpath.of_append
      have hv₁ : v₁.Aimed := by
        refine hfirst.aimed hw (List.forall_mem_cons.2 ⟨trivial, ?_⟩) hv
        exact List.forall_mem_singleton.2 (hopening.aimsWell _)
      have hstarted : .started conn.session config.target ∈ v₁.trace := by
        rw [hfirst.trace_eq]
        refine List.mem_append_right _ (List.mem_flatMap.2 ⟨_, ?_,
          Act.started_mem_opened id config.target conn poll⟩)
        exact List.mem_cons_of_mem _ List.mem_cons_self
      have hconfig₁ : v₁.ctx.configs.get? key = some config := by
        rw [hfirst.configs_eq]
        exact hconfig
      cases hlast with
      | cons enabled hnil =>
          cases hnil
          exact Act.aimed_run_tagged enabled (hfirst.orderly hw) ⟨config, hconfig₁, hstarted⟩ hv₁

end

/-! ## Operations -/

/-- An operation that neither acquires nor spawns opens nothing for a pool. -/
theorem Course.aimsWell {operation : Operation ρ κ} {answer : Answer} {acts : List (Act ρ κ)}
    (h : Course operation answer acts)
    (hacquire : ∀ key request onConnect, operation ≠ .acquire key request onConnect)
    (hspawn : ∀ key count, operation ≠ .spawn key count) (configs : Registry) :
    ∀ act ∈ acts, act.AimsWell configs := by
  intro act hmem
  have hbelongs := h.belongsTo act hmem
  cases h with
  | connect _ _ _ _ _ _ hopening | connectUri _ _ _ hopening =>
      obtain rfl := List.mem_singleton.1 hmem
      exact hopening.aimsWell configs
  | acquire hacquisition => exact absurd rfl (hacquire _ _ _)
  | spawn key count status acts hidle => exact absurd rfl (hspawn _ _)
  | misdirected _ _ _ _ _ _ => cases hmem
  | reclaim _ | unknown _ _ | deferred _ _ _ | disconnected _ _ _
  | advance _ _ _ | stale _ _ | asked _ _ _ _ _ | shutdown _ _ _ =>
      cases act with
      | opened id target conn poll => exact hbelongs.elim
      | tagged id conn key =>
          obtain ⟨request, onConnect, hoperation, -⟩ := hbelongs
          cases hoperation
      | noted _ | asked _ _ _ | poolCreated _ _ | openFailed _ _ _ _ | openSpoiled _ _ _
      | stepped _ _ _ | lent _ _ _ _ _ _ | takenBack _ _ _ _ | adopted _ _ _ _ | deferred _ _ _
      | finished _ _ _ | poolsDropped => trivial

namespace Worker

variable [Environment ω]

/-- Every operation aims the sessions that it starts for a pool at the pool's
    target. -/
theorem aimed_perform {w : Worker ω ρ κ} (operation : Operation ρ κ) (hw : w.ctx.Orderly)
    (hctx : w.ctx.Configured) (hv : w.view.Aimed)
    (ha : (w.perform operation).2.view.slotCount ≤ 2 ^ 32) :
    (w.perform operation).2.view.Aimed := by
  obtain ⟨acts, hcourse, hpath⟩ := perform_course hw (rfl : w.perform operation = (_, _)) ha
  cases operation with
  | acquire key request onConnect =>
      rcases hacquire : w.acquire key request onConnect with ⟨outcome, w'⟩
      rw [perform, hacquire] at ha ⊢
      rcases acquire_cases hw hacquire ha with
        ⟨-, rfl, -⟩ | ⟨pool, first, rest, hfinding, hgranting, hpath⟩
      · exact hv
      · obtain ⟨v₁, hfirst, hrest⟩ := hpath.of_append
        refine hgranting.aimed hrest (hfirst.orderly hw) ?_
          (hfirst.aimed hw (hfinding.aimsWell _) hv)
        rw [hfirst.configs_eq]
        exact hfinding.config_eq hctx
  | spawn key count =>
      rcases hspawn : w.spawn key count with ⟨status, w'⟩
      rw [perform, hspawn] at ha ⊢
      rcases spawn_cases hw hspawn ha with
        ⟨-, rfl, -⟩ | ⟨pool, first, ids, acts, record, hfinding, hgrowing, hpath, -⟩
      · exact hv
      · refine hpath.aimed hw (List.forall_mem_append.2
          ⟨hfinding.aimsWell _, List.forall_mem_append.2 ⟨?_, ?_⟩⟩) hv
        · exact hgrowing.aimsWell (hfinding.config_eq hctx)
        · exact List.forall_mem_singleton.2 trivial
  | connect _ _ _ _ _ | connectUri _ _ _ | reclaim _ | disconnect _ _ | advance _ _ | session _ _
  | shutdown =>
      refine hpath.aimed hw (hcourse.aimsWell ?_ ?_ _) hv
      · intro key request onConnect h
        cases h
      · intro key count h
        cases h

end Worker
end ConnPool
