/-
  ConnPool.Proofs.Worker.Frame

  What acts leave alone.

  An act touches the instance of one pool at most, and changes the record of
  one connection at most; which ones is read off the act.  A path leaves alone
  what none of its acts touches.  Openings that fail touch nothing at all:
  what they put in, they take out again.
-/

import ConnPool.Proofs.Worker.Course
import ConnPool.Proofs.Worker.Resources

namespace ConnPool

variable {ω ρ κ : Type}

/-! ## Pools -/

/-- Whether an act may change the instance of the pool under `key`. -/
def Act.Touches (key : PoolKey) : Act ρ κ → Prop
  | poolCreated k _ | lent _ _ k _ _ _ | takenBack _ _ k _ | adopted _ _ k _ | tagged _ _ k =>
    k = key
  | opened _ _ conn _ | finished _ conn _ => conn.membership.pool? = some key
  | poolsDropped => True
  | noted _ | asked .. | openFailed .. | openSpoiled .. | stepped .. | deferred .. => False

namespace Context

variable {ctx : Context ρ κ} {key : PoolKey} {membership : Membership}

theorem get?_modifyPool_of_ne {k : PoolKey} (h : k ≠ key) (f : Pool → Pool) :
    (ctx.modifyPool k f).pools.get? key = ctx.pools.get? key := by
  rw [modifyPool, KeyMap.get?_modify, if_neg (Ne.symm h)]

theorem get?_enlist_of_ne (id : ConnId) (h : membership.pool? ≠ some key) :
    (ctx.enlist id membership).pools.get? key = ctx.pools.get? key := by
  cases membership with
  | registry => rfl
  | free k | busy k => exact get?_modifyPool_of_ne (fun heq => h (congrArg some heq)) _

theorem get?_strike_of_ne (id : ConnId) (h : membership.pool? ≠ some key) :
    (ctx.strike id membership).pools.get? key = ctx.pools.get? key := by
  cases membership with
  | registry => rfl
  | free k | busy k => exact get?_modifyPool_of_ne (fun heq => h (congrArg some heq)) _

/-- A transfer between collections of other pools. -/
theorem get?_transfer_of_ne {id : ConnId} {conn : Connection ρ κ}
    {f : Connection ρ κ → Connection ρ κ} (hold : conn.membership.pool? ≠ some key)
    (hnew : (f conn).membership.pool? ≠ some key) :
    (ctx.transfer id conn f).pools.get? key = ctx.pools.get? key := by
  rw [transfer, get?_enlist_of_ne id hnew, get?_strike_of_ne id hold]
  rfl

end Context

/-- An act leaves every pool alone that it does not touch. -/
theorem Act.get?_run {v : View ρ κ} {act : Act ρ κ} (enabled : act.Enabled v) {key : PoolKey}
    (h : ¬act.Touches key) : (act.run v).ctx.pools.get? key = v.ctx.pools.get? key := by
  rw [run]
  cases act with
  | noted _ | asked _ _ _ | openSpoiled _ _ _ | openFailed _ _ _ _ | stepped _ _ _
  | deferred _ _ _ => rfl
  | poolCreated k config => exact KeyMap.get?_insert_of_ne _ (Ne.symm h) _
  | opened id target conn poll => exact Context.get?_enlist_of_ne _ h
  | lent id conn k request onConnect load =>
      refine Context.get?_transfer_of_ne ?_ fun heq => h (Option.some.inj heq)
      rw [enabled.2]
      exact fun heq => h (Option.some.inj heq)
  | takenBack id conn k load =>
      refine Context.get?_transfer_of_ne ?_ fun heq => h (Option.some.inj heq)
      rw [enabled.2]
      exact fun heq => h (Option.some.inj heq)
  | adopted id conn k size =>
      refine Context.get?_transfer_of_ne ?_ fun heq => h (Option.some.inj heq)
      rw [enabled.2.1]
      exact (Option.some_ne_none key).symm
  | tagged id conn k => exact Context.get?_modifyPool_of_ne h _
  | finished id conn ending => exact Context.get?_strike_of_ne _ h
  | poolsDropped => exact absurd trivial h

/-- An idle act touches the pool that it prepares, and no other. -/
theorem Act.Idle.eq_of_touches {key other : PoolKey} {act : Act ρ κ} (h : act.Idle key)
    (htouches : act.Touches other) : other = key := by
  cases act with
  | poolCreated k config => exact htouches.symm.trans h
  | opened id target conn poll =>
      rw [Act.Touches, h.1] at htouches
      exact (Option.some.inj htouches).symm
  | noted _ | openFailed _ _ _ _ | openSpoiled _ _ _ => exact htouches.elim
  | asked _ _ _ | stepped _ _ _ | lent _ _ _ _ _ _ | takenBack _ _ _ _ | adopted _ _ _ _
  | tagged _ _ _ | deferred _ _ _ | finished _ _ _ | poolsDropped => exact h.elim

/-! ## Paths -/

namespace Path

variable {v v' : View ρ κ} {acts : List (Act ρ κ)}

theorem get?_eq (h : Path v acts v') {key : PoolKey} (htouches : ∀ act ∈ acts, ¬act.Touches key) :
    v'.ctx.pools.get? key = v.ctx.pools.get? key := by
  induction h with
  | nil => rfl
  | cons enabled _ ih =>
      obtain ⟨hact, hrest⟩ := List.forall_mem_cons.1 htouches
      rw [ih hrest, Act.get?_run enabled hact]

/-- A record that no act changes stays as it is. -/
theorem conn?_eq (h : Path v acts v') (hw : v.ctx.Orderly) {id : ConnId}
    (hchange : ∀ act ∈ acts, act.change.map Prod.fst ≠ some id) :
    v'.ctx.conn? id = v.ctx.conn? id := by
  induction h with
  | nil => rfl
  | @cons v v' act acts enabled _ ih =>
      obtain ⟨hact, hrest⟩ := List.forall_mem_cons.1 hchange
      rw [ih (Act.orderly_run enabled hw) hrest, Act.conn?_run_of_ne enabled hw hact]

end Path

/-! ## Openings that fail -/

/-- Whether an act leaves nothing behind: something is noted, or an opening
    fails. -/
def Act.LeavesNothing : Act ρ κ → Prop
  | noted _ | openFailed .. | openSpoiled .. => True
  | asked .. | poolCreated .. | opened .. | stepped .. | lent .. | takenBack .. | adopted ..
  | tagged .. | deferred .. | finished .. | poolsDropped => False

namespace Act.LeavesNothing

variable {act : Act ρ κ}

theorem not_touches (h : act.LeavesNothing) (key : PoolKey) : ¬act.Touches key := by
  cases act with
  | noted _ | openFailed _ _ _ _ | openSpoiled _ _ _ => exact fun htouches => htouches
  | asked _ _ _ | poolCreated _ _ | opened _ _ _ _ | stepped _ _ _ | lent _ _ _ _ _ _
  | takenBack _ _ _ _ | adopted _ _ _ _ | tagged _ _ _ | deferred _ _ _ | finished _ _ _
  | poolsDropped => exact h.elim

theorem change_eq_none (h : act.LeavesNothing) : act.change = none := by
  cases act with
  | noted _ | openFailed _ _ _ _ | openSpoiled _ _ _ => rfl
  | asked _ _ _ | poolCreated _ _ | opened _ _ _ _ | stepped _ _ _ | lent _ _ _ _ _ _
  | takenBack _ _ _ _ | adopted _ _ _ _ | tagged _ _ _ | deferred _ _ _ | finished _ _ _
  | poolsDropped => exact h.elim

theorem registry_run (h : act.LeavesNothing) (v : View ρ κ) :
    (act.run v).ctx.registry = v.ctx.registry := by
  cases act with
  | noted _ | openFailed _ _ _ _ | openSpoiled _ _ _ => rfl
  | asked _ _ _ | poolCreated _ _ | opened _ _ _ _ | stepped _ _ _ | lent _ _ _ _ _ _
  | takenBack _ _ _ _ | adopted _ _ _ _ | tagged _ _ _ | deferred _ _ _ | finished _ _ _
  | poolsDropped => exact h.elim

/-- What such an act takes hold of is one session, which it lets go. -/
theorem of_mem_resources (h : act.LeavesNothing) {event : Event ρ κ}
    (hmem : event ∈ act.resources) :
    ∃ session, .tornDown session ∈ act.resources ∧
      (event = .tornDown session ∨ ∃ target, event = .started session target) := by
  cases act with
  | noted events => cases hmem
  | openFailed id target conn ending =>
      refine ⟨conn.session, List.mem_cons_of_mem _ List.mem_cons_self, ?_⟩
      rcases List.mem_cons.1 hmem with rfl | hmem
      · exact .inr ⟨target, rfl⟩
      · exact .inl (List.mem_singleton.1 hmem)
  | openSpoiled session target reason =>
      refine ⟨session, List.mem_cons_of_mem _ List.mem_cons_self, ?_⟩
      rcases List.mem_cons.1 hmem with rfl | hmem
      · exact .inr ⟨target, rfl⟩
      · exact .inl (List.mem_singleton.1 hmem)
  | asked _ _ _ | poolCreated _ _ | opened _ _ _ _ | stepped _ _ _ | lent _ _ _ _ _ _
  | takenBack _ _ _ _ | adopted _ _ _ _ | tagged _ _ _ | deferred _ _ _ | finished _ _ _
  | poolsDropped => exact h.elim

theorem of_mem_events {v : View ρ κ} (h : act.LeavesNothing) (enabled : act.Enabled v)
    (hv : v.ctx.Watched) {event : Event ρ κ} (hresource : event.isResource = true)
    (hmem : event ∈ act.events) :
    ∃ session, .tornDown session ∈ act.events ∧
      (event = .tornDown session ∨ ∃ target, event = .started session target) := by
  rw [mem_resources enabled hv hresource] at hmem
  obtain ⟨session, htorn, hcases⟩ := h.of_mem_resources hmem
  exact ⟨session, (mem_resources enabled hv rfl).2 htorn, hcases⟩

end Act.LeavesNothing

section

variable {target : Target} {request : Option ρ} {onConnect : Option κ} {membership : Membership}
  {error : PoolError} {key : PoolKey} {count : Nat} {acts : List (Act ρ κ)}

theorem Opening.leavesNothing {act : Act ρ κ}
    (h : Opening target request onConnect membership (.error error) act) : act.LeavesNothing := by
  cases h with
  | unstarted _ _ _ | spoiled _ _ | failed _ _ _ _ _ _ _ _ => trivial

/-- Where a pool is to grow and opens nothing, its first opening failed. -/
theorem Growing.leavesNothing (h : Growing key target count [] acts) :
    ∀ act ∈ acts, act.LeavesNothing := by
  cases h with
  | done => exact List.forall_mem_nil _
  | stopped count error act hopening record =>
      exact List.forall_mem_cons.2 ⟨hopening.leavesNothing, List.forall_mem_singleton.2 trivial⟩

/-- An acquisition that fails leaves nothing behind in the pool. -/
theorem Granting.leavesNothing {config : PoolConfig}
    (h : Granting key config request onConnect (.error error) acts) :
    ∀ act ∈ acts, act.LeavesNothing := by
  cases h with
  | barren hgrowing record =>
      exact List.forall_mem_append.2
        ⟨hgrowing.leavesNothing, List.forall_mem_singleton.2 trivial⟩
  | refused record error act hopening =>
      exact List.forall_mem_cons.2 ⟨trivial, List.forall_mem_singleton.2 hopening.leavesNothing⟩

end

/-- Along openings that fail, what is taken hold of are sessions, and these are
    torn down. -/
theorem Path.of_mem_resources {v v' : View ρ κ} {acts : List (Act ρ κ)} (h : Path v acts v')
    (hw : v.ctx.Orderly) (hv : v.ctx.Watched) (hacts : ∀ act ∈ acts, act.LeavesNothing)
    {event : Event ρ κ} (hresource : event.isResource = true)
    (hmem : event ∈ acts.flatMap Act.events) :
    ∃ session, .tornDown session ∈ acts.flatMap Act.events ∧
      (event = .tornDown session ∨ ∃ target, event = .started session target) := by
  obtain ⟨act, hact, hevent⟩ := List.mem_flatMap.1 hmem
  obtain ⟨earlier, later, v₁, -, hfirst, enabled, -⟩ := h.of_mem hact
  obtain ⟨session, htorn, hcases⟩ :=
    (hacts act hact).of_mem_events enabled (hfirst.watched hw hv) hresource hevent
  exact ⟨session, List.mem_flatMap.2 ⟨act, hact, htorn⟩, hcases⟩

/-! ## Operations that fail -/

/-- Whether an operation asks the pool under `key` for connections. -/
def Operation.AsksPool (operation : Operation ρ κ) (key : PoolKey) : Prop :=
  (∃ request onConnect, operation = .acquire key request onConnect) ∨
    ∃ count, operation = .spawn key count

theorem Operation.AsksPool.provides {operation : Operation ρ κ} {key : PoolKey}
    (h : operation.AsksPool key) : operation.Provides := by
  rcases h with ⟨request, onConnect, rfl⟩ | ⟨count, rfl⟩
  · trivial
  · trivial

/-- Whether an answer is an error. -/
def Answer.Fails : Answer → Prop
  | opened (.error _) | status (.error _) => True
  | opened (.ok _) | status (.ok _) | state _ | session _ | released _ => False

instance (answer : Answer) : Decidable answer.Fails :=
  match answer with
  | .opened (.error _) | .status (.error _) => inferInstanceAs (Decidable True)
  | .opened (.ok _) | .status (.ok _) | .state _ | .session _ | .released _ =>
    inferInstanceAs (Decidable False)

/-- An operation that asks no pool leaves nothing behind if it fails. -/
theorem Course.leavesNothing {operation : Operation ρ κ} {answer : Answer} {acts : List (Act ρ κ)}
    (h : Course operation answer acts) (hfails : answer.Fails)
    (hasks : ∀ key, ¬operation.AsksPool key) : ∀ act ∈ acts, act.LeavesNothing := by
  cases h with
  | misdirected _ _ _ _ _ _ | unknown _ _ => exact List.forall_mem_nil _
  | @connect _ _ _ _ _ _ outcome _ hopening | @connectUri _ _ _ outcome _ hopening =>
      cases outcome with
      | ok id => exact hfails.elim
      | error e => exact List.forall_mem_singleton.2 hopening.leavesNothing
  | acquire hacquisition => exact absurd (.inl ⟨_, _, rfl⟩) (hasks _)
  | spawn key count status acts hidle => exact absurd (.inr ⟨count, rfl⟩) (hasks key)
  | reclaim hreclaiming =>
      cases hreclaiming with
      | stale | notBorrowed => exact List.forall_mem_nil _
      | takenBack _ _ _ _ _ | adopted _ _ _ _ _ | dismissed _ _ => exact hfails.elim
  | deferred _ _ _ | disconnected _ _ _ | advance _ _ _ | stale _ _ | asked _ _ _ _ _
  | shutdown _ _ _ => exact hfails.elim

namespace Worker

variable [Environment ω]

/-- An operation that fails leaves nothing behind but the pool that it has
    found, if it asked one. -/
theorem failing_path {w : Worker ω ρ κ} {operation : Operation ρ κ} (hw : w.ctx.Orderly)
    (ha : (w.perform operation).2.view.slotCount ≤ 2 ^ 32)
    (hfails : (w.perform operation).1.Fails) :
    ∃ first rest, Path w.view (first ++ rest) (w.perform operation).2.view ∧
      (∀ act ∈ rest, act.LeavesNothing) ∧
      (first = [] ∨ ∃ key pool, operation.AsksPool key ∧ Finding w.ctx key pool first) := by
  obtain ⟨acts, hcourse, hpath⟩ := perform_course hw (rfl : w.perform operation = (_, _)) ha
  cases operation with
  | acquire key request onConnect =>
      rcases hacquire : w.acquire key request onConnect with ⟨outcome, w'⟩
      rw [perform, hacquire] at ha hfails ⊢
      cases outcome with
      | ok id => exact hfails.elim
      | error e =>
          rcases acquire_cases hw hacquire ha with
            ⟨-, rfl, -⟩ | ⟨pool, first, rest, hfinding, hgranting, hpath⟩
          · exact ⟨[], [], .nil _, List.forall_mem_nil _, .inl rfl⟩
          · exact ⟨first, rest, hpath, hgranting.leavesNothing,
              .inr ⟨key, pool, .inl ⟨_, _, rfl⟩, hfinding⟩⟩
  | spawn key count =>
      rcases hspawn : w.spawn key count with ⟨status, w'⟩
      rw [perform, hspawn] at ha hfails ⊢
      rcases spawn_cases hw hspawn ha with
        ⟨-, rfl, -⟩ | ⟨pool, first, ids, acts, record, hfinding, hgrowing, hpath, rfl⟩
      · exact ⟨[], [], .nil _, List.forall_mem_nil _, .inl rfl⟩
      · by_cases hempty : pool.free ++ ids = []
        · -- the pool stays without idle connections, so that nothing was opened
          obtain ⟨-, rfl⟩ := List.append_eq_nil_iff.1 hempty
          refine ⟨first, _, hpath, ?_, .inr ⟨key, pool, .inr ⟨count, rfl⟩, hfinding⟩⟩
          exact List.forall_mem_append.2
            ⟨hgrowing.leavesNothing, List.forall_mem_singleton.2 trivial⟩
        · rw [if_neg hempty] at hfails
          exact hfails.elim
  | connect _ _ _ _ _ | connectUri _ _ _ | reclaim _ | disconnect _ _ | advance _ _ | session _ _
  | shutdown =>
      refine ⟨[], acts, hpath, hcourse.leavesNothing hfails ?_, .inl rfl⟩
      rintro key (⟨request, onConnect, heq⟩ | ⟨count, heq⟩)
      · cases heq
      · cases heq

end Worker
end ConnPool
