/-
  ConnPool.Proofs.Run.Undoing

  Operations that fail.

  However far an operation gets before it fails, it takes back what it did: the
  connections, the registry and the pools are what they were before, the event
  loop watches what it watched, and no session of it is left.  All that may
  remain is an empty pool under the key that was asked for.
-/

import ConnPool.Proofs.Run.Records
import ConnPool.Proofs.Worker.Frame

namespace ConnPool

variable {ω ρ κ : Type} [Environment ω]

/-- Whether a step leaves the context as it was, and gives back all that it
    took hold of. -/
structure Step.Restores (step : Step ω ρ κ) : Prop where
  /-- The same ids are live, in the same order. -/
  ids : step.after.ctx.ids = step.before.ctx.ids
  conns : ∀ id, step.after.ctx.conn? id = step.before.ctx.conn? id
  registry : step.after.ctx.registry = step.before.ctx.registry
  /-- Only the pool that was asked for may be new, and then it is empty. -/
  pools : ∀ key, step.after.ctx.pools.get? key = step.before.ctx.pools.get? key ∨
    (step.operation.AsksPool key ∧ step.before.ctx.pools.get? key = none ∧
      ∃ config, step.before.ctx.configs.get? key = some config ∧
        step.after.ctx.pools.get? key =
          some { config, free := [], busy := [], overflowCount := 0 })
  not_registered : ∀ socket interest id, .registered socket interest id none ∉ step.events
  not_deregistered : ∀ socket, .deregistered socket ∉ step.events
  tornDown : ∀ session target, .started session target ∈ step.events →
    .tornDown session ∈ step.events

omit [Environment ω] in
/-- Contexts with the same live connections list their ids in the same
    order. -/
theorem Context.ids_eq_of_conn? {ctx ctx' : Context ρ κ} (ha : ctx.conns.Addressable)
    (ha' : ctx'.conns.Addressable) (h : ∀ id, ctx'.conn? id = ctx.conn? id) :
    ctx'.ids = ctx.ids := by
  have hlive : ∀ id, (ctx'.conns.get? id).isSome = (ctx.conns.get? id).isSome := fun id =>
    congrArg Option.isSome (h id)
  rw [ids, ids, Arena.ids_eq_filter ha ha' fun id hid => (hlive id).symm.trans hid]
  refine List.filter_eq_self.2 fun id hmem => ?_
  rw [hlive]
  exact (Arena.mem_ids ha).1 hmem

section

variable {v v' : View ρ κ} {acts : List (Act ρ κ)}

omit [Environment ω] in
/-- Acts that leave nothing behind keep the registry list. -/
theorem Path.registry_eq (h : Path v acts v') (hacts : ∀ act ∈ acts, act.LeavesNothing) :
    v'.ctx.registry = v.ctx.registry := by
  induction h with
  | nil => rfl
  | cons _ _ ih =>
      obtain ⟨hact, hrest⟩ := List.forall_mem_cons.1 hacts
      rw [ih hrest, hact.registry_run]

omit [Environment ω] in
/-- A pool that is found is there, or comes to be there, empty. -/
theorem Finding.run {key : PoolKey} {pool : Pool} (h : Finding v.ctx key pool acts)
    (hpath : Path v acts v') :
    (∀ id, v'.ctx.conn? id = v.ctx.conn? id) ∧ v'.ctx.registry = v.ctx.registry ∧
      (∀ other, v'.ctx.pools.get? other = v.ctx.pools.get? other ∨
        (other = key ∧ v.ctx.pools.get? other = none ∧
          ∃ config, v.ctx.configs.get? other = some config ∧
            v'.ctx.pools.get? other = some { config })) ∧
      ∀ event ∈ acts.flatMap Act.events, event.isResource = false := by
  cases h with
  | found pool hpool =>
      cases hpath
      exact ⟨fun _ => rfl, rfl, fun _ => .inl rfl, List.forall_mem_nil _⟩
  | created config hnone hconfig =>
      cases hpath with
      | cons enabled hnil =>
          cases hnil
          refine ⟨fun _ => rfl, rfl, fun other => ?_, List.forall_mem_singleton.2 rfl⟩
          by_cases hkey : other = key
          · subst hkey
            exact .inr ⟨rfl, hnone, config, hconfig, KeyMap.get?_insert_self _ _ _⟩
          · exact .inl (KeyMap.get?_insert_of_ne _ hkey _)

end

/-- A step that fails restores what it found. -/
theorem Step.restores {step : Step ω ρ κ} (hw : step.before.ctx.Orderly)
    (hsound : step.before.ctx.Sound) (ha : step.after.ctx.conns.Addressable)
    (hfails : step.answer.Fails) : step.Restores := by
  obtain ⟨first, rest, hpath, hrest, hfirst⟩ := Worker.failing_path hw ha hfails
  have hevents : step.events = (first ++ rest).flatMap Act.events := events_eq hpath
  obtain ⟨v₁, hfound, hfailed⟩ := hpath.of_append
  -- what comes first is finding the pool, if one was asked
  have hprepared : (∀ id, v₁.ctx.conn? id = step.before.ctx.conn? id) ∧
      v₁.ctx.registry = step.before.ctx.registry ∧
      (∀ key, v₁.ctx.pools.get? key = step.before.ctx.pools.get? key ∨
        (step.operation.AsksPool key ∧ step.before.ctx.pools.get? key = none ∧
          ∃ config, step.before.ctx.configs.get? key = some config ∧
            v₁.ctx.pools.get? key = some { config })) ∧
      ∀ event ∈ first.flatMap Act.events, event.isResource = false := by
    rcases hfirst with rfl | ⟨key, pool, hasks, hfinding⟩
    · cases hfound
      exact ⟨fun _ => rfl, rfl, fun _ => .inl rfl, List.forall_mem_nil _⟩
    · obtain ⟨hconns, hregistry, hpools, hnotes⟩ := hfinding.run hfound
      refine ⟨hconns, hregistry, fun other => (hpools other).imp_right ?_, hnotes⟩
      rintro ⟨rfl, hnew⟩
      exact ⟨hasks, hnew⟩
  obtain ⟨hconns, hregistry, hpools, hnotes⟩ := hprepared
  have hw₁ := hfound.orderly hw
  -- and then something fails, and nothing is left of it
  have hconns' : ∀ id, step.after.ctx.conn? id = step.before.ctx.conn? id := fun id => by
    rw [← hconns id]
    refine hfailed.conn?_eq hw₁ fun act hmem => ?_
    rw [(hrest act hmem).change_eq_none]
    exact (Option.some_ne_none id).symm
  have hresources : ∀ event ∈ step.events, event.isResource = true →
      ∃ session, .tornDown session ∈ step.events ∧
        (event = .tornDown session ∨ ∃ target, event = .started session target) := by
    intro event hmem hresource
    rw [hevents, List.flatMap_append] at hmem ⊢
    rcases List.mem_append.1 hmem with hfirst | hlast
    · rw [hnotes event hfirst] at hresource
      cases hresource
    · obtain ⟨session, htorn, hcases⟩ := hfailed.of_mem_resources hw₁
        (hfound.watched hw hsound.watched) hrest hresource hlast
      exact ⟨session, List.mem_append_right _ htorn, hcases⟩
  constructor
  case ids =>
    have hslots := Nat.le_trans (Worker.slotCount_le_perform step.before step.operation) ha
    exact Context.ids_eq_of_conn? hslots ha hconns'
  case conns => exact hconns'
  case registry => exact (hfailed.registry_eq hrest).trans hregistry
  case pools =>
    intro key
    have hsame : step.after.ctx.pools.get? key = v₁.ctx.pools.get? key :=
      hfailed.get?_eq fun act hmem => (hrest act hmem).not_touches key
    rw [hsame]
    exact hpools key
  case not_registered =>
    intro socket interest id hmem
    obtain ⟨session, -, heq | ⟨target, heq⟩⟩ := hresources _ hmem rfl
    · cases heq
    · cases heq
  case not_deregistered =>
    intro socket hmem
    obtain ⟨session, -, heq | ⟨target, heq⟩⟩ := hresources _ hmem rfl
    · cases heq
    · cases heq
  case tornDown =>
    intro session target hmem
    obtain ⟨other, htorn, heq | ⟨target', heq⟩⟩ := hresources _ hmem rfl
    · cases heq
    · cases heq
      exact htorn

namespace Worker

/-- In every run, an operation that answers an error, at whatever stage it
    failed, has left the context as it was: the ids of the live connections and
    their order, the connections, the registry list and the pools, except for
    an empty pool under a registered key that was acquired from or spawned for.
    It had no socket watched or forgotten, and every session that it started
    was torn down. -/
theorem restores_of_run (configs : Registry) (env : ω) (operations : List (Operation ρ κ))
    (ha : ((fresh configs env).afterAll operations).ctx.conns.slots.length ≤ 2 ^ 32) :
    ∀ step ∈ (fresh configs env).steps operations, step.answer.Fails → step.Restores := by
  intro step hmem hfails
  obtain ⟨hw, hsound, -⟩ := sound_of_mem_steps ha hmem
  exact step.restores hw hsound (addressable_of_mem_steps ha hmem) hfails

/-- The event loop refuses the socket of the first session, and the socket of
    the second one cannot be made non-blocking. -/
def harshStage : Scripted.Stage :=
  { scripts := [{ registrations := [some "full"] }, { nonblocking := some "closed" }] }

/-- A direct connection cannot be opened, and neither can one of the pool, which
    is created for it; after that the pool lends one. -/
def failingRun : List (Operation String String) :=
  [.connectUri none (some "direct") "u", .acquire "k" none none, .acquire "k" none none]

theorem restores_of_failingRun :
    ((fresh smallPool harshStage).afterAll failingRun).ctx.conns.slots.length ≤ 2 ^ 32 ∧
      ∃ step ∈ (fresh smallPool harshStage).steps failingRun,
        step.operation = .acquire "k" none none ∧ step.answer.Fails ∧ step.Restores := by
  have ha : ((fresh smallPool harshStage).afterAll failingRun).ctx.conns.slots.length ≤ 2 ^ 32 := by
    decide +kernel
  have hfails : (Step.mk ((fresh smallPool harshStage).afterAll (failingRun.take 1))
      (.acquire "k" none none)).answer.Fails := by
    decide +kernel
  -- the second step of three
  have hmem : ⟨(fresh smallPool harshStage).afterAll (failingRun.take 1), .acquire "k" none none⟩ ∈
      (fresh smallPool harshStage).steps failingRun :=
    List.mem_cons_of_mem _ List.mem_cons_self
  exact ⟨ha, _, hmem, rfl, hfails,
    restores_of_run smallPool harshStage failingRun ha _ hmem hfails⟩

end Worker
end ConnPool
