/-
  ConnPool.Proofs.Worker.Confinement

  How far an operation reaches.

      acquire, spawn         the pool that is asked, and the connection lent
      reclaim                the pool that lent, its idle connections that it
                             gives up, and the connection given back
      advance, disconnect    the connection, and its place in the lists
      connect                no pool and no connection that is there

  Everything else stays as it is: pools, records, and the order of the lists.
-/

import ConnPool.Proofs.Worker.Borrowing
import ConnPool.Proofs.Worker.Frame

namespace ConnPool

variable {ρ κ : Type}

/-! ## Operations that provide -/

section

variable {operation : Operation ρ κ} {answer : Answer} {acts : List (Act ρ κ)} {act : Act ρ κ}
  {v v' : View ρ κ} {id : ConnId} {conn : Connection ρ κ}

/-- An operation that provides changes what it opens and what it lends. -/
theorem Act.BelongsTo.change_ne (h : act.BelongsTo operation answer)
    (hprovides : operation.Provides) (hopens : ¬act.Opens id)
    (hlends : ∀ key, ¬operation.Lends answer id key) : act.change.map Prod.fst ≠ some id := by
  intro hchange
  cases act with
  | noted _ | asked _ _ _ | poolCreated _ _ | openFailed _ _ _ _ | openSpoiled _ _ _
  | poolsDropped => cases hchange
  | opened i target conn poll => exact hopens (Option.some.inj hchange)
  | lent i conn key request onConnect load =>
      obtain rfl : i = id := Option.some.inj hchange
      exact hlends key (h.lends ⟨rfl, rfl⟩)
  | tagged i conn key =>
      obtain rfl : i = id := Option.some.inj hchange
      exact hlends key (h.lends ⟨rfl, rfl⟩)
  | stepped i conn poll =>
      obtain ⟨event, rfl⟩ := h
      exact hprovides
  | takenBack i conn key _ | adopted i conn key _ | deferred i conn _ =>
      obtain ⟨rfl, -⟩ := h
      exact hprovides
  | finished i conn ending => exact h.not_provides hprovides

/-- An operation that provides leaves every connection alone that it does not
    lend. -/
theorem Course.conn?_of_provides (h : Course operation answer acts) (hpath : Path v acts v')
    (hw : v.ctx.Orderly) (hprovides : operation.Provides) (hconn : v.ctx.conn? id = some conn)
    (hlends : ∀ key, ¬operation.Lends answer id key) : v'.ctx.conn? id = some conn := by
  have hends : ∀ act ∈ acts, ¬act.Ends id := fun act hmem =>
    (h.belongsTo act hmem).not_ends hprovides id
  have hopens := hpath.not_opens_of_live hw (Option.isSome_of_eq_some hconn) hends
  rw [← hconn]
  exact hpath.conn?_eq hw fun act hmem =>
    (h.belongsTo act hmem).change_ne hprovides (hopens act hmem) hlends

/-- A direct connection that is opened is in no pool. -/
theorem Opening.not_touches {target : Target} {request : Option ρ} {onConnect : Option κ}
    {outcome : Except PoolError ConnId}
    (h : Opening target request onConnect .registry outcome act) (key : PoolKey) :
    ¬act.Touches key := by
  cases h with
  | opened id conn poll hrequest honConnect hmembership =>
      intro htouches
      rw [Act.Touches, hmembership] at htouches
      cases htouches
  | unstarted _ _ _ | spoiled _ _ | failed _ _ _ _ _ _ _ _ => exact fun htouches => htouches

/-- Asking a pool for connections touches no other pool. -/
theorem Course.eq_of_touches (h : Course operation answer acts) {key other : PoolKey}
    (hasks : operation.AsksPool key) (hmem : act ∈ acts) (htouches : act.Touches other) :
    other = key := by
  rcases hasks with ⟨request, onConnect, rfl⟩ | ⟨count, rfl⟩
  · cases h with
    | acquire hacquisition =>
        cases hacquisition with
        | unregistered => cases hmem
        | exhausted acts hidle => exact (hidle act hmem).eq_of_touches htouches
        | lent acts hidle id conn load =>
            rcases List.mem_append.1 hmem with hmem | hmem
            · exact (hidle act hmem).eq_of_touches htouches
            · obtain rfl := List.mem_singleton.1 hmem
              exact htouches.symm
        | direct acts hidle id target conn poll hopening =>
            rcases List.mem_append.1 hmem with hmem | hmem
            · exact (hidle act hmem).eq_of_touches htouches
            · rcases List.mem_cons.1 hmem with rfl | hmem
              · exact absurd htouches (hopening.not_touches other)
              · obtain rfl := List.mem_singleton.1 hmem
                exact htouches.symm
        | failed acts hidle target error act hopening =>
            rcases List.mem_append.1 hmem with hmem | hmem
            · exact (hidle _ hmem).eq_of_touches htouches
            · obtain rfl := List.mem_singleton.1 hmem
              exact absurd htouches (hopening.not_touches other)
  · cases h with
    | spawn key count status acts hidle => exact (hidle act hmem).eq_of_touches htouches

end

/-! ## Taking back -/

section

variable {key : PoolKey} {acts : List (Act ρ κ)} {v v' : View ρ κ} {id : ConnId}

/-- What a pool gives up when it shrinks was idle in it. -/
theorem Path.membership_of_shrinks (h : Path v acts v') {act : Act ρ κ} (hmem : act ∈ acts)
    (hshrinks : act.Shrinks key) :
    ∃ i conn load, act = .finished i conn (.shrunk key load) ∧ conn.membership = .free key := by
  obtain ⟨earlier, later, v₁, -, -, enabled, -⟩ := h.of_mem hmem
  obtain ⟨i, conn, load, rfl⟩ := hshrinks.eq_finished
  exact ⟨i, conn, load, rfl, enabled.2⟩

/-- A pool that shrinks touches no other pool. -/
theorem Path.eq_of_shrinks_touches (h : Path v acts v') {act : Act ρ κ} (hmem : act ∈ acts)
    (hshrinks : act.Shrinks key) {other : PoolKey} (htouches : act.Touches other) :
    other = key := by
  obtain ⟨i, conn, load, rfl, hmembership⟩ := h.membership_of_shrinks hmem hshrinks
  rw [Act.Touches, hmembership] at htouches
  exact (Option.some.inj htouches).symm

/-- A pool that shrinks gives up idle connections of its own, and leaves
    everything else as it is. -/
theorem Path.conn?_of_shrinks (h : Path v acts v') (hw : v.ctx.Orderly)
    (hshrinks : ∀ act ∈ acts, act.Shrinks key) {conn : Connection ρ κ}
    (hconn : v.ctx.conn? id = some conn) :
    v'.ctx.conn? id = some conn ∨ (v'.ctx.conn? id = none ∧ conn.membership = .free key) := by
  induction h with
  | nil => exact .inl hconn
  | @cons v v' act acts enabled hrest ih =>
      obtain ⟨hact, hlater⟩ := List.forall_mem_cons.1 hshrinks
      obtain ⟨i, c, load, rfl⟩ := hact.eq_finished
      have hw' := Act.orderly_run enabled hw
      have hrun := Act.conn?_run enabled hw id
      simp only [Act.change] at hrun
      by_cases hid : id = i
      · -- gone now, and nothing brings it back
        subst hid
        obtain rfl : conn = c := Option.some.inj (hconn.symm.trans enabled.1)
        refine .inr ⟨?_, enabled.2⟩
        rw [if_pos rfl] at hrun
        rw [← Option.not_isSome_iff_eq_none]
        intro hlive
        have hback := hrest.live_of_live hw' (fun act hmem hopens => ?_) hlive
        · rw [hrun] at hback
          cases hback
        · obtain ⟨_, _, _, rfl⟩ := (hlater act hmem).eq_finished
          exact hopens
      · rw [if_neg hid] at hrun
        exact ih hw' hlater (hrun.trans hconn)

/-- Taking a connection back touches the pool that it was lent by, or in the
    stead of. -/
theorem Reclaiming.lent_of_touches {status : Status} (h : Reclaiming id status acts)
    (hpath : Path v acts v') {act : Act ρ κ} (hmem : act ∈ acts) {other : PoolKey}
    (htouches : act.Touches other) : v.ctx.Lent id other := by
  cases h with
  | stale | notBorrowed => cases hmem
  | takenBack conn key load acts hshrinks =>
      cases hpath with
      | cons enabled hrest =>
          have hlent : v.ctx.Lent id key := ⟨conn, enabled.1, .inl enabled.2⟩
          rcases List.mem_cons.1 hmem with rfl | hmem
          · obtain rfl : key = other := htouches
            exact hlent
          · obtain rfl := hrest.eq_of_shrinks_touches hmem (hshrinks act hmem) htouches
            exact hlent
  | adopted conn key size acts hshrinks =>
      cases hpath with
      | cons enabled hrest =>
          have hlent : v.ctx.Lent id key := ⟨conn, enabled.1, .inr ⟨enabled.2.1, enabled.2.2.1⟩⟩
          rcases List.mem_cons.1 hmem with rfl | hmem
          · obtain rfl : key = other := htouches
            exact hlent
          · obtain rfl := hrest.eq_of_shrinks_touches hmem (hshrinks act hmem) htouches
            exact hlent
  | dismissed conn key =>
      cases hpath with
      | cons enabled hrest =>
          -- a direct connection is in no pool
          obtain rfl := List.mem_singleton.1 hmem
          rw [Act.Touches, enabled.2.1] at htouches
          cases htouches

/-- Taking a connection back leaves every other one as it is, or gives it up
    because it was too much idle. -/
theorem Reclaiming.conn?_of_ne {status : Status} (h : Reclaiming id status acts)
    (hpath : Path v acts v') (hw : v.ctx.Orderly) {other : ConnId} (hne : other ≠ id)
    {conn : Connection ρ κ} (hconn : v.ctx.conn? other = some conn) :
    v'.ctx.conn? other = some conn ∨
      (v'.ctx.conn? other = none ∧ ∃ key, v.ctx.Lent id key ∧ conn.membership = .free key) := by
  -- the connection that comes back is not the other one; the pool shrinks after that
  have hshrinks : ∀ {act : Act ρ κ} {rest : List (Act ρ κ)} {key : PoolKey} {c : Connection ρ κ},
      act.change = some (id, some c) → act.Enabled v → v.ctx.Lent id key →
      Path (act.run v) rest v' → (∀ act ∈ rest, act.Shrinks key) →
      v'.ctx.conn? other = some conn ∨
        (v'.ctx.conn? other = none ∧ ∃ key, v.ctx.Lent id key ∧ conn.membership = .free key) := by
    intro act rest key c hchange enabled hlent hrest hshrinks
    have hsame := Act.conn?_run enabled hw other
    rw [hchange] at hsame
    simp only [if_neg hne] at hsame
    refine (hrest.conn?_of_shrinks (Act.orderly_run enabled hw) hshrinks
      (hsame.trans hconn)).imp_right fun hgone => ?_
    exact ⟨hgone.1, key, hlent, hgone.2⟩
  cases h with
  | stale | notBorrowed =>
      cases hpath
      exact .inl hconn
  | takenBack c key load acts hacts =>
      cases hpath with
      | cons enabled hrest =>
          exact hshrinks rfl enabled ⟨c, enabled.1, .inl enabled.2⟩ hrest hacts
  | adopted c key size acts hacts =>
      cases hpath with
      | cons enabled hrest =>
          exact hshrinks rfl enabled ⟨c, enabled.1, .inr ⟨enabled.2.1, enabled.2.2.1⟩⟩ hrest hacts
  | dismissed c key =>
      refine .inl ((hpath.conn?_eq hw ?_).trans hconn)
      exact List.forall_mem_singleton.2 fun heq => hne (Option.some.inj heq).symm

end

/-! ## Closing and readiness -/

/-- The pool without the connections that are not kept. -/
def Pool.keeping (pool : Pool) (keeps : ConnId → Bool) : Pool :=
  { pool with free := pool.free.filter keeps, busy := pool.busy.filter keeps }

/-- Whether `ctx'` lists what `ctx` does, in the same order, with what has gone
    left out. -/
structure Context.Prunes (ctx ctx' : Context ρ κ) : Prop where
  registry : ctx'.registry = ctx.registry.filter fun id => (ctx'.conn? id).isSome
  pools : ∀ key, ctx'.pools.get? key =
    (ctx.pools.get? key).map (·.keeping fun id => (ctx'.conn? id).isSome)

namespace Context

variable {ctx ctx' : Context ρ κ} {id : ConnId} {conn : Connection ρ κ}

/-- Whatever is listed is live. -/
theorem Orderly.isSome_conn? (hw : ctx.Orderly) {membership : Membership}
    (h : id ∈ ctx.collection membership) : (ctx.conn? id).isSome := by
  obtain ⟨conn, hconn, -⟩ := hw.conn?_of_mem h
  exact Option.isSome_of_eq_some hconn

/-- Where the same connections are live, nothing is left out. -/
theorem Orderly.prunes_of_same (hw : ctx.Orderly)
    (hlive : ∀ id, (ctx'.conn? id).isSome = (ctx.conn? id).isSome)
    (hregistry : ctx'.registry = ctx.registry)
    (hpools : ∀ key, ctx'.pools.get? key = ctx.pools.get? key) : ctx.Prunes ctx' := by
  have hkeeps : ∀ membership, (ctx.collection membership).filter
      (fun id => (ctx'.conn? id).isSome) = ctx.collection membership := by
    intro membership
    refine List.filter_eq_self.2 fun id hmem => ?_
    rw [hlive]
    exact hw.isSome_conn? hmem
  constructor
  case registry => exact hregistry.trans (hkeeps .registry).symm
  case pools =>
    intro key
    rw [hpools]
    cases hpool : ctx.pools.get? key with
    | none => rfl
    | some pool =>
        have hfree := hkeeps (.free key)
        have hbusy := hkeeps (.busy key)
        rw [collection_free_of_get? hpool] at hfree
        rw [collection_busy_of_get? hpool] at hbusy
        rw [Option.map_some, Pool.keeping, hfree, hbusy]

/-- What striking an id does to a pool. -/
theorem get?_strike (ctx : Context ρ κ) (id : ConnId) (membership : Membership) (key : PoolKey) :
    (ctx.strike id membership).pools.get? key = (ctx.pools.get? key).map fun pool =>
      if .free key = membership then pool.dropFree id
      else if .busy key = membership then pool.dropBusy id else pool := by
  cases membership with
  | registry => simp [strike]
  | free k | busy k =>
      rw [strike, modifyPool, KeyMap.get?_modify]
      by_cases hk : key = k
      · simp [hk]
      · simp [hk]

/-- A connection that is taken out is left out of the list that it was in, and
    of no other. -/
theorem Orderly.prunes_without (hw : ctx.Orderly) (hconn : ctx.conn? id = some conn) :
    ctx.Prunes (ctx.without id conn) := by
  -- of what is listed, only `id` is not live any more
  have hkeeps : ∀ membership, (ctx.collection membership).filter
      (fun i => ((ctx.without id conn).conn? i).isSome) =
        if membership = conn.membership then (ctx.collection membership).filter (· ≠ id)
        else ctx.collection membership := by
    intro membership
    have hlive : ∀ i ∈ ctx.collection membership,
        ((ctx.without id conn).conn? i).isSome = decide (i ≠ id) := by
      intro i hmem
      rw [conn?_without]
      by_cases hi : i = id
      · simp [hi]
      · simpa [hi] using hw.isSome_conn? hmem
    rw [List.filter_congr hlive]
    split
    · rfl
    · rename_i hne
      refine List.filter_eq_self.2 fun i hmem => decide_eq_true ?_
      rintro rfl
      obtain ⟨found, hfound, hmembership⟩ := hw.conn?_of_mem hmem
      rw [hconn] at hfound
      exact hne (Option.some.inj hfound ▸ hmembership.symm)
  constructor
  case registry =>
    have hregistry := collection_without ctx id conn .registry
    refine (hregistry.trans ?_).trans (hkeeps .registry).symm
    split
    · rename_i heq
      rw [heq]
    · rfl
  case pools =>
    intro key
    have hstruck : (ctx.without id conn).pools.get? key = (ctx.pools.get? key).map fun pool =>
        if .free key = conn.membership then pool.dropFree id
        else if .busy key = conn.membership then pool.dropBusy id else pool :=
      get?_strike _ id conn.membership key
    rw [hstruck]
    refine Option.map_congr fun pool hpool => ?_
    have hfree := hkeeps (.free key)
    have hbusy := hkeeps (.busy key)
    rw [collection_free_of_get? hpool] at hfree
    rw [collection_busy_of_get? hpool] at hbusy
    rw [Pool.keeping, hfree, hbusy]
    by_cases hmembership : .free key = conn.membership
    · rw [if_pos hmembership, if_pos hmembership, if_neg (by rw [← hmembership]; simp)]
      rfl
    · rw [if_neg hmembership, if_neg hmembership]
      split
      · rfl
      · rfl

/-- What is pruned twice is pruned, as long as nothing comes back. -/
theorem Prunes.trans {ctx'' : Context ρ κ} (h : ctx.Prunes ctx') (h' : ctx'.Prunes ctx'')
    (hlive : ∀ id, (ctx''.conn? id).isSome → (ctx'.conn? id).isSome) : ctx.Prunes ctx'' := by
  have hboth : ∀ ids : List ConnId, (ids.filter fun id => (ctx'.conn? id).isSome).filter
      (fun id => (ctx''.conn? id).isSome) = ids.filter fun id => (ctx''.conn? id).isSome := by
    intro ids
    rw [List.filter_filter]
    refine List.filter_congr fun id _ => ?_
    rw [Bool.and_eq_left_iff_imp]
    exact hlive id
  constructor
  case registry => rw [h'.registry, h.registry, hboth]
  case pools =>
    intro key
    rw [h'.pools, h.pools]
    cases ctx.pools.get? key with
    | none => rfl
    | some pool => simp only [Option.map_some, Pool.keeping, hboth]

/-- A pool of which nothing has gone stays as it is. -/
theorem Prunes.get?_eq (h : ctx.Prunes ctx') {key : PoolKey}
    (hlive : ∀ pool, ctx.pools.get? key = some pool →
      ∀ id, id ∈ pool.free ∨ id ∈ pool.busy → (ctx'.conn? id).isSome) :
    ctx'.pools.get? key = ctx.pools.get? key := by
  rw [h.pools]
  cases hpool : ctx.pools.get? key with
  | none => rfl
  | some pool =>
      have hfree : pool.free.filter (fun id => (ctx'.conn? id).isSome) = pool.free :=
        List.filter_eq_self.2 fun id hmem => hlive pool hpool id (.inl hmem)
      have hbusy : pool.busy.filter (fun id => (ctx'.conn? id).isSome) = pool.busy :=
        List.filter_eq_self.2 fun id hmem => hlive pool hpool id (.inr hmem)
      rw [Option.map_some, Pool.keeping, hfree, hbusy]

end Context

/-- Whether an operation is about one connection that is there: it closes it,
    or reports that it is ready. -/
def Operation.Attends (operation : Operation ρ κ) (id : ConnId) : Prop :=
  (∃ event, operation = .advance id event) ∨ ∃ onDisconnect, operation = .disconnect id onDisconnect

/-- Whether an act attends to the connection under `id`, if to any. -/
def Act.Attends (id : ConnId) : Act ρ κ → Prop
  | noted _ => True
  | stepped i _ _ | deferred i _ _ | finished i _ _ => i = id
  | asked .. | poolCreated .. | opened .. | openFailed .. | openSpoiled .. | lent .. | takenBack ..
  | adopted .. | tagged .. | poolsDropped => False

section

variable {operation : Operation ρ κ} {answer : Answer} {act : Act ρ κ} {acts : List (Act ρ κ)}
  {v v' : View ρ κ} {id : ConnId}

theorem Course.attends (h : Course operation answer acts) (hattends : operation.Attends id) :
    ∀ act ∈ acts, act.Attends id := by
  rcases hattends with ⟨event, rfl⟩ | ⟨onDisconnect, rfl⟩
  · cases h with
    | advance event state hadvancing =>
        cases hadvancing with
        | ignored record => exact List.forall_mem_singleton.2 trivial
        | stepped conn poll => exact List.forall_mem_singleton.2 rfl
        | ended conn ending hending records =>
            exact List.forall_mem_cons.2 ⟨rfl, List.forall_mem_singleton.2 trivial⟩
  · cases h with
    | unknown _ _ => exact List.forall_mem_nil _
    | deferred _ _ conn | disconnected _ _ conn => exact List.forall_mem_singleton.2 rfl

theorem Act.Attends.not_opens (h : act.Attends id) (other : ConnId) : ¬act.Opens other := by
  cases act with
  | noted _ | stepped _ _ _ | deferred _ _ _ | finished _ _ _ => exact fun hopens => hopens
  | asked _ _ _ | poolCreated _ _ | opened _ _ _ _ | openFailed _ _ _ _ | openSpoiled _ _ _
  | lent _ _ _ _ _ _ | takenBack _ _ _ _ | adopted _ _ _ _ | tagged _ _ _
  | poolsDropped => exact h.elim

theorem Act.Attends.change_ne (h : act.Attends id) {other : ConnId} (hne : other ≠ id) :
    act.change.map Prod.fst ≠ some other := by
  intro hchange
  cases act with
  | noted _ => cases hchange
  | stepped i _ _ | deferred i _ _ | finished i _ _ =>
      obtain rfl : i = id := h
      exact hne (Option.some.inj hchange).symm
  | asked _ _ _ | poolCreated _ _ | opened _ _ _ _ | openFailed _ _ _ _ | openSpoiled _ _ _
  | lent _ _ _ _ _ _ | takenBack _ _ _ _ | adopted _ _ _ _ | tagged _ _ _
  | poolsDropped => exact h.elim

/-- Attending to a connection strikes it at most. -/
theorem Act.Attends.prunes_run (h : act.Attends id) (enabled : act.Enabled v)
    (hw : v.ctx.Orderly) : v.ctx.Prunes (act.run v).ctx := by
  cases act with
  | noted events => exact hw.prunes_of_same (fun _ => rfl) rfl fun _ => rfl
  | stepped i conn _ | deferred i conn _ =>
      refine hw.prunes_of_same (fun other => ?_) rfl fun _ => rfl
      rw [Act.conn?_run enabled hw]
      simp only [Act.change]
      split
      · rename_i heq
        rw [heq, enabled.1]
        rfl
      · rfl
  | finished i conn ending => exact hw.prunes_without enabled.1
  | asked _ _ _ | poolCreated _ _ | opened _ _ _ _ | openFailed _ _ _ _ | openSpoiled _ _ _
  | lent _ _ _ _ _ _ | takenBack _ _ _ _ | adopted _ _ _ _ | tagged _ _ _
  | poolsDropped => exact h.elim

theorem Path.prunes_of_attends (h : Path v acts v') (hw : v.ctx.Orderly)
    (hattends : ∀ act ∈ acts, act.Attends id) : v.ctx.Prunes v'.ctx := by
  induction h with
  | nil => exact hw.prunes_of_same (fun _ => rfl) rfl fun _ => rfl
  | cons enabled hrest ih =>
      obtain ⟨hact, hlater⟩ := List.forall_mem_cons.1 hattends
      have hw' := Act.orderly_run enabled hw
      refine (hact.prunes_run enabled hw).trans (ih hw' hlater) fun other hlive => ?_
      exact hrest.live_of_live hw' (fun act hmem => (hlater act hmem).not_opens other) hlive

end

/-! ## Direct connections -/

/-- Whether an operation opens a direct connection. -/
def Operation.Connects : Operation ρ κ → Prop
  | connect .. | connectUri .. => True
  | acquire .. | spawn .. | reclaim _ | disconnect .. | advance .. | session .. | shutdown => False

theorem Operation.Connects.provides {operation : Operation ρ κ} (h : operation.Connects) :
    operation.Provides := by
  cases operation with
  | connect _ _ _ _ _ | connectUri _ _ _ => trivial
  | acquire _ _ _ | spawn _ _ | reclaim _ | disconnect _ _ | advance _ _ | session _ _
  | shutdown => exact h.elim

/-- Opening a direct connection touches no pool. -/
theorem Course.not_touches {operation : Operation ρ κ} {answer : Answer} {acts : List (Act ρ κ)}
    (h : Course operation answer acts) (hconnects : operation.Connects) (key : PoolKey) :
    ∀ act ∈ acts, ¬act.Touches key := by
  cases operation with
  | connect request onConnect keys values expandDbname =>
      cases h with
      | misdirected => exact List.forall_mem_nil _
      | connect _ _ _ _ _ target hopening =>
          exact List.forall_mem_singleton.2 (hopening.not_touches key)
  | connectUri request onConnect uri =>
      cases h with
      | connectUri _ _ _ hopening => exact List.forall_mem_singleton.2 (hopening.not_touches key)
  | acquire _ _ _ | spawn _ _ | reclaim _ | disconnect _ _ | advance _ _ | session _ _
  | shutdown => exact hconnects.elim

/-- Only asking a pool creates one, and it creates the one that is asked. -/
theorem Course.asksPool_of_poolCreated {operation : Operation ρ κ} {answer : Answer}
    {acts : List (Act ρ κ)} (h : Course operation answer acts) {key : PoolKey}
    {config : PoolConfig} (hmem : .poolCreated key config ∈ acts) : operation.AsksPool key := by
  have hprovides : operation.Provides := h.belongsTo _ hmem
  have hconnects : ¬operation.Connects := fun hconnects => h.not_touches hconnects key _ hmem rfl
  cases operation with
  | connect _ _ _ _ _ | connectUri _ _ _ => exact absurd trivial hconnects
  | acquire asked request onConnect =>
      obtain rfl := h.eq_of_touches (.inl ⟨request, onConnect, rfl⟩) hmem rfl
      exact .inl ⟨request, onConnect, rfl⟩
  | spawn asked count =>
      obtain rfl := h.eq_of_touches (.inr ⟨count, rfl⟩) hmem rfl
      exact .inr ⟨count, rfl⟩
  | reclaim _ | disconnect _ _ | advance _ _ | session _ _ | shutdown => exact hprovides.elim

end ConnPool
