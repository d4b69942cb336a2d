/-
  ConnPool.Proofs.Worker.Settling

  What becomes of a pool that is only lent from and given back to.

  A context is settled on a pool if all of its connections belong to the pool
  or were lent in its stead, and the pool is not below its floor, nor above it
  while it lends nothing.  The first acquisition settles the context, provided
  that what it opens comes to life; every acquisition and every return after
  that keeps it settled, whatever comes of the openings.
-/

import ConnPool.Proofs.Worker.Borrowing

namespace ConnPool

variable {ω ρ κ : Type}

/-! ## Connections of one pool -/

/-- Every connection belongs to the pool under `key` or was lent in its
    stead. -/
def Context.Serves (ctx : Context ρ κ) (key : PoolKey) : Prop :=
  ∀ id conn, ctx.conn? id = some conn →
    conn.membership.pool? = some key ∨
      (conn.membership = .registry ∧ conn.overflowOf = some key)

namespace Context.Serves

variable {ctx : Context ρ κ} {key : PoolKey} {id : ConnId} {conn : Connection ρ κ}

theorem pool_eq {k : PoolKey} (h : ctx.Serves key) (hconn : ctx.conn? id = some conn)
    (hpool : conn.membership.pool? = some k) : k = key := by
  rcases h id conn hconn with hkey | ⟨hdirect, -⟩
  · exact Option.some.inj (hpool.symm.trans hkey)
  · rw [hdirect] at hpool
    cases hpool

theorem overflowOf_eq (h : ctx.Serves key) (hconn : ctx.conn? id = some conn)
    (hdirect : conn.membership = .registry) : conn.overflowOf = some key := by
  rcases h id conn hconn with hkey | ⟨-, hoverflow⟩
  · rw [hdirect] at hkey
    cases hkey
  · exact hoverflow

end Context.Serves

/-- Whether an act opens connections of the pool under `key` at most. -/
def Act.OpensFor (key : PoolKey) : Act ρ κ → Prop
  | opened _ _ conn _ => conn.membership.pool? = some key
  | noted _ | asked .. | poolCreated .. | openFailed .. | openSpoiled .. | stepped .. | lent ..
  | takenBack .. | adopted .. | tagged .. | deferred .. | finished .. | poolsDropped => True

namespace Act

variable {v : View ρ κ} {act : Act ρ κ} {key : PoolKey}

theorem OpensFor.of_idle (h : act.Idle key) : act.OpensFor key := by
  cases act with
  | opened id target conn poll =>
      show conn.membership.pool? = some key
      rw [h.1]
      rfl
  | noted _ | asked _ _ _ | poolCreated _ _ | openFailed _ _ _ _ | openSpoiled _ _ _
  | stepped _ _ _ | lent _ _ _ _ _ _ | takenBack _ _ _ _ | adopted _ _ _ _ | tagged _ _ _
  | deferred _ _ _ | finished _ _ _ | poolsDropped => trivial

theorem OpensFor.of_not_opens (h : ∀ id, ¬act.Opens id) : act.OpensFor key := by
  cases act with
  | opened id target conn poll => exact absurd rfl (h id)
  | noted _ | asked _ _ _ | poolCreated _ _ | openFailed _ _ _ _ | openSpoiled _ _ _
  | stepped _ _ _ | lent _ _ _ _ _ _ | takenBack _ _ _ _ | adopted _ _ _ _ | tagged _ _ _
  | deferred _ _ _ | finished _ _ _ | poolsDropped => trivial

/-- Connections are passed between the pool and its borrowers only. -/
theorem serves_run (enabled : act.Enabled v) (hw : v.ctx.Orderly) (hopens : act.OpensFor key)
    (h : v.ctx.Serves key) : (act.run v).ctx.Serves key := by
  intro other conn' hconn'
  rcases conn?_of_run enabled hw hconn' with hold | hchange
  · exact h other conn' hold
  · cases act with
    | noted _ | asked _ _ _ | poolCreated _ _ | openFailed _ _ _ _ | openSpoiled _ _ _
    | poolsDropped | finished _ _ _ => cases hchange
    | opened id target conn poll =>
        cases hchange
        exact .inl hopens
    | stepped id conn _ | deferred id conn _ =>
        cases hchange
        exact h other conn enabled.1
    | lent id conn k _ _ _ | takenBack id conn k _ =>
        cases hchange
        obtain rfl : k = key := h.pool_eq enabled.1 (congrArg Membership.pool? enabled.2)
        exact .inl rfl
    | adopted id conn k size =>
        cases hchange
        exact .inl (enabled.2.2.1.symm.trans (h.overflowOf_eq enabled.1 enabled.2.1))
    | tagged id conn k =>
        -- a direct connection of such a context is tagged already
        have htagged := h.overflowOf_eq enabled.1 enabled.2.1
        rw [enabled.2.2.1] at htagged
        cases htagged

/-- What is given back is given back to the pool. -/
theorem Returns.eq_key {id : ConnId} {k : PoolKey} (hreturns : act.Returns id k)
    (enabled : act.Enabled v) (h : v.ctx.Serves key) : k = key := by
  rcases hreturns.cases with ⟨conn, load, rfl⟩ | ⟨conn, size, rfl⟩
  · exact h.pool_eq enabled.1 (congrArg Membership.pool? enabled.2)
  · exact Option.some.inj (enabled.2.2.1.symm.trans (h.overflowOf_eq enabled.1 enabled.2.1))

/-- What is given back neither ends nor comes to life. -/
theorem Returns.not_ends {id : ConnId} {k : PoolKey} (hreturns : act.Returns id k) :
    (∀ other, ¬act.Ends other) ∧ ∀ other, ¬act.Opens other := by
  rcases hreturns.cases with ⟨conn, load, rfl⟩ | ⟨conn, size, rfl⟩
  · exact ⟨fun _ h => h, fun _ h => h⟩
  · exact ⟨fun _ h => h, fun _ h => h⟩

end Act

section

variable {v v' : View ρ κ} {acts : List (Act ρ κ)} {key : PoolKey}

theorem Path.serves (h : Path v acts v') (hw : v.ctx.Orderly)
    (hopens : ∀ act ∈ acts, act.OpensFor key) (hv : v.ctx.Serves key) : v'.ctx.Serves key := by
  induction h with
  | nil => exact hv
  | cons enabled _ ih =>
      obtain ⟨hact, hrest⟩ := List.forall_mem_cons.1 hopens
      exact ih (Act.orderly_run enabled hw) hrest (Act.serves_run enabled hw hact hv)

/-- An acquisition opens connections for the pool, and one in its stead. -/
theorem Acquisition.serves {request : Option ρ} {onConnect : Option κ}
    {outcome : Except PoolError ConnId} (h : Acquisition key request onConnect outcome acts)
    (hpath : Path v acts v') (hw : v.ctx.Orderly) (hv : v.ctx.Serves key) :
    v'.ctx.Serves key := by
  cases h with
  | unregistered => exact hpath.serves hw (List.forall_mem_nil _) hv
  | exhausted acts hidle =>
      exact hpath.serves hw (fun act hmem => .of_idle (hidle act hmem)) hv
  | lent acts hidle id conn load =>
      refine hpath.serves hw (List.forall_mem_append.2 ⟨fun act hmem => ?_, ?_⟩) hv
      · exact .of_idle (hidle act hmem)
      · exact List.forall_mem_singleton.2 trivial
  | failed acts hidle target error act hopening =>
      refine hpath.serves hw (List.forall_mem_append.2 ⟨fun act hmem => ?_, ?_⟩) hv
      · exact .of_idle (hidle act hmem)
      · refine List.forall_mem_singleton.2 ?_
        cases hopening with
        | unstarted _ _ _ | spoiled _ _ | failed _ _ _ _ _ _ _ _ => trivial
  | direct acts hidle id target conn poll hopening =>
      obtain ⟨v₁, hfirst, hlast⟩ := hpath.of_append
      have hw₁ := hfirst.orderly hw
      have hv₁ := hfirst.serves hw (fun act hmem => .of_idle (hidle act hmem)) hv
      cases hlast with
      | cons hopened hrest =>
          cases hrest with
          | cons htagged hnil =>
              cases hnil
              intro other conn' hconn'
              rw [Act.conn?_run htagged (Act.orderly_run hopened hw₁)] at hconn'
              simp only [Act.change] at hconn'
              split at hconn'
              · -- the connection that was just opened is the one tagged
                obtain rfl := Option.some.inj hconn'
                exact .inr ⟨htagged.2.1, rfl⟩
              · rename_i hne
                rw [Act.conn?_run hopened hw₁] at hconn'
                simp only [Act.change, if_neg hne] at hconn'
                exact hv₁ other conn' hconn'

end

/-! ## Pools that lend -/

/-- A path that ends with lending leaves something lent. -/
theorem Path.busy_ne_nil_of_lent {v v' : View ρ κ} {acts : List (Act ρ κ)} {key : PoolKey}
    {id : ConnId} {conn : Connection ρ κ} {request : Option ρ} {onConnect : Option κ}
    {load : PoolLoad} (h : Path v (acts ++ [.lent id conn key request onConnect load]) v')
    (hw : v.ctx.Orderly) : v'.ctx.collection (.busy key) ≠ [] := by
  obtain ⟨v₁, hfirst, hlast⟩ := h.of_append
  cases hlast with
  | cons enabled hrest =>
      cases hrest
      rw [Act.collection_run enabled (hfirst.orderly hw), Act.listed, if_pos rfl]
      exact List.append_ne_nil_of_right_ne_nil _ (List.cons_ne_nil _ _)

/-- An acquisition leaves something lent if something was lent before. -/
theorem Acquisition.busy_ne_nil {key : PoolKey} {request : Option ρ} {onConnect : Option κ}
    {outcome : Except PoolError ConnId} {acts : List (Act ρ κ)}
    (h : Acquisition key request onConnect outcome acts) {v v' : View ρ κ}
    (hpath : Path v acts v') (hw : v.ctx.Orderly) (hbusy : v.ctx.collection (.busy key) ≠ []) :
    v'.ctx.collection (.busy key) ≠ [] := by
  have hgrows : (∀ act ∈ acts, act.struck (.busy key) = []) →
      v'.ctx.collection (.busy key) ≠ [] := by
    intro hstruck
    rw [hpath.collection_eq_append hw hstruck]
    exact List.append_ne_nil_of_left_ne_nil hbusy _
  cases h with
  | unregistered => exact hgrows (List.forall_mem_nil _)
  | exhausted acts hidle => exact hgrows fun act hmem => (hidle act hmem).struck_eq_nil _
  | lent acts hidle id conn load => exact hpath.busy_ne_nil_of_lent hw
  | direct acts hidle id target conn poll hopening =>
      refine hgrows (List.forall_mem_append.2 ⟨fun act hmem => ?_, ?_⟩)
      · exact (hidle act hmem).struck_eq_nil _
      · exact List.forall_mem_cons.2 ⟨rfl, List.forall_mem_singleton.2 rfl⟩
  | failed acts hidle target error act hopening =>
      refine hgrows (List.forall_mem_append.2 ⟨fun act hmem => ?_, ?_⟩)
      · exact (hidle act hmem).struck_eq_nil _
      · refine List.forall_mem_singleton.2 ?_
        cases hopening with
        | unstarted _ _ _ | spoiled _ _ | failed _ _ _ _ _ _ _ _ => rfl

/-- An acquisition neither ends connections nor drops pools. -/
theorem Acquisition.belongsTo {key : PoolKey} {request : Option ρ} {onConnect : Option κ}
    {outcome : Except PoolError ConnId} {acts : List (Act ρ κ)}
    (h : Acquisition key request onConnect outcome acts) :
    ∀ act ∈ acts, act.BelongsTo (.acquire key request onConnect) (.opened outcome) :=
  (Course.acquire h).belongsTo

/-! ## Settled pools -/

/-- The context serves the pool under `key`, which is not below its floor, nor
    above it while nothing is lent. -/
structure Context.Settled (ctx : Context ρ κ) (key : PoolKey) (config : PoolConfig) : Prop where
  pool : ctx.poolConfig? key = some config
  serves : ctx.Serves key
  floor : config.minSize ≤ ctx.poolSize key
  rests : ctx.collection (.busy key) = [] → ctx.poolSize key = config.minSize

namespace Context.Settled

variable {ctx : Context ρ κ} {key : PoolKey} {config : PoolConfig}

/-- Where nothing is lent, every connection is idle in the pool. -/
theorem membership_of_not_lent (h : ctx.Settled key config)
    (hnone : ∀ id, ¬ctx.Lent id key) {id : ConnId} {conn : Connection ρ κ}
    (hconn : ctx.conn? id = some conn) : conn.membership = .free key := by
  have hnot : ¬conn.LentFor key := fun hlent => hnone id ⟨conn, hconn, hlent⟩
  rcases h.serves id conn hconn with hpool | hdirect
  · cases hmembership : conn.membership with
    | registry =>
        rw [hmembership] at hpool
        cases hpool
    | free k =>
        rw [hmembership] at hpool
        exact congrArg _ (Option.some.inj hpool)
    | busy k =>
        rw [hmembership] at hpool
        obtain rfl : k = key := Option.some.inj hpool
        exact absurd (.inl hmembership) hnot
  · exact absurd (.inr hdirect) hnot

theorem collection_of_not_lent (h : ctx.Settled key config) (hw : ctx.Orderly)
    (hnone : ∀ id, ¬ctx.Lent id key) {membership : Membership} (hne : membership ≠ .free key) :
    ctx.collection membership = [] := by
  refine List.eq_nil_iff_forall_not_mem.2 fun id hmem => ?_
  obtain ⟨conn, hconn, rfl⟩ := hw.conn?_of_mem hmem
  exact hne (h.membership_of_not_lent hnone hconn)

/-- Where nothing is lent, the connections are as many as the floor asks
    for. -/
theorem count_of_not_lent (h : ctx.Settled key config) (hw : ctx.Orderly)
    (ha : ctx.conns.Addressable) (hnone : ∀ id, ¬ctx.Lent id key) :
    ctx.count = config.minSize := by
  have hbusy := h.collection_of_not_lent hw hnone (by simp : Membership.busy key ≠ .free key)
  have hperm : ctx.conns.ids.Perm (ctx.collection (.free key)) :=
    (List.perm_ext_iff_of_nodup (Arena.nodup_ids ha) (hw.nodup _)).2 fun id => by
      rw [Arena.mem_ids ha]
      constructor
      · intro hlive
        obtain ⟨conn, hconn⟩ := Option.isSome_iff_exists.1 hlive
        have hmem := hw.mem_of_conn? hconn
        rwa [h.membership_of_not_lent hnone hconn] at hmem
      · intro hmem
        obtain ⟨conn, hconn, -⟩ := hw.conn?_of_mem hmem
        exact Option.isSome_of_eq_some hconn
  have hsize := h.rests hbusy
  rw [poolSize, hbusy] at hsize
  rw [count, hw.arena.size_eq_length_ids, hperm.length_eq]
  exact hsize

end Context.Settled

/-- A direct connection has no share in the pool, which stays as it is when the
    connection is released. -/
theorem Act.settled_run_of_dismissed {v : View ρ κ} {id : ConnId} {conn : Connection ρ κ}
    {k key : PoolKey} {config : PoolConfig}
    (enabled : (Act.finished id conn (.dismissed k)).Enabled v) (hw : v.ctx.Orderly)
    (h : v.ctx.Settled key config) :
    ((Act.finished id conn (.dismissed k)).run v).ctx.Settled key config := by
  have hsize := hw.poolSize_without enabled.1 key
  rw [enabled.2.1] at hsize
  have hbusy := Act.collection_run enabled hw (.busy key)
  rw [Act.struck, enabled.2.1, if_neg Membership.noConfusion, filter_not_mem_nil, Act.listed,
    List.append_nil] at hbusy
  constructor
  case pool => exact Act.poolConfig?_run enabled (by simp) h.pool
  case serves => exact Act.serves_run enabled hw trivial h.serves
  case floor => exact Nat.le_trans h.floor (Nat.le_of_eq hsize.symm)
  case rests =>
    intro hnil
    rw [hbusy] at hnil
    exact hsize.trans (h.rests hnil)

namespace Worker

variable [Environment ω]

/-- The first acquisition opens at least as many connections as the floor of
    the pool asks for. -/
theorem settled_of_first {w w' : Worker ω ρ κ} {key : PoolKey} {config : PoolConfig}
    {request : Option ρ} {onConnect : Option κ} {outcome : Except PoolError ConnId}
    (hw : w.ctx.Orderly) (hnone : ∀ id, w.ctx.conn? id = none)
    (hpool : w.ctx.pools.get? key = none) (hconfig : w.ctx.configs.get? key = some config)
    (hpos : 0 < config.minSize) (hbounds : config.minSize ≤ config.maxSize)
    (h : w.acquire key request onConnect = (outcome, w')) (ha : w'.view.slotCount ≤ 2 ^ 32)
    (hopens : ∀ acts, Path w.view acts w'.view → ∀ act ∈ acts, ¬act.FailsToOpen) :
    w'.ctx.Settled key config := by
  rcases hlook : w.poolAt key with ⟨result, w₁⟩
  have hfst := congrArg Prod.fst (poolAt_of_none hpool hconfig)
  rw [hlook] at hfst
  obtain rfl : result = .ok { config } := hfst
  rcases poolAt_cases hlook with ⟨herror, -⟩ | ⟨pool, acts₁, hok, hget, hfinding, hpath₁⟩
  · cases herror
  obtain rfl : { config } = pool := Except.ok.inj hok
  have hw₁ := hpath₁.orderly hw
  rw [acquire_of_poolAt hlook hget] at h
  have hroom : ({ config } : Pool).size < config.maxSize := Nat.lt_of_lt_of_le hpos hbounds
  obtain ⟨ids, acts₂, record, hgrowing, hends⟩ := acquire_of_room hw₁ hget rfl hroom h ha
  -- the pool is asked for its floor at least, and gets what it is asked for
  have hlength : config.minSize ≤ ids.length := by
    have hopens₂ : ∀ act ∈ acts₂, ¬act.FailsToOpen := by
      intro act hmem
      rcases hends with ⟨-, -, hpath⟩ | ⟨-, id, conn, load, -, v₁, -, hgrown, -, -, hlent⟩
      · exact hopens _ (hpath₁.append hpath) act (by simp [hmem])
      · exact hopens _ (hpath₁.append (hgrown.append hlent)) act (by simp [hmem])
    have hgrowth : config.minSize ≤ 0 + config.growth 0 :=
      PoolConfig.minSize_le_add_growth hbounds 0
    rw [hgrowing.length_eq hopens₂]
    rwa [Nat.zero_add] at hgrowth
  rcases hends with ⟨rfl, -, -⟩ | ⟨-, id, conn, load, -, v₁, -, hprepared, -, -, hlent⟩
  · exact absurd hlength (Nat.not_le.2 hpos)
  have hpath := hprepared.append hlent
  constructor
  case pool =>
    refine hpath.poolConfig? ?_ (Context.poolConfig?_of_get? hget)
    simp [Act.poolsDropped_not_mem hgrowing.idle]
  case serves =>
    have hvacuous : w.ctx.Serves key := fun id conn hconn => by
      rw [hnone] at hconn
      cases hconn
    have hserves₁ := hpath₁.serves hw (fun act hmem => .of_idle (hfinding.idle act hmem)) hvacuous
    refine hpath.serves hw₁ (List.forall_mem_append.2 ⟨fun act hmem => ?_, ?_⟩) hserves₁
    · exact .of_idle (idle_append_noted hgrowing.idle record act hmem)
    · exact List.forall_mem_singleton.2 trivial
  case floor =>
    rw [List.append_assoc] at hpath
    obtain ⟨v₂, hgrown, hlent⟩ := hpath.of_append
    have hfree := hgrowing.collection_free hgrown hw₁
    have hsize₂ : ids.length ≤ v₂.ctx.poolSize key := by
      rw [Context.poolSize, hfree, List.length_append]
      omega
    have hsize := hlent.poolSize_le (hgrown.orderly hw₁) (by simp [Act.Ends]) key
    exact Nat.le_trans hlength (Nat.le_trans hsize₂ hsize)
  case rests => exact fun hnil => absurd hnil (hpath.busy_ne_nil_of_lent hw₁)

/-- Every later acquisition leaves something lent. -/
theorem settled_of_acquire {w w' : Worker ω ρ κ} {key : PoolKey} {config : PoolConfig}
    {request : Option ρ} {onConnect : Option κ} {outcome : Except PoolError ConnId}
    (hw : w.ctx.Orderly) (hsettled : w.ctx.Settled key config) (hpos : 0 < config.minSize)
    (h : w.acquire key request onConnect = (outcome, w')) (ha : w'.view.slotCount ≤ 2 ^ 32) :
    w'.ctx.Settled key config := by
  obtain ⟨acts, hacquisition, hpath⟩ := acquire_path hw h ha
  have hbelongs := hacquisition.belongsTo
  have hprovides : (Operation.acquire key request onConnect).Provides := trivial
  constructor
  case pool =>
    refine hpath.poolConfig? (fun hmem => ?_) hsettled.pool
    cases hbelongs _ hmem
  case serves => exact hacquisition.serves hpath hw hsettled.serves
  case floor =>
    have hends : ∀ act ∈ acts, ∀ id, ¬act.Ends id := fun act hmem =>
      (hbelongs act hmem).not_ends hprovides
    exact Nat.le_trans hsettled.floor (hpath.poolSize_le hw hends key)
  case rests =>
    refine fun hnil => absurd hnil ?_
    obtain ⟨pool, hpool, -⟩ := Option.map_eq_some_iff.1 hsettled.pool
    by_cases hfree : pool.free = []
    · -- a pool at its floor that has nothing idle lends what it has
      refine hacquisition.busy_ne_nil hpath hw fun hbusy => ?_
      have hsize := hsettled.floor
      rw [ctx_view] at hbusy
      rw [Context.poolSize, Context.collection_free_of_get? hpool, hfree, hbusy] at hsize
      exact absurd hsize (Nat.not_le.2 hpos)
    · obtain ⟨id, conn, load, -, -, hlent⟩ := acquire_of_free hw hpool hfree h
      rw [← List.nil_append [Act.lent ..]] at hlent
      exact hlent.busy_ne_nil_of_lent hw

/-- A pool that something has come back to shrinks to its floor if it lends
    nothing now. -/
theorem settled_of_shrink {v : View ρ κ} {w : Worker ω ρ κ} {key : PoolKey} {config : PoolConfig}
    {id : ConnId} {act : Act ρ κ} {pool : Pool} (hw : v.ctx.Orderly)
    (hsettled : v.ctx.Settled key config) (hreturns : act.Returns id key) (enabled : act.Enabled v)
    (hrun : act.run v = w.view) (hpool : w.ctx.pools.get? key = some pool) :
    (w.shrink key).ctx.Settled key config := by
  obtain ⟨hends, hnotOpens⟩ := hreturns.not_ends
  -- the connection that comes back takes nothing from the size of the pool
  have hw₁ := Act.orderly_run enabled hw
  have hconfig := Act.poolConfig?_run enabled (by rintro rfl; exact hreturns) hsettled.pool
  have hsize := Act.poolSize_le_run enabled hw hends key
  rw [hrun, ctx_view] at hw₁ hconfig hsize
  rw [Context.poolConfig?_of_get? hpool] at hconfig
  obtain rfl := Option.some.inj hconfig
  rw [Context.poolSize_of_get? hpool] at hsize
  have hfloor : pool.config.minSize ≤ pool.size := Nat.le_trans hsettled.floor hsize
  obtain ⟨acts, hshrinks, hpath, hshrunk⟩ := shrink_path hw₁ hpool
  constructor
  case pool =>
    have hsame := Context.poolConfig?_of_get? hshrunk
    exact hsame
  case serves =>
    rw [← hrun] at hpath
    refine (Path.cons enabled hpath).serves hw ?_ hsettled.serves
    refine List.forall_mem_cons.2 ⟨.of_not_opens hnotOpens, fun act hmem => ?_⟩
    obtain ⟨i, conn, load, rfl⟩ := (hshrinks act hmem).eq_finished
    trivial
  case floor =>
    rw [Context.poolSize_of_get? hshrunk]
    exact Pool.minSize_le_size_shrunk hfloor
  case rests =>
    intro hnil
    rw [Context.collection_busy_of_get? hshrunk] at hnil
    rw [Context.poolSize_of_get? hshrunk]
    exact Pool.size_shrunk_of_busy_eq_nil hfloor hnil

/-- A connection that is taken back goes to the pool, which then shrinks, or it
    is released and the pool stays as it was. -/
theorem settled_of_reclaim {w w' : Worker ω ρ κ} {key : PoolKey} {config : PoolConfig}
    {id : ConnId} {status : Status} (hw : w.ctx.Orderly) (hsettled : w.ctx.Settled key config)
    (h : w.reclaim id = (status, w')) : w'.ctx.Settled key config := by
  rcases reclaim_cases hw h with ⟨-, rfl⟩ | ⟨-, rfl⟩ | ⟨-, htaken⟩
  · exact hsettled
  · exact hsettled
  · cases htaken with
    | returned k act w₁ pool hreturns enabled hrun hpool =>
        obtain rfl : k = key := hreturns.eq_key enabled hsettled.serves
        exact settled_of_shrink hw hsettled hreturns enabled hrun hpool
    | dismissed conn k w' hpath =>
        show w'.view.ctx.Settled key config
        generalize w'.view = v' at hpath
        cases hpath with
        | cons enabled hnil =>
            cases hnil
            exact Act.settled_run_of_dismissed enabled hw hsettled

end Worker
end ConnPool
