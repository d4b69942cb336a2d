/-
  ConnPool.Proofs.Context.Accounted

  What the membership invariant says about the lists as a whole.

  In a context in order, the registry list, the idle queues and the busy lists
  together list every live connection once and nothing else.  Hence they add
  up to the number of connections, and an audit finds nothing.
-/

import ConnPool.Proofs.Context.Orderly

namespace ConnPool
namespace Context

variable {ρ κ : Type} {ctx : Context ρ κ} {id : ConnId}

/-- Every id that a context lists, in whichever collection. -/
def listed (ctx : Context ρ κ) : List ConnId :=
  ctx.registry ++ ctx.allFree ++ ctx.allBusy

/-- The collections account for every live connection. -/
structure Accounted (ctx : Context ρ κ) : Prop where
  /-- Each live connection is listed once in all. -/
  count_listed : ∀ id conn, ctx.conn? id = some conn →
    ctx.registry.count id + ctx.allFree.count id + ctx.allBusy.count id = 1
  /-- It is listed where its membership says. -/
  mem_collection : ∀ id conn, ctx.conn? id = some conn → id ∈ ctx.collection conn.membership
  /-- What is listed is live. -/
  conn?_of_listed : ∀ id ∈ ctx.listed, ∃ conn, ctx.conn? id = some conn
  size_le : ∀ key pool, ctx.pools.get? key = some pool → pool.size ≤ pool.config.maxSize
  count_eq : ctx.count = ctx.registry.length + (ctx.pools.values.map Pool.size).sum
  audit_eq : ctx.audit = .ok ()

/-! ## All lists together -/

theorem mem_values {pools : KeyMap Pool} {pool : Pool} :
    pool ∈ pools.values ↔ ∃ key, pools.get? key = some pool := by
  rw [KeyMap.values, List.mem_map]
  constructor
  · rintro ⟨⟨key, pool⟩, hmem, rfl⟩
    exact ⟨key, KeyMap.mem_entries.1 hmem⟩
  · rintro ⟨key, hget⟩
    exact ⟨(key, pool), KeyMap.mem_entries.2 hget, rfl⟩

/-- What the pools list in one of their lists, they list under a membership. -/
theorem mem_flatMap_values {list : Pool → List ConnId} {membership : PoolKey → Membership}
    (hlist : ∀ key, ctx.collection (membership key) = ((ctx.pools.get? key).map list).getD []) :
    id ∈ ctx.pools.values.flatMap list ↔ ∃ key, id ∈ ctx.collection (membership key) := by
  rw [List.mem_flatMap]
  constructor
  · rintro ⟨pool, hpool, hmem⟩
    obtain ⟨key, hget⟩ := mem_values.1 hpool
    refine ⟨key, ?_⟩
    rw [hlist, hget]
    exact hmem
  · rintro ⟨key, hmem⟩
    rw [hlist] at hmem
    cases hget : ctx.pools.get? key with
    | none => simp [hget] at hmem
    | some pool =>
        rw [hget] at hmem
        exact ⟨pool, mem_values.2 ⟨key, hget⟩, hmem⟩

theorem mem_allFree : id ∈ ctx.allFree ↔ ∃ key, id ∈ ctx.collection (.free key) :=
  mem_flatMap_values fun _ => rfl

theorem mem_allBusy : id ∈ ctx.allBusy ↔ ∃ key, id ∈ ctx.collection (.busy key) :=
  mem_flatMap_values fun _ => rfl

/-- Lists of different pools have nothing in common. -/
theorem Orderly.nodup_flatMap (hw : ctx.Orderly) (list : Pool → List ConnId)
    (membership : PoolKey → Membership) (hinj : ∀ k k', membership k = membership k' → k = k')
    (hlist : ∀ key pool, ctx.pools.get? key = some pool →
      ctx.collection (membership key) = list pool) : (ctx.pools.values.flatMap list).Nodup := by
  rw [KeyMap.values, List.Nodup, List.pairwise_flatMap, List.pairwise_map]
  refine ⟨fun pool hmem => ?_, ctx.pools.sorted.imp_of_mem fun {x y} hx hy hlt => ?_⟩
  · obtain ⟨key, hget⟩ := mem_values.1 hmem
    rw [← hlist key pool hget]
    exact hw.nodup (membership key)
  · intro a ha b hb hab
    rw [← hlist x.1 x.2 (KeyMap.mem_entries.1 hx), hw.mem_collection] at ha
    rw [← hlist y.1 y.2 (KeyMap.mem_entries.1 hy), hw.mem_collection, ← hab, ha] at hb
    -- one id cannot have two memberships
    have hkeys : x.1 = y.1 := hinj _ _ (Option.some.inj hb)
    rw [hkeys] at hlt
    exact String.lt_irrefl _ hlt

theorem Orderly.mem_listed (hw : ctx.Orderly) : id ∈ ctx.listed ↔ (ctx.conn? id).isSome := by
  rw [listed, List.mem_append, List.mem_append, mem_allFree, mem_allBusy]
  constructor
  · have hlive : ∀ membership, id ∈ ctx.collection membership → (ctx.conn? id).isSome := by
      intro membership hmem
      obtain ⟨conn, hconn, -⟩ := hw.conn?_of_mem hmem
      exact Option.isSome_of_eq_some hconn
    rintro ((hmem | ⟨key, hmem⟩) | ⟨key, hmem⟩)
    · exact hlive .registry hmem
    · exact hlive (.free key) hmem
    · exact hlive (.busy key) hmem
  · intro hsome
    obtain ⟨conn, hconn⟩ := Option.isSome_iff_exists.1 hsome
    have hmem := hw.mem_of_conn? hconn
    cases hmembership : conn.membership with
    | registry =>
        rw [hmembership] at hmem
        exact .inl (.inl hmem)
    | free key =>
        rw [hmembership] at hmem
        exact .inl (.inr ⟨key, hmem⟩)
    | busy key =>
        rw [hmembership] at hmem
        exact .inr ⟨key, hmem⟩

/-- No id is listed twice. -/
theorem Orderly.nodup_listed (hw : ctx.Orderly) : ctx.listed.Nodup := by
  have hfree : ctx.allFree.Nodup := hw.nodup_flatMap Pool.free .free
    (fun _ _ h => Membership.free.inj h) fun _ _ => collection_free_of_get?
  have hbusy : ctx.allBusy.Nodup := hw.nodup_flatMap Pool.busy .busy
    (fun _ _ h => Membership.busy.inj h) fun _ _ => collection_busy_of_get?
  refine List.nodup_append.2 ⟨List.nodup_append.2 ⟨hw.nodup .registry, hfree, ?_⟩, hbusy, ?_⟩
  · -- a direct connection is not idle
    rintro a ha b hb rfl
    obtain ⟨key, hmem⟩ := mem_allFree.1 hb
    have hregistry := (hw.mem_collection .registry a).1 ha
    rw [(hw.mem_collection _ a).1 hmem] at hregistry
    cases hregistry
  · -- a lent connection is neither direct nor idle
    rintro a ha b hb rfl
    obtain ⟨key, hmem⟩ := mem_allBusy.1 hb
    have hlent := (hw.mem_collection _ a).1 hmem
    rcases List.mem_append.1 ha with ha | ha
    · rw [(hw.mem_collection .registry a).1 ha] at hlent
      cases hlent
    · obtain ⟨key', hmem'⟩ := mem_allFree.1 ha
      rw [(hw.mem_collection _ a).1 hmem'] at hlent
      cases hlent

/-! ## Sums -/

theorem length_listed (ctx : Context ρ κ) :
    ctx.listed.length = ctx.registry.length + (ctx.pools.values.map Pool.size).sum := by
  -- a pool lists as many as its two lists together
  have hsum : ∀ pools : List Pool,
      (pools.flatMap Pool.free).length + (pools.flatMap Pool.busy).length =
        (pools.map Pool.size).sum := by
    intro pools
    induction pools with
    | nil => rfl
    | cons pool rest ih =>
        simp only [List.flatMap_cons, List.length_append, List.map_cons, List.sum_cons, ← ih,
          Pool.size]
        omega
  rw [listed, List.length_append, List.length_append, allFree, allBusy, Nat.add_assoc, hsum]

/-- Every live connection is listed once. -/
theorem Orderly.count_eq (hw : ctx.Orderly) (ha : ctx.conns.Addressable) :
    ctx.count = ctx.registry.length + (ctx.pools.values.map Pool.size).sum := by
  -- both list the live connections, and neither lists one twice
  have hperm : ctx.conns.ids.Perm ctx.listed :=
    (List.perm_ext_iff_of_nodup (Arena.nodup_ids ha) hw.nodup_listed).2 fun id => by
      rw [Arena.mem_ids ha, hw.mem_listed]
      rfl
  rw [count, hw.arena.size_eq_length_ids, hperm.length_eq, length_listed]

/-! ## Audits -/

theorem Orderly.count_listed (hw : ctx.Orderly) {conn : Connection ρ κ}
    (h : ctx.conn? id = some conn) :
    ctx.registry.count id + ctx.allFree.count id + ctx.allBusy.count id = 1 := by
  have hcount : ctx.listed.count id = 1 := by
    rw [hw.nodup_listed.count, if_pos]
    rw [hw.mem_listed, h]
    rfl
  rwa [listed, List.count_append, List.count_append] at hcount

/-- An audit of a context in order finds nothing. -/
theorem Orderly.audit_eq (hw : ctx.Orderly) (ha : ctx.conns.Addressable) :
    ctx.audit = .ok () := by
  -- the audit looks at the connections, then at the lists, then at the pools
  have hconns : ∀ entry ∈ ctx.conns.entries, ctx.connFault? entry.1 entry.2 = none := by
    intro entry hmem
    have hconn : ctx.conn? entry.1 = some entry.2 := (Arena.mem_entries ha).1 hmem
    have hplace : ¬entry.1 ∉ ctx.collection entry.2.membership := fun hnot =>
      hnot (hw.mem_of_conn? hconn)
    simp only [connFault?, hw.count_listed hconn, ne_eq, not_true, if_false]
    exact if_neg hplace
  have hlisted : ∀ id ∈ ctx.registry ++ ctx.allFree ++ ctx.allBusy,
      ¬(!ctx.conns.contains id) = true := by
    intro id hmem
    have hlive : ctx.conns.contains id = true := hw.mem_listed.1 hmem
    rw [hlive]
    exact Bool.false_ne_true
  have hpools : ∀ entry ∈ ctx.pools.entries, poolFault? entry.1 entry.2 = none := by
    intro entry hmem
    have hget := KeyMap.mem_entries.1 hmem
    have hsize := hw.size_le_of_get? hget
    have hfree : entry.2.free.length ≤ entry.2.size := Nat.le_add_right _ _
    exact if_neg (by omega)
  have hnone : ctx.auditFault? = none := by
    rw [auditFault?, List.findSome?_eq_none_iff.2 hconns, List.find?_eq_none.2 hlisted,
      List.findSome?_eq_none_iff.2 hpools]
    rfl
  rw [audit, hnone]

theorem Orderly.accounted (hw : ctx.Orderly) (ha : ctx.conns.Addressable) : ctx.Accounted where
  count_listed _ _ h := hw.count_listed h
  mem_collection _ _ h := hw.mem_of_conn? h
  conn?_of_listed _ hmem := Option.isSome_iff_exists.1 (hw.mem_listed.1 hmem)
  size_le _ _ h := hw.size_le_of_get? h
  count_eq := hw.count_eq ha
  audit_eq := hw.audit_eq ha

end Context
end ConnPool
