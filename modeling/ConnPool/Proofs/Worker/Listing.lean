/-
  ConnPool.Proofs.Worker.Listing

  What acts do to the collections.

  An act strikes at most one id from a collection and puts at most one at its
  end; everything else that is listed keeps its place.  So what a path does to
  a list is read off the acts, and the size of a pool goes down only where a
  connection ends.
-/

import ConnPool.Proofs.Worker.Act

namespace ConnPool

variable {ρ κ : Type}

namespace Act

/-- The ids that an act puts at the end of a collection. -/
def listed (membership : Membership) : Act ρ κ → List ConnId
  | opened id _ conn _ => if membership = conn.membership then [id] else []
  | lent id _ key _ _ _ => if membership = .busy key then [id] else []
  | takenBack id _ key _ | adopted id _ key _ => if membership = .free key then [id] else []
  | noted _ | asked .. | poolCreated .. | openFailed .. | openSpoiled .. | stepped .. | tagged ..
  | deferred .. | finished .. | poolsDropped => []

/-- The ids that an act strikes from a collection. -/
def struck (membership : Membership) : Act ρ κ → List ConnId
  | lent id conn _ _ _ _ | takenBack id conn _ _ | adopted id conn _ _ | finished id conn _ =>
    if membership = conn.membership then [id] else []
  | noted _ | asked .. | poolCreated .. | opened .. | openFailed .. | openSpoiled .. | stepped ..
  | tagged .. | deferred .. | poolsDropped => []

end Act

theorem filter_not_mem_nil (ids : List ConnId) :
    (ids.filter fun id => id ∉ ([] : List ConnId)) = ids :=
  List.filter_eq_self.2 fun id _ => by simp

/-- What is left of a list, where at most one id is struck. -/
theorem filter_not_mem_ite (p : Prop) [Decidable p] (id : ConnId) (ids : List ConnId) :
    (ids.filter fun i => i ∉ if p then [id] else []) = if p then ids.filter (· ≠ id) else ids := by
  split
  · simp only [List.mem_singleton]
  · exact filter_not_mem_nil ids

/-- The collections after an act. -/
theorem Act.collection_run {v : View ρ κ} {act : Act ρ κ} (enabled : act.Enabled v)
    (hw : v.ctx.Orderly) (membership : Membership) :
    (act.run v).ctx.collection membership =
      ((v.ctx.collection membership).filter fun id => id ∉ act.struck membership) ++
        act.listed membership := by
  -- an act that strikes nothing and lists nothing leaves the lists alone
  have hsame : v.ctx.collection membership =
      ((v.ctx.collection membership).filter fun id => id ∉ ([] : List ConnId)) ++ [] := by
    rw [filter_not_mem_nil, List.append_nil]
  have hmoves : ∀ {id : ConnId} {conn : Connection ρ κ} {f : Connection ρ κ → Connection ρ κ},
      v.ctx.HasCollection (f conn).membership →
      (v.ctx.transfer id conn f).collection membership =
        ((v.ctx.collection membership).filter fun i =>
          i ∉ if membership = conn.membership then [id] else []) ++
        if membership = (f conn).membership then [id] else [] := by
    intro id conn f hhas
    rw [Context.collection_transfer hhas, filter_not_mem_ite]
  cases act with
  | noted _ | asked _ _ _ | openSpoiled _ _ _ => exact hsame
  | poolCreated key config =>
      exact (Context.collection_createPool config enabled.1 membership).trans hsame
  | opened id target conn poll =>
      obtain ⟨-, -, -, hid, -, hroom, -⟩ := enabled
      have hhas : v.ctx.HasCollection (conn.stepped poll).membership := hroom.hasCollection
      have htaken := Context.collection_takeIn hhas membership
      rw [Context.nextId_congr v.ctx _ conn, ← hid] at htaken
      refine htaken.trans ?_
      show (if membership = conn.membership then v.ctx.collection conn.membership ++ [id]
        else v.ctx.collection membership) = _ ++ if membership = conn.membership then [id] else []
      rw [struck, filter_not_mem_nil]
      split
      · rename_i hm
        rw [hm]
      · rw [List.append_nil]
  | openFailed id target conn ending =>
      exact (Context.collection_attempt v.ctx conn membership).trans hsame
  | stepped id conn poll =>
      exact (Context.collection_modifyConn v.ctx id _ membership).trans hsame
  | deferred id conn onDisconnect =>
      exact (Context.collection_modifyConn v.ctx id _ membership).trans hsame
  | tagged id conn key =>
      -- tagging counts the overflow, and changes no list of the pool
      refine Eq.trans (Context.collection_modifyPool
        (f := fun pool => { pool with overflowCount := pool.overflowCount + 1 })
        (fun _ => rfl) (fun _ => rfl) membership) ?_
      exact (Context.collection_modifyConn v.ctx id _ membership).trans hsame
  | lent id conn key request onConnect load =>
      apply hmoves (f := (·.lentBy key request onConnect))
      -- the pool that a connection is idle in is the one that lends it
      have hhas := hw.hasCollection enabled.1
      rw [enabled.2] at hhas
      exact hhas
  | takenBack id conn key load =>
      apply hmoves (f := (·.returnedTo key))
      have hhas := hw.hasCollection enabled.1
      rw [enabled.2] at hhas
      exact hhas
  | adopted id conn key size =>
      exact hmoves (f := (·.adoptedBy key)) enabled.2.2.2.hasCollection
  | finished id conn ending =>
      show (v.ctx.without id conn).collection membership = _ ++ []
      rw [Context.collection_without, struck, filter_not_mem_ite, List.append_nil]
      split
      · rename_i hm
        rw [hm]
      · rfl
  | poolsDropped =>
      have hbefore := hw.collection_eq_nil enabled membership
      have hafter := (hw.dropPools enabled).collection_eq_nil enabled membership
      rw [hbefore]
      exact hafter

/-- A pool gets smaller only where a connection ends. -/
theorem Act.poolSize_le_run {v : View ρ κ} {act : Act ρ κ} (enabled : act.Enabled v)
    (hw : v.ctx.Orderly) (hends : ∀ id, ¬act.Ends id) (key : PoolKey) :
    v.ctx.poolSize key ≤ (act.run v).ctx.poolSize key := by
  -- lists from which nothing is struck can only get longer
  have hgrows : (∀ m, act.struck m = []) →
      v.ctx.poolSize key ≤ (act.run v).ctx.poolSize key := by
    intro hstruck
    have hlength : ∀ m, (v.ctx.collection m).length ≤ ((act.run v).ctx.collection m).length := by
      intro m
      rw [collection_run enabled hw, hstruck, filter_not_mem_nil, List.length_append]
      exact Nat.le_add_right _ _
    exact Nat.add_le_add (hlength _) (hlength _)
  -- a connection that stays with its pool keeps its share of it
  have hstays : ∀ {id : ConnId} {conn : Connection ρ κ} {f : Connection ρ κ → Connection ρ κ},
      v.ctx.conn? id = some conn → (f conn).membership.pool? = conn.membership.pool? →
      v.ctx.poolSize key ≤ (v.ctx.transfer id conn f).poolSize key := by
    intro id conn f hconn hpool
    have hhas : v.ctx.HasCollection (f conn).membership := fun k hk =>
      hw.hasCollection hconn k (hpool ▸ hk)
    have hsize := hw.poolSize_transfer hconn hhas key
    rw [Membership.share, Membership.share, hpool] at hsize
    omega
  cases act with
  | noted _ | asked _ _ _ | openSpoiled _ _ _ | poolCreated _ _ | opened _ _ _ _
  | openFailed _ _ _ _ | stepped _ _ _ | deferred _ _ _ | tagged _ _ _ | poolsDropped =>
      exact hgrows fun _ => rfl
  | finished id conn ending => exact absurd rfl (hends id)
  | lent id conn k request onConnect load =>
      apply hstays (f := (·.lentBy k request onConnect)) enabled.1
      rw [enabled.2]
      rfl
  | takenBack id conn k load =>
      apply hstays (f := (·.returnedTo k)) enabled.1
      rw [enabled.2]
      rfl
  | adopted id conn k size =>
      have hsize := hw.poolSize_transfer (f := (·.adoptedBy k)) enabled.1
        enabled.2.2.2.hasCollection key
      -- a direct connection had no share in a pool
      rw [enabled.2.1] at hsize
      exact Nat.le.intro hsize.symm

namespace Path

variable {v v' : View ρ κ} {acts : List (Act ρ κ)}

/-- A list from which a path strikes nothing is continued by what the acts
    put at its end. -/
theorem collection_eq_append (h : Path v acts v') (hw : v.ctx.Orderly) {membership : Membership}
    (hstruck : ∀ act ∈ acts, act.struck membership = []) :
    v'.ctx.collection membership =
      v.ctx.collection membership ++ acts.flatMap (Act.listed membership) := by
  induction h with
  | nil => exact (List.append_nil _).symm
  | cons enabled _ ih =>
      obtain ⟨hact, hrest⟩ := List.forall_mem_cons.1 hstruck
      rw [ih (Act.orderly_run enabled hw) hrest, Act.collection_run enabled hw, hact,
        filter_not_mem_nil, List.append_assoc, List.flatMap_cons]

theorem poolSize_le (h : Path v acts v') (hw : v.ctx.Orderly)
    (hends : ∀ act ∈ acts, ∀ id, ¬act.Ends id) (key : PoolKey) :
    v.ctx.poolSize key ≤ v'.ctx.poolSize key := by
  induction h with
  | nil => exact Nat.le_refl _
  | cons enabled _ ih =>
      obtain ⟨hact, hrest⟩ := List.forall_mem_cons.1 hends
      have hle := Act.poolSize_le_run enabled hw hact key
      exact Nat.le_trans hle (ih (Act.orderly_run enabled hw) hrest)

end Path

end ConnPool
