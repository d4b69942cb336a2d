/-
  ConnPool.Proofs.Worker.Release

  The ends of connections as acts.

  Every end is `withdraw` followed by calls and the teardown, and so is told by
  one change of the context, `without`, and one list of events.
-/

import ConnPool.Proofs.Worker.Act

namespace ConnPool
namespace Worker

variable {ω ρ κ : Type} {w : Worker ω ρ κ} {id : ConnId} {conn : Connection ρ κ}

/-- Logging is an act of its own. -/
theorem path_log (w : Worker ω ρ κ) (record : LogRecord) :
    Path w.view [.noted [.logged record]] (w.log record).view := by
  refine .single ?_ rfl
  exact List.forall_mem_singleton.2 trivial

theorem view_tellConnect (w : Worker ω ρ κ) (id : ConnId) (conn : Connection ρ κ)
    (status : Status) :
    (w.tellConnect id conn status).view = w.view.tell (conn.connectCall id status) := by
  rw [tellConnect, Connection.connectCall]
  cases conn.onConnect with
  | none => exact (View.tell_nil _).symm
  | some callback => rfl

theorem view_tellDisconnect (w : Worker ω ρ κ) (id : ConnId) (conn : Connection ρ κ)
    (status : Status) :
    (w.tellDisconnect id conn status).view = w.view.tell (conn.disconnectCall id status) := by
  rw [tellDisconnect, Connection.disconnectCall]
  cases conn.onDisconnect with
  | none => exact (View.tell_nil _).symm
  | some callback => rfl

variable [Environment ω]

theorem view_withdraw (h : w.ctx.conn? id = some conn) :
    (w.withdraw id).1 = some conn ∧
      (w.withdraw id).2.view = (w.view.withCtx (·.without id conn)).tell conn.unwatching := by
  have hremove : w.ctx.conns.remove id = (some conn, (w.ctx.conns.remove id).2) :=
    Prod.ext ((Arena.fst_remove w.ctx.conns id).trans h) rfl
  rw [withdraw, hremove]
  refine ⟨rfl, ?_⟩
  -- with and without a socket that is watched
  simp only [Connection.unwatching]
  split
  · rfl
  · rw [View.tell_nil]
    rfl

theorem view_abort (h : w.ctx.conn? id = some conn) (error : PoolError) :
    (w.abort id error).view =
      (w.view.withCtx (·.without id conn)).tell
        (conn.unwatching ++ conn.failureCalls id error ++ [.tornDown conn.session]) := by
  obtain ⟨hfst, hview⟩ := view_withdraw h
  rw [abort]
  rcases hw : w.withdraw id with ⟨conn?, w₁⟩
  rw [hw] at hfst hview
  obtain rfl : conn? = some conn := hfst
  simp only [Connection.failureCalls]
  split
  · simp [view_tellConnect, view_tellDisconnect, hview]
  · simp [view_tellConnect, hview]

theorem view_release (h : w.ctx.conn? id = some conn) (status : Status) :
    (w.release id status).1 = true ∧
      (w.release id status).2.view =
        (w.view.withCtx (·.without id conn)).tell
          (conn.unwatching ++ conn.releaseCalls id status ++ [.tornDown conn.session]) := by
  obtain ⟨hfst, hview⟩ := view_withdraw h
  rw [release]
  rcases hw : w.withdraw id with ⟨conn?, w₁⟩
  rw [hw] at hfst hview
  obtain rfl : conn? = some conn := hfst
  refine ⟨rfl, ?_⟩
  simp [view_tellDisconnect, hview, Connection.releaseCalls]

theorem view_shutdownConn (h : w.ctx.conn? id = some conn) :
    (w.shutdownConn id).view = (Act.finished id conn .shutDown).run w.view := by
  obtain ⟨hfst, hview⟩ := view_withdraw h
  rw [shutdownConn]
  rcases hw : w.withdraw id with ⟨conn?, w₁⟩
  rw [hw] at hfst hview
  obtain rfl : conn? = some conn := hfst
  simp only [view_tearDown, view_tellDisconnect, view_tellConnect, hview, View.tell_tell]
  rw [Act.run]
  simp [View.tell, View.withCtx, Act.apply, Act.starts, Act.events, Ending.events,
    Ending.heralds, Ending.calls]

/-! ## Shutdown -/

/-- Connections under different ids are ended one by one. -/
theorem path_shutdownConns (entries : List (ConnId × Connection ρ κ)) (w : Worker ω ρ κ)
    (hnodup : (entries.map Prod.fst).Nodup)
    (hlive : ∀ entry ∈ entries, w.ctx.conn? entry.1 = some entry.2) :
    Path w.view (entries.map fun entry => .finished entry.1 entry.2 .shutDown)
      ((entries.map Prod.fst).foldl shutdownConn w).view := by
  -- over the connections still to be ended; the state moves along with them
  induction entries generalizing w with
  | nil => exact .nil _
  | cons entry rest ih =>
      obtain ⟨id, conn⟩ := entry
      obtain ⟨hid, hrest⟩ := List.nodup_cons.1 hnodup
      have hconn : w.ctx.conn? id = some conn := hlive _ List.mem_cons_self
      have hview := view_shutdownConn hconn
      refine .cons ⟨hconn, trivial⟩ ?_
      rw [← hview]
      refine ih (w.shutdownConn id) hrest fun other hmem => ?_
      -- the connection ended is none of the others
      have hne : other.1 ≠ id := by
        rintro rfl
        exact hid (List.mem_map.2 ⟨other, hmem, rfl⟩)
      rw [ctx_of_view hview]
      show (w.ctx.without id conn).conn? other.1 = some other.2
      rw [Context.conn?_without, if_neg hne]
      exact hlive other (List.mem_cons_of_mem _ hmem)

theorem conn?_of_path_shutdown {entries : List (ConnId × Connection ρ κ)} {v v' : View ρ κ}
    (h : Path v (entries.map fun entry => .finished entry.1 entry.2 .shutDown) v') (id : ConnId) :
    v'.ctx.conn? id = if id ∈ entries.map Prod.fst then none else v.ctx.conn? id := by
  induction entries generalizing v with
  | nil =>
      cases h
      rfl
  | cons entry rest ih =>
      cases h with
      | cons _ hpath =>
          rw [ih hpath]
          show (if _ then none else (v.ctx.without entry.1 entry.2).conn? id) = _
          rw [Context.conn?_without, List.map_cons]
          by_cases he : id = entry.1
          · simp [he]
          · simp only [List.mem_cons, he, false_or, if_false]

/-- A shutdown ends every connection, in slot order, and then drops the pools. -/
theorem path_shutdown (w : Worker ω ρ κ) (ha : w.ctx.conns.Addressable) :
    Path w.view
      ((w.ctx.conns.entries.map fun entry => .finished entry.1 entry.2 .shutDown) ++
        [.poolsDropped, .noted [.logged (.shutDown w.ctx.ids.length)]])
      w.shutdown.2.view := by
  have hends := path_shutdownConns w.ctx.conns.entries w (Arena.nodup_ids ha) fun entry hmem =>
    (Arena.mem_entries ha).1 hmem
  -- the pools may only be dropped once no connection is left
  refine hends.append (.cons (fun id => ?_) ?_)
  · rw [conn?_of_path_shutdown hends]
    split
    · rfl
    · rename_i hnot
      have hstale : ¬(w.ctx.conns.get? id).isSome := fun hsome => hnot ((Arena.mem_ids ha).2 hsome)
      exact Option.not_isSome_iff_eq_none.1 hstale
  · refine .single (fun event hmem => ?_) ?_
    · obtain rfl := List.mem_singleton.1 hmem
      trivial
    · simp only [Act.run, Act.events, List.append_nil]
      rfl

end Worker
end ConnPool
