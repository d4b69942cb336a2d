/-
  ConnPool.Proofs.Worker.Requeueing

  Connections that come back to their pool.

  One that comes back is put at the end of the idle queue, and then the pool
  gives up its excess from the front of that queue.  What is given up is gone
  without a word to any caller: its socket is forgotten and its session torn
  down.  Everything else in the context stays as it was.
-/

import ConnPool.Proofs.Worker.Coherent
import ConnPool.Proofs.Worker.Confinement
import ConnPool.Proofs.Worker.Leaving

namespace ConnPool

variable {ω ρ κ : Type}

/-! ## Ends that nobody is told of -/

/-- What is done to let go of the connection under `id`, if it is live. -/
def Context.dismantling (ctx : Context ρ κ) (id : ConnId) : List (Event ρ κ) :=
  (ctx.held? id).toList.flatMap fun (session, socket) => [.deregistered socket, .tornDown session]

theorem Context.dismantling_of_conn? {ctx : Context ρ κ} {id : ConnId} {conn : Connection ρ κ}
    (h : ctx.conn? id = some conn) :
    ctx.dismantling id = [.deregistered conn.socket, .tornDown conn.session] := by
  rw [dismantling, held?_of_conn? h]
  rfl

theorem Context.not_isCall_of_mem_dismantling {ctx : Context ρ κ} {id : ConnId} {event : Event ρ κ}
    (h : event ∈ ctx.dismantling id) : event.isCall = false := by
  obtain ⟨⟨session, socket⟩, -, hmem⟩ := List.mem_flatMap.1 h
  rcases List.mem_cons.1 hmem with rfl | hmem
  · rfl
  · obtain rfl := List.mem_singleton.1 hmem
    rfl

theorem Event.isDeed_of_isCall {event : Event ρ κ} (h : event.isCall = true) :
    event.isDeed = true := by
  cases event with
  | connectCalled _ _ _ _ | disconnectCalled _ _ _ _ => rfl
  | startRefused _ | started _ _ | nonblocking _ _ | polled _ _ | tornDown _ | registered _ _ _ _
  | deregistered _ | logged _ => cases h

/-- Where all that is done is to let go of connections, no callback is called. -/
theorem not_isCall_of_dismantling {ctx : Context ρ κ} {events : List (Event ρ κ)}
    {ids : List ConnId} (h : events.filter Event.isDeed = ids.flatMap ctx.dismantling) :
    ∀ event ∈ events, event.isCall = false := by
  intro event hmem
  rw [← Bool.not_eq_true]
  intro hcall
  have hdeed : event ∈ events.filter Event.isDeed :=
    List.mem_filter.2 ⟨hmem, Event.isDeed_of_isCall hcall⟩
  rw [h] at hdeed
  obtain ⟨id, -, hdismantled⟩ := List.mem_flatMap.1 hdeed
  rw [Context.not_isCall_of_mem_dismantling hdismantled] at hcall
  cases hcall

/-- A watched connection that ends with nothing done before and nobody told. -/
theorem Ending.filter_isDeed_of_quiet {ending : Ending κ} {id : ConnId} {conn : Connection ρ κ}
    (hwatched : conn.Watched) (hheralds : (ending.heralds id conn).filter Event.isDeed = [])
    (hcalls : (ending.calls id conn).filter Event.isDeed = []) :
    (ending.events id conn).filter Event.isDeed =
      [.deregistered conn.socket, .tornDown conn.session] := by
  rw [events, Connection.unwatching, if_pos hwatched.registered, List.filter_append,
    List.filter_append, List.filter_append, hheralds, hcalls]
  rfl

/-- A pool gives up an idle connection: it has no caller to be told. -/
theorem Ending.filter_isDeed_shrunk {id : ConnId} {conn : Connection ρ κ} {key : PoolKey}
    (hwatched : conn.Watched) (hcoherent : conn.Coherent) (hfree : conn.membership = .free key)
    (load : PoolLoad) : ((Ending.shrunk key load).events id conn).filter Event.isDeed =
      [.deregistered conn.socket, .tornDown conn.session] := by
  have honDisconnect : conn.onDisconnect = none := by
    refine (hcoherent.free ?_).2.2.1
    rw [hfree]
    rfl
  refine filter_isDeed_of_quiet hwatched rfl ?_
  rw [calls, Connection.filter_isDeed_releaseCalls, Connection.farewell, Connection.disconnectCall,
    honDisconnect]
  rfl

/-- A direct connection that is dismissed has lost its caller before. -/
theorem Ending.filter_isDeed_dismissed {id : ConnId} {conn : Connection ρ κ}
    (hwatched : conn.Watched) (key : PoolKey) :
    ((Ending.dismissed key).events id conn).filter Event.isDeed =
      [.deregistered conn.socket, .tornDown conn.session] := by
  refine filter_isDeed_of_quiet hwatched rfl ?_
  rw [calls, Connection.filter_isDeed_releaseCalls]
  rfl

/-! ## Shrinking -/

namespace Shrinking

variable {key : PoolKey} {ids : List ConnId} {acts : List (Act ρ κ)} {v v' : View ρ κ}

/-- What is given up is gone, and every other record stays as it is. -/
theorem conn?_eq (h : Shrinking key ids acts) (hpath : Path v acts v') (other : ConnId) :
    v'.ctx.conn? other = if other ∈ ids then none else v.ctx.conn? other := by
  induction h generalizing v with
  | nil =>
      cases hpath
      exact (if_neg List.not_mem_nil).symm
  | cons id conn load rest ih =>
      cases hpath with
      | cons enabled hrest =>
          rw [ih hrest]
          show (if _ then none else (v.ctx.without id conn).conn? other) = _
          rw [Context.conn?_without]
          by_cases hid : other = id
          · simp only [hid, List.mem_cons, true_or, if_true, ite_self]
          · simp only [hid, List.mem_cons, false_or, if_false]

/-- What is given up was live. -/
theorem live_of_mem (h : Shrinking key ids acts) (hpath : Path v acts v') {id : ConnId}
    (hmem : id ∈ ids) : (v.ctx.conn? id).isSome := by
  induction h generalizing v with
  | nil => cases hmem
  | cons oldest conn load rest ih =>
      cases hpath with
      | cons enabled hrest =>
          rcases List.mem_cons.1 hmem with rfl | hmem
          · exact Option.isSome_of_eq_some enabled.1
          · have hlive : ((v.ctx.without oldest conn).conn? id).isSome := ih hrest hmem
            rw [Context.conn?_without] at hlive
            split at hlive
            · cases hlive
            · exact hlive

/-- Each connection that is given up is let go of, one after another. -/
theorem filter_isDeed (h : Shrinking key ids acts) (hpath : Path v acts v') (hw : v.ctx.Orderly)
    (hcoherent : v.ctx.Coherent) (hwatched : v.ctx.Watched) :
    (acts.flatMap Act.events).filter Event.isDeed = ids.flatMap v.ctx.dismantling := by
  -- over the connections; those still to be given up hold what they held at first
  induction h generalizing v with
  | nil => rfl
  | @cons oldest conn load ids acts rest ih =>
      cases hpath with
      | cons enabled hrest =>
          have hconn : v.ctx.conn? oldest = some conn := enabled.1
          have hfirst : ((Ending.shrunk key load).events oldest conn).filter Event.isDeed =
              [.deregistered conn.socket, .tornDown conn.session] :=
            Ending.filter_isDeed_shrunk (hwatched oldest conn hconn) (hcoherent oldest conn hconn)
              enabled.2 load
          have hlater := ih hrest (Act.orderly_run enabled hw) (Act.coherent_run enabled hw hcoherent)
            (Act.watched_run enabled hw hwatched)
          have hheld : ∀ id ∈ ids, (v.ctx.without oldest conn).dismantling id =
              v.ctx.dismantling id := by
            intro id hmem
            have hlive : ((v.ctx.without oldest conn).conn? id).isSome := rest.live_of_mem hrest hmem
            rw [Context.conn?_without] at hlive
            rw [Context.dismantling, Context.held?, Context.conn?_without]
            split
            · rename_i hid
              rw [if_pos hid] at hlive
              cases hlive
            · rfl
          rw [List.flatMap_cons, List.filter_append, hlater, List.flatMap_cons,
            Context.dismantling_of_conn? hconn]
          refine congrArg₂ (· ++ ·) hfirst ?_
          exact List.flatMap_congr hheld

/-- Nothing that is idle is on the registry list. -/
theorem registry_eq (h : Shrinking key ids acts) (hpath : Path v acts v') :
    v'.ctx.registry = v.ctx.registry := by
  induction h generalizing v with
  | nil =>
      cases hpath
      rfl
  | cons oldest conn load rest ih =>
      cases hpath with
      | cons enabled hrest =>
          rw [ih hrest]
          show (v.ctx.without oldest conn).registry = v.ctx.registry
          rw [Context.without, enabled.2]
          rfl

/-- The other pools do not shrink along. -/
theorem get?_of_ne (h : Shrinking key ids acts) (hpath : Path v acts v') {other : PoolKey}
    (hne : other ≠ key) : v'.ctx.pools.get? other = v.ctx.pools.get? other :=
  hpath.get?_eq fun act hmem htouches =>
    hne (hpath.eq_of_shrinks_touches hmem (h.shrinks act hmem) htouches)

end Shrinking

/-! ## Coming back -/

namespace Act.Returns

variable {id : ConnId} {key : PoolKey} {act : Act ρ κ} {v : View ρ κ}

theorem eq_of_touches (h : act.Returns id key) {other : PoolKey} (htouches : act.Touches other) :
    other = key := by
  rcases h.cases with ⟨conn, load, rfl⟩ | ⟨conn, size, rfl⟩
  · exact Eq.symm htouches
  · exact Eq.symm htouches

/-- That a connection comes back is logged, and nothing is done. -/
theorem filter_isDeed (h : act.Returns id key) : act.events.filter Event.isDeed = [] := by
  rcases h.cases with ⟨conn, load, rfl⟩ | ⟨conn, size, rfl⟩
  · rfl
  · rfl

theorem held?_run (h : act.Returns id key) (enabled : act.Enabled v) (hw : v.ctx.Orderly)
    (other : ConnId) : (act.run v).ctx.held? other = v.ctx.held? other := by
  rcases h.cases with ⟨conn, load, rfl⟩ | ⟨conn, size, rfl⟩
  · exact Act.held?_run enabled hw (fun hopens => hopens) fun hends => hends
  · exact Act.held?_run enabled hw (fun hopens => hopens) fun hends => hends

theorem dismantling_run (h : act.Returns id key) (enabled : act.Enabled v) (hw : v.ctx.Orderly)
    (other : ConnId) : (act.run v).ctx.dismantling other = v.ctx.dismantling other := by
  rw [Context.dismantling, h.held?_run enabled hw, Context.dismantling]

end Act.Returns

namespace Context

variable {ctx : Context ρ κ} {id : ConnId} {conn : Connection ρ κ} {key : PoolKey} {pool : Pool}

/-- A pool after a connection that it lent has come back. -/
theorem get?_transfer_returnedTo (hold : conn.membership = .busy key)
    (hpool : ctx.pools.get? key = some pool) :
    (ctx.transfer id conn (·.returnedTo key)).pools.get? key =
      some ((pool.dropBusy id).pushFree id) := by
  rw [← transfer_of_return (f := (·.returnedTo key)) hold rfl, modifyPool, KeyMap.get?_modify,
    if_pos rfl]
  show ((ctx.pools.get? key).map _) = _
  rw [hpool]
  rfl

theorem registry_transfer_returnedTo (hold : conn.membership = .busy key) :
    (ctx.transfer id conn (·.returnedTo key)).registry = ctx.registry := by
  rw [← transfer_of_return (f := (·.returnedTo key)) hold rfl]
  rfl

/-- A pool after it has taken over a direct connection. -/
theorem get?_transfer_adoptedBy (hold : conn.membership = .registry)
    (hpool : ctx.pools.get? key = some pool) :
    (ctx.transfer id conn (·.adoptedBy key)).pools.get? key = some (pool.pushFree id) := by
  rw [transfer, hold]
  show ((ctx.modifyConn id (·.adoptedBy key)).strike id .registry |>.modifyPool key
    (·.pushFree id)).pools.get? key = _
  rw [modifyPool, KeyMap.get?_modify, if_pos rfl]
  show ((ctx.pools.get? key).map _) = _
  rw [hpool]
  rfl

theorem registry_transfer_adoptedBy (hold : conn.membership = .registry) :
    (ctx.transfer id conn (·.adoptedBy key)).registry = ctx.registry.filter (· ≠ id) := by
  rw [transfer, hold]
  rfl

end Context

end ConnPool
