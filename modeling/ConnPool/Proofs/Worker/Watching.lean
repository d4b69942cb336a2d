/-
  ConnPool.Proofs.Worker.Watching

  What the event loop watches, act by act.

  An event loop keeps a table: for each socket that it watches, what the socket
  is watched for and the id that notifications carry.  The table follows the
  live connections, as long as no two of them have the same socket:

      opened, stepped    the socket is watched for what the poll asked for
      finished           the socket is not watched any more
      all others         neither the table nor what should be in it changes

  Within an operation the sockets differ if they do before and after it, since
  no operation both opens and ends connections.
-/

import ConnPool.Proofs.Worker.Resources

namespace ConnPool

variable {ρ κ : Type}

/-! ## The table -/

/-- What an event loop watches: for each socket, what it is watched for and the
    id that notifications carry. -/
def WatchTable : Type := Int → Option (Interest × ConnId)

namespace WatchTable

/-- Nothing is watched. -/
def empty : WatchTable := fun _ => none

/-- The table with another entry, or none, for one socket. -/
def set (table : WatchTable) (socket : Int) (entry : Option (Interest × ConnId)) : WatchTable :=
  fun other => if other = socket then entry else table other

@[simp] theorem set_self (table : WatchTable) (socket : Int)
    (entry : Option (Interest × ConnId)) : table.set socket entry socket = entry :=
  if_pos rfl

theorem set_of_ne (table : WatchTable) {socket other : Int} (h : other ≠ socket)
    (entry : Option (Interest × ConnId)) : table.set socket entry other = table other :=
  if_neg h

/-- What an event makes of the table.  A socket that is refused stays watched
    as it was. -/
def after (table : WatchTable) : Event ρ κ → WatchTable
  | .registered socket interest id none => table.set socket (some (interest, id))
  | .deregistered socket => table.set socket none
  | _ => table

/-- What becomes of the table in the course of events. -/
def replay (table : WatchTable) (events : List (Event ρ κ)) : WatchTable :=
  events.foldl after table

theorem replay_append (table : WatchTable) (first second : List (Event ρ κ)) :
    table.replay (first ++ second) = (table.replay first).replay second :=
  List.foldl_append

theorem after_of_not_resource (table : WatchTable) {event : Event ρ κ}
    (h : ¬event.isResource = true) : table.after event = table := by
  cases event with
  | registered socket interest id refusal =>
      cases refusal with
      | none => exact absurd rfl h
      | some reason => rfl
  | deregistered socket => exact absurd rfl h
  | startRefused _ | started _ _ | nonblocking _ _ | polled _ _ | tornDown _
  | connectCalled _ _ _ _ | disconnectCalled _ _ _ _ | logged _ => rfl

/-- Only what is taken hold of or let go matters to the table. -/
theorem replay_filter (table : WatchTable) (events : List (Event ρ κ)) :
    table.replay (events.filter Event.isResource) = table.replay events := by
  induction events generalizing table with
  | nil => rfl
  | cons event rest ih =>
      by_cases hresource : event.isResource = true
      · rw [List.filter_cons_of_pos hresource]
        exact ih (table.after event)
      · rw [List.filter_cons_of_neg hresource, ih]
        exact congrArg (replay · rest) (table.after_of_not_resource hresource).symm

end WatchTable

/-- What the socket of a connection should be watched for. -/
def Connection.interest (conn : Connection ρ κ) : Interest :=
  match conn.state, conn.lastPoll with
  | .connected, _ => .none
  | _, some .reading => .readable
  | _, some .writing => .writable
  | _, _ => .none

theorem Connection.interest_stepped (conn : Connection ρ κ) {poll : PollReport}
    (hpoll : poll ≠ .failed) : (conn.stepped poll).interest = poll.interest := by
  cases poll with
  | failed => exact absurd rfl hpoll
  | ok | reading | writing => rfl

namespace Context

/-- The socket of a live connection, and what it should be watched for. -/
def watch? (ctx : Context ρ κ) (id : ConnId) : Option (Int × Interest) :=
  (ctx.conn? id).map fun conn => (conn.socket, conn.interest)

/-- No two live connections have the same socket. -/
def SocketsDiffer (ctx : Context ρ κ) : Prop :=
  ∀ id other socket, ctx.socket? id = some socket → ctx.socket? other = some socket → id = other

end Context

/-- A table holds what should be watched, and nothing else. -/
def WatchTable.Mirrors (table : WatchTable) (ctx : Context ρ κ) : Prop :=
  ∀ socket interest id, table socket = some (interest, id) ↔ ctx.watch? id = some (socket, interest)

/-! ## Changes -/

namespace WatchTable.Mirrors

variable {table : WatchTable} {ctx ctx' : Context ρ κ} {id : ConnId} {conn conn' : Connection ρ κ}

/-- A connection is watched, or is watched for something else. -/
theorem watched (h : table.Mirrors ctx) (hdiffer : ctx'.SocketsDiffer)
    (hctx : ∀ other, ctx'.conn? other = if other = id then some conn' else ctx.conn? other)
    (hsocket : ∀ conn, ctx.conn? id = some conn → conn.socket = conn'.socket) :
    (table.set conn'.socket (some (conn'.interest, id))).Mirrors ctx' := by
  have hid : ctx'.conn? id = some conn' := by
    rw [hctx, if_pos rfl]
  have hwatch : ctx'.watch? id = some (conn'.socket, conn'.interest) := by
    rw [Context.watch?, hid]
    rfl
  intro socket interest other
  by_cases hown : socket = conn'.socket
  · subst hown
    rw [WatchTable.set_self]
    constructor
    · intro heq
      cases heq
      exact hwatch
    · intro hother
      -- nobody else has the socket
      obtain ⟨found, hfound, hpair⟩ := Option.map_eq_some_iff.1 hother
      obtain rfl : other = id := hdiffer other id conn'.socket
        (by rw [Context.socket?, hfound, ← (Prod.mk.inj hpair).1]; rfl)
        (by rw [Context.socket?, hid]; rfl)
      rw [hwatch] at hother
      cases hother
      rfl
  · rw [WatchTable.set_of_ne table hown, h]
    by_cases hother : other = id
    · -- before and after, the connection has another socket than this
      subst hother
      refine iff_of_false (fun hbefore => ?_) fun hafter => ?_
      · obtain ⟨found, hfound, hpair⟩ := Option.map_eq_some_iff.1 hbefore
        exact hown ((Prod.mk.inj hpair).1.symm.trans (hsocket found hfound))
      · rw [hwatch] at hafter
        cases hafter
        exact hown rfl
    · rw [Context.watch?, Context.watch?, hctx, if_neg hother]

/-- A connection is watched no longer. -/
theorem unwatched (h : table.Mirrors ctx) (hdiffer : ctx.SocketsDiffer)
    (hconn : ctx.conn? id = some conn)
    (hctx : ∀ other, ctx'.conn? other = if other = id then none else ctx.conn? other) :
    (table.set conn.socket none).Mirrors ctx' := by
  intro socket interest other
  rw [Context.watch?, hctx]
  by_cases hother : other = id
  · subst hother
    rw [if_pos rfl]
    refine iff_of_false (fun hwatched => ?_) (by simp)
    -- the table could only hold the connection under its own socket
    by_cases hown : socket = conn.socket
    · rw [hown, WatchTable.set_self] at hwatched
      cases hwatched
    · rw [WatchTable.set_of_ne table hown, h, Context.watch?, hconn] at hwatched
      cases hwatched
      exact hown rfl
  · rw [if_neg hother]
    by_cases hown : socket = conn.socket
    · subst hown
      rw [WatchTable.set_self]
      refine iff_of_false (by simp) fun hwatched => hother ?_
      obtain ⟨found, hfound, hpair⟩ := Option.map_eq_some_iff.1 hwatched
      exact hdiffer other id conn.socket
        (by rw [Context.socket?, hfound, ← (Prod.mk.inj hpair).1]; rfl)
        (by rw [Context.socket?, hconn]; rfl)
    · rw [WatchTable.set_of_ne table hown, h]
      rfl

theorem congr (h : table.Mirrors ctx) (hctx : ∀ id, ctx'.watch? id = ctx.watch? id) :
    table.Mirrors ctx' := by
  intro socket interest id
  rw [h, hctx]

end WatchTable.Mirrors

/-! ## Acts -/

/-- The table follows every act. -/
theorem Act.mirrors_run {v : View ρ κ} {act : Act ρ κ} (enabled : act.Enabled v)
    (hw : v.ctx.Orderly) (hv : v.ctx.Watched) (hbefore : v.ctx.SocketsDiffer)
    (hafter : (act.run v).ctx.SocketsDiffer) {table : WatchTable} (h : table.Mirrors v.ctx) :
    (table.replay act.events).Mirrors (act.run v).ctx := by
  rw [← table.replay_filter, filter_resources enabled hv]
  have hrun := conn?_run enabled hw
  cases act with
  | noted _ | asked _ _ _ | poolCreated _ _ | openFailed _ _ _ _ | openSpoiled _ _ _
  | poolsDropped => exact h.congr fun id => congrArg (Option.map _) (hrun id)
  | opened id target conn poll =>
      -- the id is new, so there is no socket to agree with
      have hnone : v.ctx.conn? id = none := by
        obtain ⟨-, -, -, hid, -, -, ha⟩ := enabled
        rw [hid]
        exact Context.conn?_nextId hw.arena ha
      show (table.set conn.socket (some (poll.interest, id))).Mirrors _
      rw [← conn.interest_stepped enabled.2.2.1]
      refine WatchTable.Mirrors.watched h hafter hrun fun old hold => ?_
      rw [hnone] at hold
      cases hold
  | stepped id conn poll =>
      show (table.set conn.socket (some (poll.interest, id))).Mirrors _
      rw [← conn.interest_stepped enabled.2.2.1]
      refine WatchTable.Mirrors.watched h hafter hrun fun old hold => ?_
      rw [enabled.1] at hold
      cases hold
      rfl
  | lent id conn _ _ _ _ | takenBack id conn _ _ | adopted id conn _ _ | tagged id conn _
  | deferred id conn _ =>
      refine h.congr fun other => ?_
      rw [Context.watch?, Context.watch?, hrun]
      by_cases hother : other = id
      · subst hother
        simp only [change, if_pos, enabled.1]
        rfl
      · simp only [change, if_neg hother]
  | finished id conn ending => exact h.unwatched hbefore enabled.1 hrun

/-! ## Operations -/

/-- A connection keeps its socket until it ends. -/
theorem Act.socket?_run {v : View ρ κ} {act : Act ρ κ} (enabled : act.Enabled v)
    (hw : v.ctx.Orderly) {id : ConnId} {socket : Int} (hsocket : v.ctx.socket? id = some socket)
    (hends : ¬act.Ends id) : (act.run v).ctx.socket? id = some socket := by
  have hlive : (v.ctx.conn? id).isSome := by
    rw [← Option.isSome_map (f := Connection.socket)]
    exact Option.isSome_of_eq_some hsocket
  -- what was live before is not opened now
  rw [Context.socket?_eq_held?, held?_run enabled hw (not_opens_of_live enabled hw hlive) hends,
    ← Context.socket?_eq_held?]
  exact hsocket

/-- Sockets that differ in the end do so all along, if no connection ends. -/
theorem Act.socketsDiffer_of_run {v : View ρ κ} {act : Act ρ κ} (enabled : act.Enabled v)
    (hw : v.ctx.Orderly) (hends : ∀ id, ¬act.Ends id) (h : (act.run v).ctx.SocketsDiffer) :
    v.ctx.SocketsDiffer := by
  intro id other socket hid hother
  exact h id other socket (socket?_run enabled hw hid (hends id))
    (socket?_run enabled hw hother (hends other))

/-- Sockets that differ in the beginning do so all along, if no connection is
    opened. -/
theorem Act.socketsDiffer_run {v : View ρ κ} {act : Act ρ κ} (enabled : act.Enabled v)
    (hw : v.ctx.Orderly) (hopens : ∀ id, ¬act.Opens id) (h : v.ctx.SocketsDiffer) :
    (act.run v).ctx.SocketsDiffer := by
  -- what is live afterwards was not ended
  have hsame : ∀ {id socket}, (act.run v).ctx.socket? id = some socket →
      v.ctx.socket? id = some socket := by
    intro id socket hsocket
    have hends : ¬act.Ends id := by
      intro hends
      rw [Context.socket?, conn?_of_ends enabled hw hends] at hsocket
      cases hsocket
    rw [Context.socket?_eq_held?, ← held?_run enabled hw (hopens id) hends,
      ← Context.socket?_eq_held?]
    exact hsocket
  intro id other socket hid hother
  exact h id other socket (hsame hid) (hsame hother)

namespace Path

variable {v v' : View ρ κ} {acts : List (Act ρ κ)} {table : WatchTable}

theorem socketsDiffer_of_not_ends (h : Path v acts v') (hw : v.ctx.Orderly)
    (hends : ∀ act ∈ acts, ∀ id, ¬act.Ends id) (hv' : v'.ctx.SocketsDiffer) :
    v.ctx.SocketsDiffer := by
  induction h with
  | nil => exact hv'
  | cons enabled _ ih =>
      obtain ⟨hact, hrest⟩ := List.forall_mem_cons.1 hends
      have hnext := ih (Act.orderly_run enabled hw) hrest hv'
      exact Act.socketsDiffer_of_run enabled hw hact hnext

theorem mirrors_of_not_ends (h : Path v acts v') (hw : v.ctx.Orderly) (hv : v.ctx.Watched)
    (hends : ∀ act ∈ acts, ∀ id, ¬act.Ends id) (hv' : v'.ctx.SocketsDiffer)
    (hmirrors : table.Mirrors v.ctx) :
    (table.replay (acts.flatMap Act.events)).Mirrors v'.ctx := by
  induction h generalizing table with
  | nil => exact hmirrors
  | cons enabled hpath ih =>
      obtain ⟨hact, hrest⟩ := List.forall_mem_cons.1 hends
      have hw' := Act.orderly_run enabled hw
      have hafter := hpath.socketsDiffer_of_not_ends hw' hrest hv'
      have hbefore := Act.socketsDiffer_of_run enabled hw hact hafter
      rw [List.flatMap_cons, WatchTable.replay_append]
      exact ih hw' (Act.watched_run enabled hw hv) hrest hv'
        (Act.mirrors_run enabled hw hv hbefore hafter hmirrors)

theorem mirrors_of_not_opens (h : Path v acts v') (hw : v.ctx.Orderly) (hv : v.ctx.Watched)
    (hopens : ∀ act ∈ acts, ∀ id, ¬act.Opens id) (hbefore : v.ctx.SocketsDiffer)
    (hmirrors : table.Mirrors v.ctx) :
    (table.replay (acts.flatMap Act.events)).Mirrors v'.ctx := by
  induction h generalizing table with
  | nil => exact hmirrors
  | cons enabled hpath ih =>
      obtain ⟨hact, hrest⟩ := List.forall_mem_cons.1 hopens
      have hafter := Act.socketsDiffer_run enabled hw hact hbefore
      rw [List.flatMap_cons, WatchTable.replay_append]
      exact ih (Act.orderly_run enabled hw) (Act.watched_run enabled hw hv) hrest hafter
        (Act.mirrors_run enabled hw hv hbefore hafter hmirrors)

end Path

/-- The table follows every operation. -/
theorem Course.mirrors {operation : Operation ρ κ} {answer : Answer} {acts : List (Act ρ κ)}
    {v v' : View ρ κ} (h : Course operation answer acts) (hpath : Path v acts v')
    (hw : v.ctx.Orderly) (hv : v.ctx.Watched) (hbefore : v.ctx.SocketsDiffer)
    (hafter : v'.ctx.SocketsDiffer) {table : WatchTable} (hmirrors : table.Mirrors v.ctx) :
    (table.replay (acts.flatMap Act.events)).Mirrors v'.ctx := by
  by_cases hprovides : operation.Provides
  · exact hpath.mirrors_of_not_ends hw hv
      (fun act hmem => (h.belongsTo act hmem).not_ends hprovides) hafter hmirrors
  · exact hpath.mirrors_of_not_opens hw hv
      (fun act hmem => (h.belongsTo act hmem).not_opens hprovides) hbefore hmirrors

/-! ## Entries -/

/-- Every entry of a table is that of a live connection with this socket. -/
def WatchTable.Current (table : WatchTable) (ctx : Context ρ κ) : Prop :=
  ∀ socket interest id, table socket = some (interest, id) → ctx.socket? id = some socket

/-- No act leaves an entry behind, whichever sockets agree. -/
theorem Act.current_run {v : View ρ κ} {act : Act ρ κ} (enabled : act.Enabled v)
    (hw : v.ctx.Orderly) (hv : v.ctx.Watched) {table : WatchTable} (h : table.Current v.ctx) :
    (table.replay act.events).Current (act.run v).ctx := by
  intro socket interest id hentry
  rw [← table.replay_filter, filter_resources enabled hv] at hentry
  have hrun := conn?_run enabled hw
  -- an entry that was there before stays right, unless its connection ends
  have hkept : table socket = some (interest, id) → ¬act.Ends id →
      (act.run v).ctx.socket? id = some socket := fun hold =>
    socket?_run enabled hw (h socket interest id hold)
  cases act with
  | noted _ | asked _ _ _ | poolCreated _ _ | openFailed _ _ _ _ | openSpoiled _ _ _
  | poolsDropped | lent _ _ _ _ _ _ | takenBack _ _ _ _ | adopted _ _ _ _ | tagged _ _ _
  | deferred _ _ _ => exact hkept hentry fun hends => hends
  | opened i target conn poll | stepped i conn poll =>
      have hset : (table.set conn.socket (some (poll.interest, i))) socket =
          some (interest, id) := hentry
      by_cases hown : socket = conn.socket
      · subst hown
        rw [WatchTable.set_self] at hset
        obtain ⟨-, rfl⟩ := Prod.mk.inj (Option.some.inj hset)
        rw [Context.socket?, hrun]
        exact congrArg (Option.map Connection.socket) (if_pos rfl)
      · rw [WatchTable.set_of_ne table hown] at hset
        exact hkept hset fun hends => hends
  | finished i conn ending =>
      have hset : (table.set conn.socket none) socket = some (interest, id) := hentry
      by_cases hown : socket = conn.socket
      · rw [hown, WatchTable.set_self] at hset
        cases hset
      · rw [WatchTable.set_of_ne table hown] at hset
        refine hkept hset ?_
        rintro rfl
        -- the connection that ends is not entered under another socket
        have hsocket := h socket interest i hset
        rw [Context.socket?, enabled.1] at hsocket
        exact hown (Option.some.inj hsocket).symm

theorem Path.current {v v' : View ρ κ} {acts : List (Act ρ κ)} (h : Path v acts v')
    (hw : v.ctx.Orderly) (hv : v.ctx.Watched) {table : WatchTable} (htable : table.Current v.ctx) :
    (table.replay (acts.flatMap Act.events)).Current v'.ctx := by
  induction h generalizing table with
  | nil => exact htable
  | cons enabled _ ih =>
      rw [List.flatMap_cons, WatchTable.replay_append]
      exact ih (Act.orderly_run enabled hw) (Act.watched_run enabled hw hv)
        (Act.current_run enabled hw hv htable)

end ConnPool
