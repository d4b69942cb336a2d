/-
  ConnPool.Proofs.Worker.Reporting

  What the polls of a session report.

  A handshake waits for as long as its polls report `reading` or `writing`; any
  other report is the last one.  What carries this along paths is that a
  connecting connection has been told to wait by every poll of its session so
  far, and that nobody else polls the session.
-/

import ConnPool.Proofs.Worker.Driving

namespace ConnPool

variable {ρ κ : Type}

/-! ## Handshakes -/

/-- Whether a handshake goes on after a report. -/
def PollReport.Waits (report : PollReport) : Prop :=
  report = .reading ∨ report = .writing

/-- Whether reports are those of a handshake: it waits for as long as it takes,
    and then perhaps it ends, well or not. -/
def IsHandshake (reports : List PollReport) : Prop :=
  ∃ waits ending, reports = waits ++ ending ∧ (∀ report ∈ waits, report.Waits) ∧
    (ending = [] ∨ ending = [.ok] ∨ ending = [.failed])

/-- A handshake that only waited so far can go on in any way. -/
theorem IsHandshake.append {reports : List PollReport} (h : ∀ report ∈ reports, report.Waits)
    (last : PollReport) : IsHandshake (reports ++ [last]) := by
  have hlonger (hlast : last.Waits) : ∀ report ∈ reports ++ [last], report.Waits :=
    List.forall_mem_append.2 ⟨h, List.forall_mem_singleton.2 hlast⟩
  cases last with
  | failed => exact ⟨reports, [.failed], rfl, h, .inr (.inr rfl)⟩
  | ok => exact ⟨reports, [.ok], rfl, h, .inr (.inl rfl)⟩
  | reading => exact ⟨_, [], (List.append_nil _).symm, hlonger (.inl rfl), .inl rfl⟩
  | writing => exact ⟨_, [], (List.append_nil _).symm, hlonger (.inr rfl), .inl rfl⟩

/-! ## Acts and paths -/

/-- What the polls of all sessions have reported so far. -/
structure View.Driven (v : View ρ κ) : Prop where
  /-- Nobody polls a session that is still to be started. -/
  unstarted : ∀ session, v.started ≤ session → reportsOf session v.trace = []
  /-- As long as a connection is connecting, its session had it wait. -/
  waiting : ∀ id conn, v.ctx.conn? id = some conn → conn.state = .connecting →
    ∀ report ∈ reportsOf conn.session v.trace, report.Waits
  shaped : ∀ session, IsHandshake (reportsOf session v.trace)

section

variable {v v' : View ρ κ} {act : Act ρ κ} {acts : List (Act ρ κ)} {polling : Polling}

theorem Act.reportsOf_run (enabled : act.Enabled v) (hasks : ¬act.Asks) (session : SessionNo) :
    reportsOf session (act.run v).trace = reportsOf session v.trace ++
      (act.polling?.toList.filter (·.session = session)).map Polling.report := by
  show reportsOf session (v.trace ++ act.events) = _
  rw [reportsOf_append session (leadingAttempts_events enabled hasks)]
  rw [reportsOf, reportsOf, pollings_events enabled hasks]

/-- A session that is polled had its connection wait so far, and has been
    started by the end of the act. -/
theorem Act.waits_of_polling (enabled : act.Enabled v) (hv : v.Numbered) (h : v.Driven)
    (hpolling : act.polling? = some polling) :
    (∀ report ∈ reportsOf polling.session v.trace, report.Waits) ∧
      polling.session < (act.run v).started := by
  show _ ∧ polling.session < v.started + act.starts
  rcases polling_cases enabled hpolling with
    ⟨hstarts, hsession⟩ | ⟨-, id, conn, hconn, hstate, hsession, -⟩
  · -- a session that is just being started was never polled
    rw [hsession, h.unstarted _ (Nat.le_refl _), hstarts]
    exact ⟨List.forall_mem_nil _, Nat.lt_succ_self _⟩
  · have hlt := hv.started id _ _ (Context.held?_of_conn? hconn)
    rw [← hsession]
    exact ⟨h.waiting id conn hconn hstate, Nat.lt_add_right _ hlt⟩

/-- An act polls only the session of the connection that it concerns, if that was
    there before. -/
theorem Act.session_ne_of_polling (enabled : act.Enabled v) (hv : v.Numbered)
    (hpolling : act.polling? = some polling) {other : ConnId} {conn : Connection ρ κ}
    (hconn : v.ctx.conn? other = some conn) (hne : act.change.map Prod.fst ≠ some other) :
    polling.session ≠ conn.session := by
  intro heq
  have hother := Context.held?_of_conn? hconn
  rcases polling_cases enabled hpolling with
    ⟨-, hsession⟩ | ⟨-, id, conn', hconn', -, hsession, hchange⟩
  · -- nobody has a session that is just being started
    have hlt := hv.started other _ _ hother
    rw [← heq, hsession] at hlt
    exact Nat.lt_irrefl _ hlt
  · have hheld := Context.held?_of_conn? hconn'
    rw [hsession, heq] at hheld
    rw [hv.unique other id _ _ _ hother hheld] at hchange
    exact hne hchange

/-- A connection that is connecting after an act was opened by it or was
    connecting before; and if the act has polled its session, it has to wait. -/
theorem Act.connecting_of_run (enabled : act.Enabled v) (hw : v.ctx.Orderly) (hv : v.Numbered)
    {other : ConnId} {conn' : Connection ρ κ} (hconn' : (act.run v).ctx.conn? other = some conn')
    (hstate : conn'.state = .connecting) :
    (∀ polling, act.polling? = some polling → polling.session = conn'.session →
        polling.report.Waits) ∧
      (conn'.session = v.started ∨
        ∃ conn, v.ctx.conn? other = some conn ∧ conn.state = .connecting ∧
          conn.session = conn'.session) := by
  by_cases hne : act.change.map Prod.fst = some other
  · -- the connection that the act concerns
    have hrun := conn?_run enabled hw other
    rw [hconn'] at hrun
    have hwaits : ∀ (conn : Connection ρ κ) (poll : PollReport), poll ≠ .failed →
        conn' = conn.stepped poll → poll.Waits := by
      rintro conn poll hpoll rfl
      cases poll with
      | failed => exact absurd rfl hpoll
      | ok => cases hstate
      | reading => exact .inl rfl
      | writing => exact .inr rfl
    cases act with
    | opened id target conn poll =>
        obtain rfl : id = other := Option.some.inj hne
        simp only [change, if_pos] at hrun
        have hpoll := hwaits conn poll enabled.2.2.1 (Option.some.inj hrun)
        refine ⟨fun polling hpolling _ => ?_, .inl ?_⟩
        · cases hpolling
          exact hpoll
        · rw [Option.some.inj hrun]
          exact enabled.2.1
    | stepped id conn poll =>
        obtain rfl : id = other := Option.some.inj hne
        simp only [change, if_pos] at hrun
        have hpoll := hwaits conn poll enabled.2.2.1 (Option.some.inj hrun)
        refine ⟨fun polling hpolling _ => ?_, .inr ⟨conn, enabled.1, enabled.2.1, ?_⟩⟩
        · cases hpolling
          exact hpoll
        · rw [Option.some.inj hrun]
          rfl
    | lent id conn _ _ _ _ | takenBack id conn _ _ | adopted id conn _ _ | tagged id conn _
    | deferred id conn _ =>
        obtain rfl : id = other := Option.some.inj hne
        simp only [change, if_pos] at hrun
        obtain rfl := Option.some.inj hrun
        refine ⟨fun polling hpolling => ?_, .inr ⟨conn, enabled.1, hstate, rfl⟩⟩
        cases hpolling
    | finished id conn ending =>
        obtain rfl : id = other := Option.some.inj hne
        simp only [change, if_pos] at hrun
        cases hrun
    | noted _ | asked _ _ _ | poolCreated _ _ | openFailed _ _ _ _ | openSpoiled _ _ _
    | poolsDropped => cases hne
  · have hsame := conn?_run_of_ne enabled hw hne
    rw [hconn'] at hsame
    refine ⟨fun polling hpolling hsession => ?_, .inr ⟨conn', hsame.symm, hstate, rfl⟩⟩
    exact absurd hsession (session_ne_of_polling enabled hv hpolling hsame.symm hne)

/-- Every act but a call of the host on a session drives handshakes as they
    should be driven. -/
theorem Act.driven_run (enabled : act.Enabled v) (hw : v.ctx.Orderly) (hv : v.Numbered)
    (hasks : ¬act.Asks) (h : v.Driven) : (act.run v).Driven := by
  constructor
  case unstarted =>
    intro session hle
    have hbefore : v.started ≤ session := Nat.le_trans (Nat.le_add_right _ _) hle
    rw [reportsOf_run enabled hasks, h.unstarted session hbefore, List.nil_append]
    cases hpolling : act.polling? with
    | none => rfl
    | some polling =>
        have hlt := (waits_of_polling enabled hv h hpolling).2
        have hne : polling.session ≠ session := fun heq =>
          absurd (heq ▸ hlt) (Nat.not_lt_of_le hle)
        simp [hne]
  case waiting =>
    intro other conn' hconn' hstate
    obtain ⟨hpolled, hcases⟩ := connecting_of_run enabled hw hv hconn' hstate
    have hbefore : ∀ report ∈ reportsOf conn'.session v.trace, report.Waits := by
      rcases hcases with hnew | ⟨conn, hconn, hconnecting, hsession⟩
      · rw [hnew, h.unstarted _ (Nat.le_refl _)]
        exact List.forall_mem_nil _
      · rw [← hsession]
        exact h.waiting other conn hconn hconnecting
    rw [reportsOf_run enabled hasks]
    refine List.forall_mem_append.2 ⟨hbefore, List.forall_mem_map.2 fun polling hmem => ?_⟩
    obtain ⟨hmem, hsession⟩ := List.mem_filter.1 hmem
    exact hpolled polling (Option.mem_toList.1 hmem) (of_decide_eq_true hsession)
  case shaped =>
    intro session
    rw [reportsOf_run enabled hasks]
    cases hpolling : act.polling? with
    | none =>
        rw [Option.toList_none, List.filter_nil, List.map_nil, List.append_nil]
        exact h.shaped session
    | some polling =>
        by_cases hsession : polling.session = session
        · have hkept : [polling].filter (·.session = session) = [polling] :=
            List.filter_cons_of_pos (decide_eq_true hsession)
          rw [Option.toList_some, hkept, ← hsession]
          exact .append (waits_of_polling enabled hv h hpolling).1 polling.report
        · have hdropped : [polling].filter (·.session = session) = [] :=
            List.filter_cons_of_neg (by simpa using hsession)
          rw [Option.toList_some, hdropped, List.map_nil, List.append_nil]
          exact h.shaped session

theorem Path.driven (h : Path v acts v') (hw : v.ctx.Orderly) (hv : v.Numbered)
    (hasks : ∀ act ∈ acts, ¬act.Asks) (hdriven : v.Driven) : v'.Driven := by
  induction h with
  | nil => exact hdriven
  | cons enabled _ ih =>
      obtain ⟨hact, hrest⟩ := List.forall_mem_cons.1 hasks
      exact ih (Act.orderly_run enabled hw) (Act.numbered_run enabled hw hv) hrest
        (Act.driven_run enabled hw hv hact hdriven)

end
end ConnPool
