import ApprovalFlow.Proofs.Replay.Respondents
import ApprovalFlow.Proofs.Scenario.Acceptance

/-!
# The group that a process works on

Which group a process works on is worked out in two places. The row of the process prefers the group
that the process itself gives, a context prefers the group that the form speaks about. All contexts
of a replay agree, and so does all that is observed and recorded; they agree with the row of the
process exactly when the scenario does not give two groups.

* `Engine.Served.naming`: what is asked of the engine shows and records the group of what it is
  asked for.
* `Moment.Leads.reports`: one group at every moment of a replay.
* `Scenario.groups_agree_iff`: the contexts of a replay and the row of its process.
-/

namespace ApprovalFlow

/-- What an observation shows names this group. -/
def Observation.Names (g : Option String) : Observation → Prop
  | dispatched _ _ s => s.groupId = g
  | consulted _ => True
  | ran _ _ _ _ s => s.groupId = g

theorem Observation.Shows.names {family : Family} {snapshot : Snapshot} {o : Observation}
    (shows : o.Shows family snapshot) : o.Names snapshot.groupId := by
  cases o with
  | dispatched => exact congrArg Snapshot.groupId shows.2
  | consulted => exact trivial
  | ran => exact congrArg Snapshot.groupId shows.2

/-! ## What the engine does for a concern -/

namespace Engine

variable {g : Option String} {d : Concern} {e e' e'' : Engine TaskTable EventLog}

/-- All that is run between two states of the engine, and all that is observed, names one group. -/
structure Naming (g : Option String) (e e' : Engine TaskTable EventLog) : Prop where
  runs : Runs (·.snapshot.groupId = g) e e'
  trace : ∃ more, e'.trace = e.trace ++ more ∧ ∀ o ∈ more, o.Names g

theorem Naming.refl (e : Engine TaskTable EventLog) : Naming g e e :=
  ⟨Runs.refl e, [], by simp, by simp⟩

theorem Naming.trans (left : Naming g e e') (right : Naming g e' e'') : Naming g e e'' := by
  obtain ⟨more, first, early⟩ := left.trace
  obtain ⟨rest, last, late⟩ := right.trace
  refine ⟨left.runs.trans right.runs, more ++ rest, ?_, ?_⟩
  · rw [last, first, List.append_assoc]
  · rw [List.forall_mem_append]
    exact ⟨early, late⟩

theorem naming_notify {ε : Type} [EventScope ε] {c : Context} (within : c.Within d) (event : ε)
    (e : Engine TaskTable EventLog) : Naming d.groupId e (e.notify event c).2 := by
  have runs : Runs (·.snapshot.groupId = d.groupId) e (e.notify event c).2 :=
    runs_notify event c fun _ _ _ _ _ => within.groupId
  obtain ⟨more, trace, -, shown⟩ := (heard_notify e event c).trace
  refine ⟨runs, more, trace, ?_⟩
  intro o member
  rw [← within.groupId]
  exact (shown o member).names

theorem Request.naming (request : Request d e e') : Naming d.groupId e e' := by
  cases request with
  | stores tasks => exact ⟨runs_of_silent (x := .stored tasks) rfl, [], by simp, by simp⟩
  | notifiesProcess event within => exact naming_notify within event e
  | notifiesTask event within => exact naming_notify within event e

theorem Served.naming (served : Served d e e') : Naming d.groupId e e' := by
  induction served with
  | refl => exact Naming.refl e
  | tail _ request ih => exact ih.trans request.naming

/-- What there is to see once the pools have been drained. -/
theorem Naming.of_opening (naming : Naming g e e') (opening : Floor.Opening e)
    (unseen : e.trace = []) :
    (∀ o ∈ e'.trace, o.Names g) ∧ ∀ row ∈ e'.drain.events.rows, row.groupId = g := by
  constructor
  · obtain ⟨more, trace, named⟩ := naming.trace
    rw [trace, unseen, List.nil_append]
    exact named
  · intro row member
    obtain ⟨i, names, same⟩ := naming.runs.exists_of_mem opening member
    have kept : row.erased.groupId = row.groupId := rfl
    rw [← kept, ← same, i.groupId_record, names]

end Engine

/-! ## The moments of a replay -/

namespace Moment

variable {r : Replay} {m : Moment}

/-- Wherever at a moment a group is named, it is this one: in the contexts, in what has been
observed, and in the event log once the pools have been drained. -/
structure Reports (g : Option String) (m : Moment) : Prop where
  context : m.replay.context.groupId = g
  carried : ∀ c, m.phase.context? = some c → c.groupId = g
  trace : ∀ o ∈ m.replay.engine.trace, o.Names g
  log : ∀ row ∈ m.replay.engine.drain.events.rows, row.groupId = g

theorem Leads.reports {actions : List ActionSpec} (leads : Leads (.begun r actions) m)
    (opening : Floor.Opening r.engine) (unseen : r.engine.trace = []) :
    m.Reports r.context.groupId := by
  have follows := leads.follows
  obtain ⟨trace, log⟩ := follows.served.engine.naming.of_opening opening unseen
  exact ⟨congrArg Concern.groupId follows.served.concern,
    fun c carried => (follows.carried c carried).groupId, trace, log⟩

theorem Reports.iff_eq {g g' : Option String} (reports : m.Reports g) :
    m.Reports g' ↔ g' = g := by
  constructor
  · intro reports'
    rw [← reports'.context, reports.context]
  · rintro rfl
    exact reports

end Moment

/-! ## Accepted scenarios -/

namespace Scenario

/-- The group of the process for a context: the one that the form speaks about, else the process's
own. -/
def contextGroup (s : Scenario) : Option String :=
  (s.form.bind ProcessForm.groupId).or s.process.groupId

/-- The process and its form do not give two groups. -/
def OneGroup (s : Scenario) : Prop :=
  ∀ own ∈ s.process.groupId, ∀ formed ∈ s.form.bind ProcessForm.groupId, own = formed

instance (s : Scenario) : Decidable s.OneGroup :=
  inferInstanceAs (Decidable (∀ own ∈ s.process.groupId, ∀ formed ∈ _, own = formed))

/-- A context falls back on the row of the process, which has a group of the form at most if the
process gives none. -/
theorem contextGroup_of_groupId (s : Scenario) :
    (s.form.bind ProcessForm.groupId).or s.groupId = s.contextGroup := by
  unfold contextGroup groupId
  cases s.form.bind ProcessForm.groupId with
  | none => simp
  | some formed => rfl

theorem groupId_eq_contextGroup_iff (s : Scenario) : s.groupId = s.contextGroup ↔ s.OneGroup := by
  unfold groupId contextGroup OneGroup
  cases s.process.groupId with
  | none => simp
  | some own =>
      cases s.form.bind ProcessForm.groupId with
      | none => simp
      | some formed => simp

/-- All contexts of a replay of an accepted scenario report one group, and all rows of its event log
carry it: the group of the form, if it speaks about one, else the group that the process gives. It
is the group in the row of the process exactly when the process and the form do not give two. -/
theorem groups_agree_iff {s : Scenario} {now : Instant} {b : BuiltScenario}
    (built : s.build now = .ok b) (config : WorkflowConfig) (time : Instant) :
    (∀ m, Moment.Leads (.begun (b.replay config time) b.actions) m →
      m.Reports s.contextGroup ∧ (m.Reports b.process.groupId ↔ s.OneGroup)) ∧
    ∀ report, (b.replay config time).run b.actions = .ok report → ∀ row ∈ report.events,
      row.groupId = s.contextGroup ∧ (row.groupId = b.process.groupId ↔ s.OneGroup) := by
  have reflects := (reflects_of_build built).2
  have own : b.process.groupId = s.groupId := by
    rw [reflects.process]
    rfl
  have entity : b.process.groupId = s.contextGroup ↔ s.OneGroup := by
    rw [own]
    exact s.groupId_eq_contextGroup_iff
  have base : (b.replay config time).context.groupId = s.contextGroup := by
    change (b.form.bind ProcessForm.groupId).or b.process.groupId = s.contextGroup
    rw [reflects.form, own]
    exact s.contextGroup_of_groupId
  have reports : ∀ m, Moment.Leads (.begun (b.replay config time) b.actions) m →
      m.Reports s.contextGroup := by
    intro m leads
    rw [← base]
    exact leads.reports (b.opening_replay config time) rfl
  refine ⟨fun m leads => ⟨reports m leads, (reports m leads).iff_eq.trans entity⟩, ?_⟩
  intro report ran row listed
  have answers := Moment.answers_run (b.replay config time) b.actions
  rw [ran] at answers
  obtain ⟨r, leads, rfl⟩ := answers
  have logged : row ∈ r.engine.drain.events.rows := (List.mem_filter.1 listed).1
  have named := (reports _ leads).log row logged
  refine ⟨named, ?_⟩
  rw [named, ← entity]
  exact eq_comm

/-- A process that may give a group, with a form for the consumption of a topic of the orders. -/
def consuming (own : Option String) : Scenario :=
  { straight with
    process := ⟨1, "P", none, "carol", own, ["review"]⟩
    form := some (.newConsumption (some ⟨"billing", "orders", "placed", []⟩))
    listeners := [⟨"mail", .process, "CREATE", false, none⟩] }

/-- If the process gives the group of the form, it is the group everywhere. -/
theorem consuming_agrees : ∃ b p, (consuming (some "orders")).build default = .ok b ∧
    (b.replay .standard default).run b.actions = .ok p ∧
    (∀ m, Moment.Leads (.begun (b.replay .standard default) b.actions) m →
      m.Reports b.process.groupId) ∧
    p.events.length = 1 ∧ ∀ row ∈ p.events, row.groupId = b.process.groupId := by
  have ran : ((consuming (some "orders")).report? .standard).map (·.events.length) = some 1 := by
    decide +kernel
  obtain ⟨p, there, once⟩ := Option.map_eq_some_iff.1 ran
  obtain ⟨b, built, run⟩ := run_of_report? there
  have one : (consuming (some "orders")).OneGroup := by decide
  obtain ⟨moments, rows⟩ := groups_agree_iff built .standard default
  exact ⟨b, p, built, run, fun m leads => (moments m leads).2.2 one, once,
    fun row listed => (rows p run row listed).2.2 one⟩

/-- If it gives another one, that group is in the row of the process, and the event log has the
group of the form. -/
theorem consuming_differs : ∃ b p, (consuming (some "payments")).build default = .ok b ∧
    (b.replay .standard default).run b.actions = .ok p ∧
    b.process.groupId = some "payments" ∧ p.events.map (·.groupId) = [some "orders"] := by
  have ran : ((consuming (some "payments")).report? .standard).map
      (·.events.map (·.groupId)) = some [some "orders"] := by
    decide +kernel
  obtain ⟨p, there, groups⟩ := Option.map_eq_some_iff.1 ran
  obtain ⟨b, built, run⟩ := run_of_report? there
  refine ⟨b, p, built, run, ?_, groups⟩
  rw [(reflects_of_build built).2.process]
  rfl

end Scenario

end ApprovalFlow
