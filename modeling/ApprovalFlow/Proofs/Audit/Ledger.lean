import ApprovalFlow.Proofs.Audit.Desk

/-!
# What the log says of the runs

With a log that works, each run has its row from its beginning on. `Desk.Ledger` keeps beside the
log whose row each row is and how far the run has come.

* `Desk.Step.ledger`: whatever happens at a desk keeps it.
* `Desk.Ledger.of_done`: in the end each row says what has come of one run, each run has one row,
  and the runs in line stand in the order in which they were made.
-/

namespace ApprovalFlow

/-- Whether a run in line was observed. -/
def Observation.isInLine : Observation → Bool
  | ran _ _ _ isAsync _ => !isAsync
  | dispatched .. | consulted _ => false

/-- Runs are in the mode that fits the way they are made, and nothing is noted that looks like a
run. -/
def Effect.KeepsMode : Effect → Prop
  | .noted os => runs os = []
  | .stored _ => True
  | .ran i => i.isAsync = false
  | .submitted i => i.isAsync = true

theorem Effect.For.keepsMode {ε : Type} [EventScope ε] {c : Context} {x : Effect}
    (own : x.For ε c) : x.KeepsMode := by
  cases own with
  | noted silent => exact silent
  | ran => rfl
  | submitted => rfl

theorem Notice.Makes.keepsMode {n : Notice} {x : Effect} (makes : n.Makes x) : x.KeepsMode := by
  unfold Makes at makes
  split at makes
  · exact makes.keepsMode
  · exact makes.keepsMode

/-- What is no run is no run in line. -/
theorem inLine_of_runs_eq_nil {os : List Observation} (silent : runs os = []) :
    os.filter (·.isInLine) = [] := by
  rw [List.filter_eq_nil_iff]
  intro o member inLine
  have none := List.filter_eq_nil_iff.1 silent o member
  cases o with
  | ran => exact none rfl
  | dispatched => cases inLine
  | consulted => cases inLine

/-- What a row says of a run: what was run, for whom and in which mode, and what has come of it. -/
structure EventRow.Reports (row : EventRow) (i : Invocation) : Prop where
  processId : row.processId = i.snapshot.process.id
  groupId : row.groupId = i.snapshot.groupId
  taskId : row.taskId = i.snapshot.action.map (·.row.id)
  elementName : row.elementName = i.element.name
  eventType : row.eventType = i.family.name
  event : row.event = i.event
  listener : row.listener = i.listener
  isAsync : row.isAsync = i.isAsync
  succeeded : row.status = .success ↔ i.outcome = .success
  refused : ∀ message, row.status = .failed ∧ row.remark = some message ↔
    i.outcome = .refusal message
  failed : ∀ text, row.status = .failed ∧ row.failure = some text ↔
    ∃ err, i.outcome = .failure err ∧ err.message = text
  brokeOff : row.status = .executing ∧ row.endTime = none ↔ i.outcome = .panic

theorem EventRow.reports_of_erased {row : EventRow} {i : Invocation}
    (same : row.erased = i.record) : row.Reports i := by
  have kept : row.erased = { i.opening default with
      status := i.record.status
      endTime := i.record.endTime
      remark := i.record.remark
      failure := i.record.failure } := by
    rw [same]
    unfold Invocation.record
    cases i.outcome <;> rfl
  have ending : (row.status, row.endTime.isSome, row.remark, row.failure) =
      (i.record.status, i.record.endTime.isSome, i.record.remark, i.record.failure) := by
    rw [← same]
    simp [EventRow.erased]
  unfold Invocation.record at ending
  refine ⟨congrArg EventRow.processId kept, congrArg EventRow.groupId kept,
    congrArg EventRow.taskId kept, congrArg EventRow.elementName kept,
    congrArg EventRow.eventType kept, congrArg EventRow.event kept,
    congrArg EventRow.listener kept, congrArg EventRow.isAsync kept, ?_, ?_, ?_, ?_⟩
  all_goals
    rcases answer : i.outcome with _ | message | err | _
    all_goals
      rw [answer] at ending
      simp only [Invocation.closing, Invocation.opening, Option.getD_some, Option.getD_none,
        Option.isSome_some, Option.isSome_none, Prod.mk.injEq, Option.isSome_eq_false_iff,
        Option.isNone_iff_eq_none] at ending
      simp [ending]

/-- An engine whose log records runs, each in one row and nothing else. -/
structure Engine.Records (e : Engine TaskTable EventLog) (is : List Invocation) : Prop where
  rows : List.Forall₂ EventRow.Reports e.events.rows is
  noted : (runs e.trace).Perm (is.map (·.observation))
  inLine : e.trace.filter (·.isInLine) = (is.filter (!·.isAsync)).map (·.observation)

/-- A row of the log with the run that it is of. The run is under way, or it has ended. -/
structure Entry where
  row : EventRow
  call : Invocation
  hearing : Option Hearing

namespace Entry

/-- The run has ended. -/
def isSettled (n : Entry) : Bool := n.hearing.isNone

/-- The listener has answered. -/
def isHeard (n : Entry) : Bool := n.hearing.all (·.heard)

/-- The run is in line. -/
def isInLine (n : Entry) : Bool := !n.call.isAsync

/-- The row is as it was stored while the run is under way, and says afterwards what has come of
it. -/
def Fits (n : Entry) : Prop :=
  match n.hearing with
  | some u => u.call = n.call ∧ u.row = some n.row ∧ n.row.erased = n.call.opening default ∧
      (u.seat = .inLine ↔ n.call.isAsync = false)
  | none => n.row.erased = n.call.record

theorem isHeard_of_isSettled {n : Entry} (settled : n.isSettled = true) : n.isHeard = true := by
  unfold isSettled at settled
  unfold isHeard
  rw [Option.isNone_iff_eq_none.1 settled]
  rfl

end Entry

/-! ## Choosing from a list with one member exchanged -/

section

variable {α : Type} {p : α → Bool} {front back : List α} {x : α}

theorem filter_middle_of_pos (yes : p x = true) :
    (front ++ x :: back).filter p = front.filter p ++ x :: back.filter p := by
  rw [List.filter_append, List.filter_cons_of_pos yes]

theorem filter_middle_of_neg (no : p x = false) :
    (front ++ x :: back).filter p = front.filter p ++ back.filter p := by
  rw [List.filter_append, List.filter_cons_of_neg (by simp [no])]

theorem filter_concat_of_neg (no : p x = false) : (front ++ [x]).filter p = front.filter p := by
  rw [filter_middle_of_neg no, List.filter_nil, List.append_nil]

/-- One member is exchanged for another that has what all have. -/
theorem forall_exchange {P : α → Prop} {y : α} (all : ∀ z ∈ front ++ x :: back, P z)
    (new : P y) : ∀ z ∈ front ++ y :: back, P z := by
  rw [List.forall_mem_append, List.forall_mem_cons] at all ⊢
  exact ⟨all.1, new, all.2.2⟩

/-- One member is exchanged for another that is chosen as it was and looks the same. -/
theorem map_filter_exchange {β : Type} {f : α → β} {y : α} (chosen : p y = p x)
    (same : f y = f x) :
    ((front ++ y :: back).filter p).map f = ((front ++ x :: back).filter p).map f := by
  simp only [List.filter_append, List.filter_cons, List.map_append, chosen]
  split
  · rw [List.map_cons, List.map_cons, same]
  · rfl

/-- One member is exchanged for another that stands to the rest as it did. -/
theorem pairwise_exchange {R : α → α → Prop} {y : α} (all : (front ++ x :: back).Pairwise R)
    (left : ∀ z, R z x → R z y) (right : ∀ z, R x z → R y z) :
    (front ++ y :: back).Pairwise R := by
  rw [List.pairwise_append, List.pairwise_cons] at all ⊢
  obtain ⟨early, ⟨first, late⟩, both⟩ := all
  refine ⟨early, ⟨fun z member => right z (first z member), late⟩, ?_⟩
  intro z before w after
  rcases List.mem_cons.1 after with rfl | after
  · exact left z (both z before x (List.mem_cons_self ..))
  · exact both z before w (List.mem_cons_of_mem _ after)

theorem perm_without {xs ys : List α} (same : (xs ++ x :: ys).Perm (front ++ x :: back)) :
    (xs ++ ys).Perm (front ++ back) :=
  (List.perm_middle.symm.trans (same.trans List.perm_middle)).cons_inv

end

/-- A run in line comes in at its end. -/
theorem Entry.filter_grows {p : Entry → Bool} {front back : List Entry} {n m : Entry}
    (before : p n = false) (after : p m = true)
    (last : m.call.isAsync = false → ∀ k ∈ back, k.isInLine = false) :
    ((front ++ m :: back).filter fun n => p n && n.isInLine).map (·.call) =
      ((front ++ n :: back).filter fun n => p n && n.isInLine).map (·.call) ++
        [m.call].filter (!·.isAsync) := by
  rw [filter_middle_of_neg (x := n) (by rw [before]; rfl)]
  cases mode : m.call.isAsync with
  | true =>
      rw [filter_middle_of_neg (by simp [isInLine, mode]), List.filter_cons_of_neg (by simp [mode])]
      exact (List.append_nil _).symm
  | false =>
      have none : back.filter (fun n => p n && n.isInLine) = [] := by
        rw [List.filter_eq_nil_iff]
        intro k member
        simp [last mode k member]
      rw [filter_middle_of_pos (by simp [isInLine, after, mode]), none,
        List.filter_cons_of_pos (by simp [mode])]
      simp

namespace Desk

/-- The rows of the log, one by one, and the runs they are of. The runs that have ended, with those
that are still to come, are the ones to be made; of the runs in line all but the last have ended, so
they stand in their order. -/
structure Ledger (calls : List Invocation) (d : Desk EventLog) (ns : List Entry) : Prop where
  rows : d.engine.events.rows = ns.map (·.row)
  fits : ∀ n ∈ ns, n.Fits
  begun : (ns.filterMap (·.hearing)).Perm d.begun
  order : ns.Pairwise fun n m => n.isInLine = true → m.isInLine = true → n.isSettled = true
  noted : (runs d.engine.trace).Perm (((ns.filter (·.isHeard)).map (·.call)).map (·.observation))
  notedInLine : d.engine.trace.filter (·.isInLine) =
    ((ns.filter fun n => n.isHeard && n.isInLine).map (·.call)).map (·.observation)
  made : ((ns.filter (·.isSettled)).map (·.call) ++ d.floor.pending).Perm calls
  madeInLine : (ns.filter fun n => n.isSettled && n.isInLine).map (·.call) ++
    (d.todo.filterMap Effect.run?).filter (!·.isAsync) = calls.filter (!·.isAsync)
  modes : ∀ x ∈ d.todo, x.KeepsMode
  pooled : ∀ i ∈ Floor.pooled d.floor.engine, i.isAsync = true

/-- What is known of a desk that a sound floor shows. -/
structure Tidy (d : Desk EventLog) : Prop where
  tidy : ∀ family, (d.engine.pool family).Tidy
  numbers : (d.engine.events.rows.map (·.id)).Nodup
  holds : ∀ u ∈ d.begun, d.floor.Holds u.seat u.call

variable {calls : List Invocation} {d d₁ : Desk EventLog} {f : Floor} {ns : List Entry}
  {tasks : TaskTable} {account : List EventRow}

theorem Shows.tidy (shows_ : d.Shows f) (sound : f.Sound tasks account) : d.Tidy := by
  refine ⟨shows_.pool ▸ sound.tidy, ?_, ?_⟩
  · have numbers := sound.nodup_numbers
    rw [shows_.engine] at numbers
    exact numbers
  · intro u member
    obtain ⟨before, after, here⟩ := List.append_of_mem member
    obtain ⟨before', v, after', there, -, seat, call, -, -⟩ := shows_.split here
    rw [← seat, ← call]
    exact shows_.holds.1 (sound.holds v (by rw [there]; simp))

/-! ## Steps that leave the log alone -/

theorem Ledger.of_log_eq (ledger : Ledger calls d ns) (events : d₁.engine.events = d.engine.events)
    (begun : d₁.begun = d.begun) (more : List Observation)
    (trace : d₁.engine.trace = d.engine.trace ++ more) (silent : runs more = [])
    (pending : d₁.floor.pending.Perm d.floor.pending)
    (inLine : (d₁.todo.filterMap Effect.run?).filter (!·.isAsync) =
      (d.todo.filterMap Effect.run?).filter (!·.isAsync))
    (modes : ∀ x ∈ d₁.todo, x.KeepsMode)
    (pooled : ∀ i ∈ Floor.pooled d₁.floor.engine, i.isAsync = true) : Ledger calls d₁ ns where
  rows := by rw [events, ledger.rows]
  fits := ledger.fits
  begun := by rw [begun]; exact ledger.begun
  order := ledger.order
  noted := by rw [trace, runs_append, silent, List.append_nil]; exact ledger.noted
  notedInLine := by
    rw [trace, List.filter_append, inLine_of_runs_eq_nil silent, List.append_nil]
    exact ledger.notedInLine
  made := (pending.append_left _).trans ledger.made
  madeInLine := by rw [inLine]; exact ledger.madeInLine
  modes := modes
  pooled := pooled

theorem Ledger.does (ledger : Ledger calls d ns) {x : Effect} {rest : List Effect}
    (todo : d.todo = x :: rest) (silent : x.run? = none) :
    Ledger calls { d with engine := d.engine.perform x, todo := rest } ns := by
  have modes := ledger.modes
  rw [todo, List.forall_mem_cons] at modes
  have runs_eq : d.todo.filterMap Effect.run? = rest.filterMap Effect.run? := by
    rw [todo, List.filterMap_cons_none silent]
  have pools : Floor.pooled ({ d with engine := d.engine.perform x, todo := rest } :
      Desk EventLog).floor.engine = Floor.pooled d.floor.engine := by
    cases x with
    | noted => rfl
    | stored => rfl
    | ran => cases silent
    | submitted => cases silent
  have pending : ({ d with engine := d.engine.perform x, todo := rest } :
      Desk EventLog).floor.pending = d.floor.pending := by
    unfold Floor.pending
    rw [pools]
    exact congrArg (· ++ _) runs_eq.symm
  have more : ∃ more, (d.engine.perform x).trace = d.engine.trace ++ more ∧ runs more = [] := by
    cases x with
    | noted os => exact ⟨os, rfl, modes.1⟩
    | stored => exact ⟨[], (List.append_nil _).symm, rfl⟩
    | ran => cases silent
    | submitted => cases silent
  have events : (d.engine.perform x).events = d.engine.events := by
    cases x with
    | noted => rfl
    | stored => rfl
    | ran => cases silent
    | submitted => cases silent
  obtain ⟨more, trace, quiet⟩ := more
  refine ledger.of_log_eq events rfl more trace quiet (List.Perm.of_eq pending) ?_ modes.2 ?_
  · dsimp only
    rw [runs_eq]
  · rw [pools]
    exact ledger.pooled

/-- One pool is changed, and nothing is lost or added. -/
theorem Ledger.of_pool (ledger : Ledger calls d ns) {family : Family} {p : Pool Invocation}
    (same : p.unfinished.Perm (d.engine.pool family).unfinished) :
    Ledger calls { d with engine := d.engine.withPool family p } ns := by
  have floor : ({ d with engine := d.engine.withPool family p } : Desk EventLog).floor.engine =
      d.floor.engine.withPool family p := (Engine.withPool_withEvents ..).symm
  have here : p.unfinished.Perm (d.floor.engine.pool family).unfinished := by
    unfold Desk.floor
    rw [Engine.pool_withEvents]
    exact same
  have pooled := Floor.perm_pooled [] [] here
  refine ledger.of_log_eq (Engine.events_withPool ..) rfl [] ?_ rfl ?_ rfl ledger.modes ?_
  · rw [List.append_nil]
    cases family <;> rfl
  · unfold Floor.pending
    rw [floor]
    exact pooled.append_left _
  · intro i member
    rw [floor] at member
    exact ledger.pooled i (pooled.mem_iff.1 member)

theorem Ledger.submits (ledger : Ledger calls d ns) {i : Invocation} {rest : List Effect}
    (todo : d.todo = .submitted i :: rest) :
    Ledger calls { d with
      engine := d.engine.withPool i.family ((d.engine.pool i.family).submit i)
      todo := rest } ns := by
  have modes := ledger.modes
  rw [todo, List.forall_mem_cons] at modes
  have isAsync : i.isAsync = true := modes.1
  have floor : ({ d with
      engine := d.engine.withPool i.family ((d.engine.pool i.family).submit i)
      todo := rest } : Desk EventLog).floor.engine =
      d.floor.engine.withPool i.family ((d.engine.pool i.family).submit i) :=
    (Engine.withPool_withEvents ..).symm
  have here : ((d.engine.pool i.family).submit i).unfinished.Perm
      (i :: (d.floor.engine.pool i.family).unfinished) := by
    unfold Desk.floor
    rw [Engine.pool_withEvents]
    exact Pool.unfinished_submit (d.engine.pool i.family) i
  have pooled := Floor.perm_pooled [] [i] here
  refine ledger.of_log_eq (Engine.events_withPool ..) rfl [] ?_ rfl ?_ ?_ modes.2 ?_
  · rw [List.append_nil]
    dsimp only
    cases i.family <;> rfl
  · unfold Floor.pending
    rw [floor]
    rw [show d.floor.todo = .submitted i :: rest from todo]
    exact (pooled.append_left _).trans List.perm_middle
  · dsimp only
    have first : Effect.run? (.submitted i) = some i := rfl
    rw [todo, List.filterMap_cons_some first, List.filter_cons_of_neg (by simp [isAsync])]
  · intro j member
    rw [floor] at member
    rcases List.mem_cons.1 (pooled.mem_iff.1 member) with rfl | old
    · exact isAsync
    · exact ledger.pooled j old

/-! ## A run begins -/

/-- What is run in line is so by the caller, and everything else is not. -/
theorem Ledger.seat_iff (ledger : Ledger calls d ns) {seat : Seat} {i : Invocation}
    (holds : d.floor.Holds seat i) : seat = .inLine ↔ i.isAsync = false := by
  have pooled : ∀ family, i ∈ (d.floor.engine.pool family).unfinished → i.isAsync = true := by
    intro family member
    refine ledger.pooled i ?_
    unfold Floor.pooled
    cases family with
    | process => exact List.mem_append_left _ member
    | task => exact List.mem_append_right _ member
  cases holds with
  | @inLine _ rest here =>
      have mode := ledger.modes (.ran i) (by rw [show d.todo = .ran i :: rest from here]; simp)
      exact iff_of_true rfl mode
  | @caller family job member =>
      have isAsync := pooled family (List.mem_append_right _ (List.mem_map_of_mem member))
      exact iff_of_false (by rintro ⟨⟩) (by rw [isAsync]; simp)
  | @worker family number job member =>
      have isAsync := pooled family (List.mem_append_left _ (List.mem_append_right _
        (List.mem_map.2 ⟨_, member, rfl⟩)))
      exact iff_of_false (by rintro ⟨⟩) (by rw [isAsync]; simp)

theorem Ledger.opens (ledger : Ledger calls d ns) {seat : Seat} {i : Invocation}
    (holds : d.floor.Holds seat i) (fresh : seat ∉ d.begun.map (·.seat)) :
    Ledger calls { d with
      engine := (d.engine.beginRecord i).2
      begun := d.begun ++ [⟨seat, i, (d.engine.beginRecord i).1, false⟩] }
      (ns ++ [⟨d.engine.events.fresh (i.opening d.engine.now), i,
        some ⟨seat, i, (d.engine.beginRecord i).1, false⟩⟩]) := by
  have seats := ledger.seat_iff holds
  refine ⟨?_, ?_, ?_, ?_, ?_, ?_, ?_, ?_, ledger.modes, ledger.pooled⟩
  · rw [List.map_append, ← ledger.rows]
    rfl
  · intro n member
    rcases List.mem_append.1 member with old | new
    · exact ledger.fits n old
    · rw [List.mem_singleton.1 new]
      exact ⟨rfl, rfl, rfl, seats⟩
  · rw [List.filterMap_append]
    exact ledger.begun.append_right _
  · rw [List.pairwise_append]
    refine ⟨ledger.order, List.pairwise_singleton .., ?_⟩
    intro n member m new inLine inLine'
    rw [List.mem_singleton.1 new] at inLine'
    -- A run in line that has not ended would sit where the new one is to begin.
    have mine : seat = .inLine := seats.2 (by simpa [Entry.isInLine] using inLine')
    cases hearing : n.hearing with
    | none =>
        unfold Entry.isSettled
        rw [hearing]
        rfl
    | some u =>
        have fits := ledger.fits n member
        unfold Entry.Fits at fits
        rw [hearing] at fits
        have theirs : u.seat = .inLine := fits.2.2.2.2 (by simpa [Entry.isInLine] using inLine)
        have there : u ∈ d.begun :=
          ledger.begun.mem_iff.1 (List.mem_filterMap.2 ⟨n, member, hearing⟩)
        rw [mine, ← theirs] at fresh
        exact (fresh (List.mem_map_of_mem there)).elim
  · rw [filter_concat_of_neg rfl]
    exact ledger.noted
  · rw [filter_concat_of_neg rfl]
    exact ledger.notedInLine
  · rw [filter_concat_of_neg rfl]
    exact ledger.made
  · rw [filter_concat_of_neg rfl]
    exact ledger.madeInLine

/-! ## A listener answers -/

/-- Whoever is at work has an entry, and of those that follow it none is of a run in line if it is
itself. -/
theorem Ledger.exists_entry (ledger : Ledger calls d ns) {before after : List Hearing} {u : Hearing}
    (here : d.begun = before ++ u :: after) :
    ∃ front row back, ns = front ++ ⟨row, u.call, some u⟩ :: back ∧ u.row = some row ∧
      row.erased = u.call.opening default ∧ (u.seat = .inLine ↔ u.call.isAsync = false) ∧
      (front.filterMap (·.hearing) ++ back.filterMap (·.hearing)).Perm (before ++ after) ∧
      (u.call.isAsync = false → ∀ m ∈ back, m.isInLine = false) := by
  have member : u ∈ ns.filterMap (·.hearing) :=
    ledger.begun.mem_iff.2 (by rw [here]; simp)
  obtain ⟨n, there, hearing⟩ := List.mem_filterMap.1 member
  obtain ⟨front, back, split⟩ := List.append_of_mem there
  have fits := ledger.fits n there
  obtain ⟨row, call, hearing'⟩ := n
  cases hearing
  obtain ⟨rfl, stored, erased, seats⟩ := fits
  refine ⟨front, row, back, split, stored, erased, seats, ?_, ?_⟩
  · have begun := ledger.begun
    have mine : Entry.hearing ⟨row, u.call, some u⟩ = some u := rfl
    rw [split, here, List.filterMap_append, List.filterMap_cons_some mine] at begun
    exact perm_without begun
  · intro inLine m late
    have order := ledger.order
    rw [split, List.pairwise_append, List.pairwise_cons] at order
    by_contra later
    have settled := order.2.1.1 m late (by simp [Entry.isInLine, inLine])
      (by simpa using later)
    cases settled

theorem Ledger.hears (ledger : Ledger calls d ns) {before after : List Hearing} {u : Hearing}
    (here : d.begun = before ++ u :: after) (silent : u.heard = false) :
    ∃ ns', Ledger calls { d with
      engine := d.engine.note u.call.observation
      begun := before ++ { u with heard := true } :: after } ns' := by
  obtain ⟨front, row, back, rfl, stored, erased, seats, others, last⟩ := ledger.exists_entry here
  refine ⟨front ++ ⟨row, u.call, some { u with heard := true }⟩ :: back, ?_, ?_, ?_, ?_, ?_, ?_, ?_,
    ?_, ledger.modes, ledger.pooled⟩
  · have rows := ledger.rows
    rw [List.map_append, List.map_cons] at rows ⊢
    exact rows
  · exact forall_exchange ledger.fits ⟨rfl, stored, erased, seats⟩
  · rw [List.filterMap_append, List.filterMap_cons_some
      (show Entry.hearing ⟨row, u.call, some { u with heard := true }⟩ = some _ from rfl)]
    exact List.perm_middle.trans ((others.cons _).trans List.perm_middle.symm)
  · exact pairwise_exchange ledger.order (fun _ all => all) fun _ all => all
  · have noted := ledger.noted
    rw [filter_middle_of_neg (show Entry.isHeard ⟨row, u.call, some u⟩ = false from silent),
      List.map_append, List.map_append] at noted
    rw [filter_middle_of_pos rfl, List.map_append, List.map_cons, List.map_append, List.map_cons]
    have more : runs (d.engine.trace ++ [u.call.observation]) =
        runs d.engine.trace ++ [u.call.observation] := runs_append ..
    dsimp only [Engine.note]
    rw [more]
    refine (noted.append_right _).trans ?_
    rw [List.append_assoc]
    exact (List.perm_append_singleton ..).append_left _
  · have grown := @Entry.filter_grows (·.isHeard) front back ⟨row, u.call, some u⟩
      ⟨row, u.call, some { u with heard := true }⟩ silent rfl last
    have mine : [u.call.observation].filter (·.isInLine) =
        ([u.call].filter (!·.isAsync)).map (·.observation) :=
      List.filter_map (f := Invocation.observation) (p := Observation.isInLine) (l := [u.call])
    dsimp only [Engine.note]
    rw [List.filter_append, ledger.notedInLine, mine, grown, List.map_append]
  · have made := ledger.made
    rw [filter_middle_of_neg rfl] at made ⊢
    exact made
  · have made := ledger.madeInLine
    rw [filter_middle_of_neg rfl] at made ⊢
    exact made

/-! ## A run ends -/

theorem floor_leave (d : Desk EventLog) (seat : Seat) :
    (d.leave seat).floor = d.floor.leave seat := by
  unfold Desk.floor
  cases seat with
  | inLine => rfl
  | caller =>
      dsimp only [Desk.leave, Floor.leave]
      rw [Engine.pool_withEvents, Engine.withPool_withEvents]
  | worker =>
      dsimp only [Desk.leave, Floor.leave]
      rw [Engine.pool_withEvents, Engine.withPool_withEvents]

theorem floor_settle (d : Desk EventLog) (u : Hearing) (others : List Hearing) :
    (d.settle u others).floor = d.floor := by
  unfold Desk.floor settle
  rw [Engine.closeRecord_eq_withEvents]
  rfl

/-- A seat that is left: the log, the notes and whoever else is at work stay. -/
theorem leave_eq (d : Desk EventLog) (seat : Seat) :
    (d.leave seat).engine.events = d.engine.events ∧
      (d.leave seat).engine.trace = d.engine.trace ∧ (d.leave seat).begun = d.begun := by
  cases seat with
  | inLine => exact ⟨rfl, rfl, rfl⟩
  | caller family => cases family <;> exact ⟨rfl, rfl, rfl⟩
  | worker family => cases family <;> exact ⟨rfl, rfl, rfl⟩

theorem pooled_leave {g : Floor} {seat : Seat} {i : Invocation} (left : g.Left i (g.leave seat)) :
    Floor.pooled (g.leave seat).engine ⊆ Floor.pooled g.engine := by
  generalize g.leave seat = g' at left
  cases left with
  | inLine => exact fun _ => id
  | pool _ gone =>
      have less := Floor.perm_pooled (e := g.engine) [i] [] gone.symm
      exact fun j member => less.mem_iff.1 (List.mem_cons_of_mem _ member)

/-- A run in line that ends is the next that the caller had to make; what the caller has to do is
not touched by the others. -/
theorem todo_leave (d : Desk EventLog) {u : Hearing} (holds : d.floor.Holds u.seat u.call)
    (seats : u.seat = .inLine ↔ u.call.isAsync = false) :
    (d.todo.filterMap Effect.run?).filter (!·.isAsync) = [u.call].filter (!·.isAsync) ++
        ((d.leave u.seat).todo.filterMap Effect.run?).filter (!·.isAsync) ∧
      (d.leave u.seat).todo ⊆ d.todo := by
  obtain ⟨seat, call, row, heard⟩ := u
  cases holds with
  | @inLine _ rest there =>
      have mode : call.isAsync = false := seats.1 rfl
      have todo : d.todo = .ran call :: rest := there
      have first : Effect.run? (.ran call) = some call := rfl
      dsimp only [Desk.leave]
      rw [todo, List.tail_cons, List.filterMap_cons_some first, ← List.singleton_append,
        List.filter_append]
      exact ⟨rfl, List.subset_cons_self ..⟩
  | caller =>
      rw [List.filter_cons_of_neg (by simpa using seats)]
      exact ⟨rfl, fun _ => id⟩
  | worker =>
      rw [List.filter_cons_of_neg (by simpa using seats)]
      exact ⟨rfl, fun _ => id⟩

theorem Ledger.closes (ledger : Ledger calls d ns) (tidy : d.Tidy) {before after : List Hearing}
    {u : Hearing} (here : d.begun = before ++ u :: after) (answered : u.heard = true) :
    ∃ ns', Ledger calls ((d.settle u (before ++ after)).leave u.seat) ns' := by
  obtain ⟨front, row, back, rfl, stored, erased, seats, others, last⟩ := ledger.exists_entry here
  have holds := tidy.holds u (by rw [here]; simp)
  have left : d.floor.Left u.call (d.floor.leave u.seat) := by
    refine holds.left ?_
    unfold Desk.floor
    rw [Engine.pool_withEvents]
    exact tidy.tidy
  have floor : ((d.settle u (before ++ after)).leave u.seat).floor = d.floor.leave u.seat := by
    rw [floor_leave, floor_settle]
  have todo := todo_leave (d.settle u (before ++ after)) (u := u)
    (by rw [floor_settle]; exact holds) seats
  obtain ⟨events, trace, begun⟩ := leave_eq (d.settle u (before ++ after)) u.seat
  have notes : (d.settle u (before ++ after)).engine.trace = d.engine.trace := by
    unfold settle
    rw [Engine.closeRecord_eq_withEvents]
    rfl
  have log := ledger.rows
  rw [List.map_append, List.map_cons] at log
  obtain ⟨row', -, record, rows⟩ := Floor.rows_endRecord tidy.numbers log erased
  have kept : ∀ p : Entry → Bool, p ⟨row', u.call, none⟩ = p ⟨row, u.call, some u⟩ →
      ((front ++ ⟨row', u.call, none⟩ :: back).filter p).map (·.call) =
        ((front ++ ⟨row, u.call, some u⟩ :: back).filter p).map (·.call) :=
    fun p chosen => map_filter_exchange chosen rfl
  refine ⟨front ++ ⟨row', u.call, none⟩ :: back, ?_, ?_, ?_, ?_, ?_, ?_, ?_, ?_, ?_, ?_⟩
  · rw [events, List.map_append, List.map_cons]
    unfold settle Engine.closeRecord
    rw [stored]
    exact rows
  · exact forall_exchange ledger.fits record
  · rw [begun, List.filterMap_append, List.filterMap_cons_none rfl]
    exact others
  · exact pairwise_exchange ledger.order (fun _ all => all) fun _ _ _ _ => rfl
  · rw [trace, notes, kept (·.isHeard) answered.symm]
    exact ledger.noted
  · rw [trace, notes, kept (fun n => n.isHeard && n.isInLine) (congrArg (· && _) answered.symm)]
    exact ledger.notedInLine
  · have made := ledger.made
    rw [filter_middle_of_neg rfl, List.map_append] at made
    rw [filter_middle_of_pos rfl, List.map_append, floor]
    exact ((List.perm_middle.append_right _).trans List.perm_middle.symm).trans
      ((left.pending.symm.append_left _).trans made)
  · have grown := @Entry.filter_grows (·.isSettled) front back ⟨row, u.call, some u⟩
      ⟨row', u.call, none⟩ rfl rfl last
    rw [grown, List.append_assoc, ← todo.1]
    exact ledger.madeInLine
  · exact fun x member => ledger.modes x (todo.2 member)
  · rw [floor]
    exact fun i member => ledger.pooled i (pooled_leave left member)

/-! ## From the beginning to the end -/

/-- Whatever happens, each row is still of one run. -/
theorem Step.ledger (step : Step d d₁) (tidy : d.Tidy) (ledger : Ledger calls d ns) :
    ∃ ns', Ledger calls d₁ ns' := by
  cases step with
  | does todo silent => exact ⟨_, ledger.does todo silent⟩
  | submits todo => exact ⟨_, ledger.submits todo⟩
  | takes taken => exact ⟨_, ledger.of_pool (Pool.unfinished_take taken)⟩
  | reorders same =>
      exact ⟨_, ledger.of_pool (((same.map (·.work)).append_right _).append_right _)⟩
  | opens holds fresh => exact ⟨_, ledger.opens holds fresh⟩
  | hears here silent => exact ledger.hears here silent
  | closes here answered => exact ledger.closes tidy here answered
  | ticks now =>
      exact ⟨_, ledger.of_log_eq rfl rfl [] (List.append_nil _).symm rfl (List.Perm.refl _) rfl
        ledger.modes ledger.pooled⟩

/-- Nothing has been run, and the log is empty. -/
theorem ledger_of_opening {e : Engine TaskTable EventLog} (opening : Floor.Opening e)
    (silent : runs e.trace = []) {fx : List Effect} (modes : ∀ x ∈ fx, x.KeepsMode) :
    Ledger (fx.filterMap Effect.run?) ⟨e, fx, []⟩ [] := by
  have empty : Floor.pooled (Desk.floor ⟨e, fx, []⟩).engine = [] := by
    unfold Floor.pooled Desk.floor
    rw [Engine.pool_withEvents, opening.unfinished, opening.unfinished]
    rfl
  refine ⟨?_, ?_, List.Perm.refl _, List.Pairwise.nil, ?_, ?_, ?_, rfl, modes, ?_⟩
  · rw [opening.log]
    rfl
  · simp
  · rw [silent]
    rfl
  · rw [inLine_of_runs_eq_nil silent]
    rfl
  · unfold Floor.pending
    rw [empty, List.append_nil]
    rfl
  · rw [empty]
    simp

/-- From the first moment on, whatever has happened. -/
theorem Steps.ledger {e : Engine TaskTable EventLog} (opening : Floor.Opening e)
    (silent : runs e.trace = []) {fx : List Effect} (modes : ∀ x ∈ fx, x.KeepsMode)
    (steps : Steps ⟨e, fx, []⟩ d) :
    (∃ f, d.Shows f ∧ f.Sound (fx.foldl Effect.table e.tasks)
        ((fx.filterMap Effect.run?).map Invocation.record)) ∧
      ∃ ns, Ledger (fx.filterMap Effect.run?) d ns := by
  induction steps with
  | refl =>
      exact ⟨⟨_, shows_ofFloor ⟨e, fx, []⟩, opening.sound fx⟩, [],
        ledger_of_opening opening silent modes⟩
  | tail _ step ih =>
      obtain ⟨⟨f, shows_, sound⟩, ns, ledger⟩ := ih
      obtain ⟨f₁, more, shows₁⟩ := step.shows shows_
      exact ⟨⟨f₁, shows₁, sound.steps more⟩, step.ledger (shows_.tidy sound) ledger⟩

/-- When all is done nobody is at work, and nothing is left to run. -/
theorem Shows.nothing_left (shows_ : d.Shows f) (sound : f.Sound tasks account) (done : d.Done) :
    d.begun = [] ∧ d.floor.pending = [] := by
  have finished : f.Done := by
    refine ⟨shows_.todo.trans done.todo, ?_⟩
    rw [shows_.pool]
    exact done.idle
  obtain ⟨begun, nothing⟩ := sound.nothing_left finished
  refine ⟨?_, ?_⟩
  · have seats := shows_.seats
    rw [begun] at seats
    exact List.map_eq_nil_iff.1 seats.symm
  · unfold Floor.pending Floor.pooled at nothing ⊢
    unfold Desk.floor
    rw [Engine.pool_withEvents, ← shows_.pool, ← shows_.todo]
    exact nothing

/-- Once nobody is at work and nothing is left to run, the log records the runs that were to be
made. -/
theorem Ledger.of_done (ledger : Ledger calls d ns) (begun : d.begun = [])
    (nothing : d.floor.pending = []) (todo : d.todo = []) :
    ∃ is, d.engine.Records is ∧ is.Perm calls ∧
      is.filter (!·.isAsync) = calls.filter (!·.isAsync) := by
  have settled : ∀ n ∈ ns, n.hearing = none := by
    have ended := ledger.begun
    rw [begun] at ended
    exact List.filterMap_eq_nil_iff.1 ended.eq_nil
  have isSettled : ∀ n ∈ ns, n.isSettled = true := by
    intro n member
    unfold Entry.isSettled
    rw [settled n member]
    rfl
  have heard : ∀ n ∈ ns, n.isHeard = true :=
    fun n member => Entry.isHeard_of_isSettled (isSettled n member)
  refine ⟨ns.map (·.call), ⟨?_, ?_, ?_⟩, ?_, ?_⟩
  · rw [ledger.rows, List.forall₂_map_left_iff, List.forall₂_map_right_iff, List.forall₂_same]
    intro n member
    have fits := ledger.fits n member
    unfold Entry.Fits at fits
    rw [settled n member] at fits
    exact EventRow.reports_of_erased fits
  · have noted := ledger.noted
    rw [List.filter_eq_self.2 heard] at noted
    exact noted
  · rw [ledger.notedInLine, List.filter_map]
    refine congrArg (List.map _) (congrArg (List.map _) (List.filter_congr fun n member => ?_))
    rw [heard n member, Bool.true_and]
    rfl
  · have made := ledger.made
    rw [nothing, List.append_nil, List.filter_eq_self.2 isSettled] at made
    exact made
  · have made := ledger.madeInLine
    rw [todo, List.filterMap_nil, List.filter_nil, List.append_nil] at made
    rw [← made, List.filter_map]
    refine congrArg (List.map _) (List.filter_congr fun n member => ?_)
    rw [isSettled n member, Bool.true_and]
    rfl

end Desk

end ApprovalFlow
