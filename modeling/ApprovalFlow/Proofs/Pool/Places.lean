import ApprovalFlow.Pool.Basic
import Mathlib.Data.List.Nodup
import Mathlib.Data.List.Perm.Subperm

/-!
# Where the jobs of a pool are

`Pool.places` lists the numbers of all jobs place by place. Each operation of a pool moves one
number from one place to another or brings in a new one: `Pool.places_submit`, `Pool.places_take`,
`Pool.places_finish` and `Pool.places_finishOnCaller` say so up to the order of the list, and
`Pool.Tidy` is what all of them keep.
`Pool.unfinished` lists what there is still to do; a job leaves it when it finishes.
-/

namespace ApprovalFlow

/-- Taking out of a list what has the key of one of its members takes out that member alone, if the
keys are distinct. -/
theorem perm_cons_filter_of_nodup {α κ : Type} [BEq κ] [LawfulBEq κ] {key : α → κ} {xs : List α}
    (distinct : (xs.map key).Nodup) {x : α} (member : x ∈ xs) :
    xs.Perm (x :: xs.filter (key · != key x)) := by
  induction xs with
  | nil => cases member
  | cons y rest ih =>
      rw [List.map_cons, List.nodup_cons] at distinct
      obtain ⟨new, distinct⟩ := distinct
      rcases List.mem_cons.1 member with rfl | later
      · have kept : rest.filter (key · != key x) = rest := by
          rw [List.filter_eq_self]
          intro z there
          have apart : key z ≠ key x := fun same => new (same ▸ List.mem_map_of_mem there)
          simpa using apart
        simp [kept]
      · have apart : key y ≠ key x := fun same => new (same ▸ List.mem_map_of_mem later)
        have stays : (y :: rest).filter (key · != key x) = y :: rest.filter (key · != key x) :=
          List.filter_cons_of_pos (by simpa using apart)
        rw [stays]
        exact ((ih distinct later).cons y).trans (List.Perm.swap ..)

namespace Pool

variable {α : Type}

/-- The numbers of the jobs that workers run. -/
def runningTickets (p : Pool α) : List Nat :=
  p.running.map (·.2.ticket)

/-- The numbers of all jobs, place by place. -/
def places (p : Pool α) : List Nat :=
  p.queued.map (·.ticket) ++ p.runningTickets ++ p.onCaller.map (·.ticket) ++ p.finished

/-- What a pool keeps: every job is in one place, the count is right, the queue holds no more than
it can, and workers are told apart. -/
structure Tidy (p : Pool α) : Prop where
  numbers : p.places.Perm (List.range p.submitted)
  inFlight : p.inFlight = p.queued.length + p.running.length + p.onCaller.length
  room : ∀ limit, p.config.queueLimit = some limit → p.queued.length ≤ limit
  distinct : (p.running.map (·.1)).Nodup
  known : ∀ w ∈ p.running, w.1 < p.config.workerCount

/-- The numbers that are anywhere are those that have been given out. -/
theorem Tidy.mem_places_iff {p : Pool α} (tidy : p.Tidy) {ticket : Nat} :
    ticket ∈ p.places ↔ ticket < p.submitted := by
  rw [tidy.numbers.mem_iff, List.mem_range]

theorem tidy_ofConfig (config : PoolConfig) : (ofConfig config : Pool α).Tidy :=
  ⟨List.Perm.refl _, rfl, fun _ _ => Nat.zero_le _, List.nodup_nil, by simp [ofConfig]⟩

/-- The queue refuses a job exactly when it holds as many as it can. -/
theorem Tidy.isFull_iff {p : Pool α} (tidy : p.Tidy) :
    p.isFull = true ↔ p.config.queueLimit = some p.queued.length := by
  unfold isFull
  cases limit : p.config.queueLimit with
  | none => simp
  | some n =>
      have room := tidy.room n limit
      simp only [decide_eq_true_eq, Option.some.injEq]
      omega

/-! ## Submitting -/

theorem submit_of_full {p : Pool α} (full : p.isFull = true) (work : α) :
    p.submit work = { p with
      submitted := p.submitted + 1
      inFlight := p.inFlight + 1
      onCaller := p.onCaller ++ [p.jobOf work] } := by
  unfold submit
  rw [if_pos full]

theorem submit_of_room {p : Pool α} (room : p.isFull = false) (work : α) :
    p.submit work = { p with
      submitted := p.submitted + 1
      inFlight := p.inFlight + 1
      queued := p.queued ++ [p.jobOf work] } := by
  unfold submit
  rw [if_neg (by simp [room])]

theorem submitted_submit (p : Pool α) (work : α) : (p.submit work).submitted = p.submitted + 1 := by
  unfold submit
  dsimp only
  split <;> rfl

theorem finished_submit (p : Pool α) (work : α) : (p.submit work).finished = p.finished := by
  unfold submit
  dsimp only
  split <;> rfl

theorem config_submit (p : Pool α) (work : α) : (p.submit work).config = p.config := by
  unfold submit
  dsimp only
  split <;> rfl

theorem running_submit (p : Pool α) (work : α) : (p.submit work).running = p.running := by
  unfold submit
  dsimp only
  split <;> rfl

theorem onCaller_subset_submit (p : Pool α) (work : α) :
    p.onCaller ⊆ (p.submit work).onCaller := by
  cases full : p.isFull with
  | true =>
      rw [submit_of_full full]
      exact List.subset_append_left ..
  | false =>
      rw [submit_of_room full]
      exact fun _ => id

/-- A new job comes to one place. -/
theorem places_submit (p : Pool α) (work : α) :
    (p.submit work).places.Perm (p.places ++ [p.submitted]) := by
  cases full : p.isFull with
  | true =>
      rw [submit_of_full full]
      simp only [places, runningTickets, jobOf, List.map_append, List.map_cons, List.map_nil,
        List.append_assoc]
      refine List.Perm.append_left _ (List.Perm.append_left _ (List.Perm.append_left _ ?_))
      exact List.perm_append_comm
  | false =>
      rw [submit_of_room full]
      simp only [places, runningTickets, jobOf, List.map_append, List.map_cons, List.map_nil,
        List.append_assoc]
      refine List.Perm.append_left _ ?_
      have moved : ([p.submitted] ++ (p.running.map (·.2.ticket) ++ p.onCaller.map (·.ticket) ++
          p.finished)).Perm _ := List.perm_append_comm
      simpa only [List.append_assoc] using moved

theorem Tidy.submit {p : Pool α} (tidy : p.Tidy) (work : α) : (p.submit work).Tidy := by
  refine ⟨?_, ?_, ?_, ?_, ?_⟩
  · rw [submitted_submit, List.range_succ]
    exact (places_submit p work).trans (tidy.numbers.append_right _)
  · have count := tidy.inFlight
    cases full : p.isFull with
    | true =>
        rw [submit_of_full full]
        simp only [List.length_append, List.length_singleton]
        omega
    | false =>
        rw [submit_of_room full]
        simp only [List.length_append, List.length_singleton]
        omega
  · intro limit bounded
    rw [config_submit] at bounded
    have room := tidy.room limit bounded
    cases full : p.isFull with
    | true =>
        rw [submit_of_full full]
        exact room
    | false =>
        have free : ¬ p.config.queueLimit = some p.queued.length := by
          rw [← tidy.isFull_iff, full]
          exact Bool.false_ne_true
        have less : p.queued.length ≠ limit := fun same => free (same ▸ bounded)
        rw [submit_of_room full]
        simp only [List.length_append, List.length_singleton]
        omega
  · rw [running_submit]
    exact tidy.distinct
  · rw [running_submit, config_submit]
    exact tidy.known

/-! ## Taking a job off the queue -/

/-- What it takes for a worker to get a job, and what it gets. -/
theorem take_eq_some_iff {p p' : Pool α} {worker : Nat} {job : Job α} :
    p.take worker = some (job, p') ↔ ∃ rest, p.queued = job :: rest ∧
      worker < p.config.workerCount ∧ p.isBusy worker = false ∧
      p' = { p with queued := rest, running := p.running ++ [(worker, job)] } := by
  unfold take
  cases queued : p.queued with
  | nil => simp
  | cons first rest =>
      dsimp only
      split
      · rename_i free
        constructor
        · rintro ⟨⟩
          exact ⟨rest, rfl, free.1, free.2, rfl⟩
        · rintro ⟨rest', same, -, -, rfl⟩
          cases same
          rfl
      · rename_i busy
        constructor
        · rintro ⟨⟩
        · rintro ⟨rest', -, known, free, -⟩
          exact (busy ⟨known, free⟩).elim

/-- The first job goes from the queue to a worker. -/
theorem places_take {p p' : Pool α} {worker : Nat} {job : Job α}
    (taken : p.take worker = some (job, p')) : p'.places.Perm p.places := by
  obtain ⟨rest, queued, -, -, rfl⟩ := take_eq_some_iff.1 taken
  simp only [places, runningTickets, queued, List.map_append, List.map_cons, List.map_nil,
    List.append_assoc]
  have front : (rest.map (·.ticket) ++ (p.running.map (·.2.ticket) ++ [job.ticket])).Perm
      (job.ticket :: (rest.map (·.ticket) ++ p.running.map (·.2.ticket))) := by
    rw [← List.append_assoc]
    exact List.perm_append_comm
  simpa only [List.append_assoc, List.cons_append] using
    front.append_right (p.onCaller.map (·.ticket) ++ p.finished)

theorem isBusy_eq_false_iff {p : Pool α} {worker : Nat} :
    p.isBusy worker = false ↔ worker ∉ p.running.map (·.1) := by
  simp only [isBusy, List.any_eq_false, beq_iff_eq, List.mem_map, not_exists, not_and]

theorem Tidy.take {p p' : Pool α} {worker : Nat} {job : Job α} (tidy : p.Tidy)
    (taken : p.take worker = some (job, p')) : p'.Tidy := by
  have places := (places_take taken).trans tidy.numbers
  obtain ⟨rest, queued, known, free, rfl⟩ := take_eq_some_iff.1 taken
  refine ⟨places, ?_, ?_, ?_, ?_⟩
  · have count := tidy.inFlight
    rw [queued, List.length_cons] at count
    simp only [List.length_append, List.length_singleton]
    omega
  · intro limit bounded
    have room := tidy.room limit bounded
    rw [queued, List.length_cons] at room
    dsimp only
    omega
  · rw [List.map_append, List.nodup_append]
    refine ⟨tidy.distinct, List.nodup_singleton worker, ?_⟩
    intro other there new here same
    have one : new = worker := List.mem_singleton.1 here
    exact isBusy_eq_false_iff.1 free (one ▸ same ▸ there)
  · intro w member
    rcases List.mem_append.1 member with old | new
    · exact tidy.known w old
    · rw [List.mem_singleton.1 new]
      exact known

/-! ## Finishing a job -/

/-- A worker that runs a job is found with it. -/
theorem Tidy.find?_running {p : Pool α} {worker : Nat} {job : Job α} (tidy : p.Tidy)
    (running : (worker, job) ∈ p.running) :
    p.running.find? (·.1 == worker) = some (worker, job) := by
  have all := tidy.distinct
  generalize p.running = workers at running all
  induction workers with
  | nil => cases running
  | cons w rest ih =>
      rw [List.map_cons, List.nodup_cons] at all
      rcases List.mem_cons.1 running with rfl | later
      · exact List.find?_cons_of_pos (by simp)
      · have apart : w.1 ≠ worker := fun same => all.1 (same ▸ List.mem_map_of_mem later)
        rw [List.find?_cons_of_neg (by simpa using apart)]
        exact ih later all.2

theorem Tidy.finish_eq {p : Pool α} {worker : Nat} {job : Job α} (tidy : p.Tidy)
    (running : (worker, job) ∈ p.running) :
    p.finish worker = { p with
      running := p.running.filter (·.1 != worker)
      finished := p.finished ++ [job.ticket]
      inFlight := p.inFlight - 1 } := by
  unfold finish
  rw [tidy.find?_running running]

theorem Tidy.perm_running {p : Pool α} {worker : Nat} {job : Job α} (tidy : p.Tidy)
    (running : (worker, job) ∈ p.running) :
    p.running.Perm ((worker, job) :: p.running.filter (·.1 != worker)) :=
  perm_cons_filter_of_nodup tidy.distinct running

/-- A worker's job goes to the finished ones. -/
theorem Tidy.places_finish {p : Pool α} {worker : Nat} {job : Job α} (tidy : p.Tidy)
    (running : (worker, job) ∈ p.running) : (p.finish worker).places.Perm p.places := by
  have moved := (tidy.perm_running running).map (·.2.ticket)
  rw [tidy.finish_eq running]
  simp only [Pool.places, runningTickets, List.map_cons, List.append_assoc] at moved ⊢
  refine List.Perm.append_left _ ?_
  refine List.Perm.trans ?_ (moved.append_right _).symm
  rw [← List.append_assoc, ← List.append_assoc, List.cons_append]
  exact List.perm_append_comm.trans (by rw [List.append_assoc, List.singleton_append])

theorem Tidy.finish {p : Pool α} {worker : Nat} {job : Job α} (tidy : p.Tidy)
    (running : (worker, job) ∈ p.running) : (p.finish worker).Tidy := by
  have places := (tidy.places_finish running).trans tidy.numbers
  have size := (tidy.perm_running running).length_eq
  rw [tidy.finish_eq running] at places ⊢
  refine ⟨places, ?_, tidy.room, ?_, ?_⟩
  · have count := tidy.inFlight
    rw [List.length_cons] at size
    dsimp only
    omega
  · exact (List.filter_sublist.map _).nodup tidy.distinct
  · intro w member
    exact tidy.known w (List.mem_of_mem_filter member)

theorem Tidy.nodup_places {p : Pool α} (tidy : p.Tidy) : p.places.Nodup :=
  tidy.numbers.nodup_iff.2 List.nodup_range

theorem Tidy.nodup_onCaller {p : Pool α} (tidy : p.Tidy) : (p.onCaller.map (·.ticket)).Nodup := by
  have all := tidy.nodup_places
  unfold Pool.places at all
  exact (List.nodup_append.1 (List.nodup_append.1 all).1).2.1

theorem finishOnCaller_eq {p : Pool α} {job : Job α} (running : job ∈ p.onCaller) :
    p.finishOnCaller job.ticket = { p with
      onCaller := p.onCaller.filter (·.ticket != job.ticket)
      finished := p.finished ++ [job.ticket]
      inFlight := p.inFlight - 1 } := by
  unfold finishOnCaller
  rw [if_pos (List.any_eq_true.2 ⟨job, running, by simp⟩)]

theorem Tidy.perm_onCaller {p : Pool α} {job : Job α} (tidy : p.Tidy)
    (running : job ∈ p.onCaller) :
    p.onCaller.Perm (job :: p.onCaller.filter (·.ticket != job.ticket)) :=
  perm_cons_filter_of_nodup tidy.nodup_onCaller running

/-- A submitter's job goes to the finished ones. -/
theorem Tidy.places_finishOnCaller {p : Pool α} {job : Job α} (tidy : p.Tidy)
    (running : job ∈ p.onCaller) : (p.finishOnCaller job.ticket).places.Perm p.places := by
  have moved := (tidy.perm_onCaller running).map (·.ticket)
  rw [finishOnCaller_eq running]
  simp only [Pool.places, List.map_cons, List.append_assoc] at moved ⊢
  refine List.Perm.append_left _ (List.Perm.append_left _ ?_)
  refine List.Perm.trans ?_ (moved.append_right _).symm
  rw [← List.append_assoc, List.cons_append]
  exact List.perm_append_comm

theorem Tidy.finishOnCaller {p : Pool α} {job : Job α} (tidy : p.Tidy)
    (running : job ∈ p.onCaller) : (p.finishOnCaller job.ticket).Tidy := by
  have places := (tidy.places_finishOnCaller running).trans tidy.numbers
  have size := (tidy.perm_onCaller running).length_eq
  rw [finishOnCaller_eq running] at places ⊢
  refine ⟨places, ?_, tidy.room, tidy.distinct, tidy.known⟩
  have count := tidy.inFlight
  rw [List.length_cons] at size
  dsimp only
  omega

theorem onCaller_finish (p : Pool α) (worker : Nat) : (p.finish worker).onCaller = p.onCaller := by
  unfold finish
  split <;> rfl

theorem running_finishOnCaller (p : Pool α) (ticket : Nat) :
    (p.finishOnCaller ticket).running = p.running := by
  unfold finishOnCaller
  split <;> rfl

/-- Other workers keep their jobs. -/
theorem mem_running_finish {p : Pool α} {w : Nat × Job α} (running : w ∈ p.running) {worker : Nat}
    (apart : w.1 ≠ worker) : w ∈ (p.finish worker).running := by
  unfold finish
  split
  · exact running
  · exact List.mem_filter.2 ⟨running, by simpa using apart⟩

/-- Other submitters keep their jobs. -/
theorem mem_onCaller_finishOnCaller {p : Pool α} {job : Job α} (running : job ∈ p.onCaller)
    {ticket : Nat} (apart : job.ticket ≠ ticket) : job ∈ (p.finishOnCaller ticket).onCaller := by
  unfold finishOnCaller
  split
  · exact List.mem_filter.2 ⟨running, by simpa using apart⟩
  · exact running

/-! ## The count -/

/-- What is in flight is what has been submitted and has not finished. -/
theorem Tidy.inFlight_eq {p : Pool α} (tidy : p.Tidy) :
    p.inFlight = (List.range p.submitted).countP (· ∉ p.finished) := by
  have apart := (List.nodup_append.1 tidy.nodup_places).2.2
  have rest : ∀ ticket ∈ p.queued.map (·.ticket) ++ p.runningTickets ++ p.onCaller.map (·.ticket),
      decide (ticket ∉ p.finished) = true := by
    intro ticket member
    exact decide_eq_true fun finished => apart ticket member ticket finished rfl
  have none : p.finished.countP (fun ticket => decide (ticket ∉ p.finished)) = 0 := by
    rw [List.countP_eq_zero]
    intro ticket member
    simpa using member
  rw [← tidy.numbers.countP_eq, Pool.places, List.countP_append, none, List.countP_eq_length.2 rest,
    tidy.inFlight]
  simp only [runningTickets, List.length_append, List.length_map, Nat.add_zero]

/-- The count says that all is done exactly when it is. -/
theorem Tidy.isIdle_iff {p : Pool α} (tidy : p.Tidy) :
    p.isIdle = true ↔ ∀ ticket < p.submitted, ticket ∈ p.finished := by
  rw [isIdle, beq_iff_eq, tidy.inFlight_eq, List.countP_eq_zero]
  simp only [List.mem_range, decide_eq_true_eq, not_not]

theorem Tidy.count_places {p : Pool α} (tidy : p.Tidy) (ticket : Nat) :
    p.places.count ticket = if ticket < p.submitted then 1 else 0 := by
  split
  · rename_i below
    exact List.count_eq_one_of_mem tidy.nodup_places (tidy.mem_places_iff.2 below)
  · rename_i beyond
    exact List.count_eq_zero_of_not_mem fun there => beyond (tidy.mem_places_iff.1 there)

/-- No more workers run jobs than there are. -/
theorem Tidy.running_le {p : Pool α} (tidy : p.Tidy) :
    p.running.length ≤ p.config.workerCount := by
  have within : p.running.map (·.1) ⊆ List.range p.config.workerCount := by
    intro worker member
    obtain ⟨w, there, rfl⟩ := List.mem_map.1 member
    exact List.mem_range.2 (tidy.known w there)
  have size := (tidy.distinct.subperm within).length_le
  rwa [List.length_map, List.length_range] at size

/-- A worker whose job has ended can take the next one. -/
theorem Tidy.take_finish {p : Pool α} {worker : Nat} {job next : Job α} {rest : List (Job α)}
    (tidy : p.Tidy) (running : (worker, job) ∈ p.running) (queued : p.queued = next :: rest) :
    ∃ p', (p.finish worker).take worker = some (next, p') := by
  rw [tidy.finish_eq running]
  refine ⟨_, take_eq_some_iff.2 ⟨rest, queued, tidy.known _ running, ?_, rfl⟩⟩
  rw [isBusy_eq_false_iff]
  intro busy
  obtain ⟨w, kept, same⟩ := List.mem_map.1 busy
  have other := (List.mem_filter.1 kept).2
  simp [same] at other

/-! ## What is not finished -/

/-- What there is to do that has not finished, place by place. -/
def unfinished (p : Pool α) : List α :=
  p.queued.map (·.work) ++ p.running.map (·.2.work) ++ p.onCaller.map (·.work)

theorem unfinished_submit (p : Pool α) (work : α) :
    (p.submit work).unfinished.Perm (work :: p.unfinished) := by
  cases full : p.isFull with
  | true =>
      rw [submit_of_full full]
      simp only [unfinished, jobOf, List.map_append, List.map_cons, List.map_nil,
        ← List.append_assoc]
      exact List.perm_append_singleton ..
  | false =>
      rw [submit_of_room full]
      simp only [unfinished, jobOf, List.map_append, List.map_cons, List.map_nil]
      exact ((List.perm_append_singleton ..).append_right _).append_right _

theorem unfinished_take {p p' : Pool α} {worker : Nat} {job : Job α}
    (taken : p.take worker = some (job, p')) : p'.unfinished.Perm p.unfinished := by
  obtain ⟨rest, queued, -, -, rfl⟩ := take_eq_some_iff.1 taken
  simp only [unfinished, queued, List.map_append, List.map_cons, List.map_nil, ← List.append_assoc]
  exact (List.perm_append_singleton ..).append_right _

theorem Tidy.unfinished_finish {p : Pool α} {worker : Nat} {job : Job α} (tidy : p.Tidy)
    (running : (worker, job) ∈ p.running) :
    p.unfinished.Perm (job.work :: (p.finish worker).unfinished) := by
  have moved := (tidy.perm_running running).map (·.2.work)
  rw [tidy.finish_eq running]
  exact ((moved.append_left _).trans List.perm_middle).append_right _

theorem Tidy.unfinished_finishOnCaller {p : Pool α} {job : Job α} (tidy : p.Tidy)
    (running : job ∈ p.onCaller) :
    p.unfinished.Perm (job.work :: (p.finishOnCaller job.ticket).unfinished) := by
  have moved := (tidy.perm_onCaller running).map (·.work)
  rw [finishOnCaller_eq running]
  exact (moved.append_left _).trans List.perm_middle

/-- Nothing is left of an idle pool's work. -/
theorem Tidy.eq_nil_of_isIdle {p : Pool α} (tidy : p.Tidy) (idle : p.isIdle = true) :
    p.queued = [] ∧ p.running = [] ∧ p.onCaller = [] := by
  have count := tidy.inFlight
  rw [beq_iff_eq.1 idle] at count
  exact ⟨List.eq_nil_of_length_eq_zero (by omega), List.eq_nil_of_length_eq_zero (by omega),
    List.eq_nil_of_length_eq_zero (by omega)⟩

/-- The queue may be put in another order. -/
theorem Tidy.reorder {p : Pool α} (tidy : p.Tidy) {queue : List (Job α)}
    (same : queue.Perm p.queued) : ({ p with queued := queue } : Pool α).Tidy := by
  refine ⟨?_, ?_, ?_, tidy.distinct, tidy.known⟩
  · have places := (((same.map (·.ticket)).append_right p.runningTickets).append_right
      (p.onCaller.map (·.ticket))).append_right p.finished
    exact places.trans tidy.numbers
  · dsimp only
    rw [same.length_eq]
    exact tidy.inFlight
  · intro limit bounded
    dsimp only
    rw [same.length_eq]
    exact tidy.room limit bounded

end Pool

end ApprovalFlow
