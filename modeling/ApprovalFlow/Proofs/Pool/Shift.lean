import ApprovalFlow.Proofs.Pool.Places
import ApprovalFlow.Pool.Turns
import Mathlib.Logic.Relation

/-!
# A pool in use

Any number of callers submit jobs, workers take them off the queue, jobs end, and others wait until
all is done, in any order. `Shift` is a pool and what has happened on it so far; `Shift.Step` is
one thing more. A call of `submit` whose job the queue has refused runs the job itself, and returns
only when it has ended. A job may end by a panic, which the pool catches. The queue is never closed
while the pool is in use, since its workers hold the receiving end and none of them stops before.

* `Shift.Reachable.accounted`: no job is lost, run twice, or miscounted.
* `Turns.Driven.used`: workers that take turns are one such use.
-/

namespace ApprovalFlow

/-- How a job ends. -/
inductive Ending where
  | returns
  | panics
  deriving DecidableEq

/-- A pool, and what has happened on it, each in order. -/
structure Shift (α : Type) where
  pool : Pool α
  /-- What was submitted. -/
  works : List α
  /-- The jobs that workers have taken off the queue. -/
  taken : List Nat
  /-- The jobs that the queue refused, which their submitters started there and then. -/
  refused : List Nat
  /-- The jobs that have ended, and how. -/
  ended : List (Nat × Ending)
  /-- The jobs whose submission has returned. -/
  returned : List Nat
  /-- For every wait for all jobs that has returned, the number of jobs submitted by then. -/
  waited : List Nat

namespace Shift

variable {α : Type}

/-- A pool that has not been used. -/
def new (config : PoolConfig) : Shift α :=
  ⟨.ofConfig config, [], [], [], [], [], []⟩

/-- Somebody submits a job. -/
def submit (s : Shift α) (work : α) : Shift α :=
  { s with
    pool := s.pool.submit work
    works := s.works ++ [work]
    refused := if s.pool.isFull then s.refused ++ [s.works.length] else s.refused }

/-- One thing that happens on a pool. -/
inductive Step : Shift α → Shift α → Prop
  | submit {s : Shift α} (work : α) : Step s (s.submit work)
  | take {s : Shift α} {worker : Nat} {job : Job α} {p : Pool α} :
    s.pool.take worker = some (job, p) →
    Step s { s with pool := p, taken := s.taken ++ [job.ticket] }
  | finish {s : Shift α} {worker : Nat} {job : Job α} (ending : Ending) :
    (worker, job) ∈ s.pool.running →
    Step s { s with
      pool := s.pool.finish worker
      ended := s.ended ++ [(job.ticket, ending)] }
  | finishOnCaller {s : Shift α} {job : Job α} (ending : Ending) : job ∈ s.pool.onCaller →
    Step s { s with
      pool := s.pool.finishOnCaller job.ticket
      ended := s.ended ++ [(job.ticket, ending)] }
  | returns {s : Shift α} {ticket : Nat} : ticket < s.works.length →
    (∀ job ∈ s.pool.onCaller, job.ticket ≠ ticket) →
    Step s { s with returned := s.returned ++ [ticket] }
  | wait {s : Shift α} : s.pool.isIdle = true →
    Step s { s with waited := s.waited ++ [s.works.length] }

/-- What can come of a new pool. -/
abbrev Reachable (config : PoolConfig) (s : Shift α) : Prop :=
  Relation.ReflTransGen Step (new config) s

/-- The invariant that carries the account: the pool is tidy, and what has happened fits what it
holds. -/
structure Sound (config : PoolConfig) (s : Shift α) : Prop where
  config : s.pool.config = config
  tidy : s.pool.Tidy
  works : s.works.length = s.pool.submitted
  own : ∀ job ∈ s.pool.queued ++ s.pool.running.map (·.2) ++ s.pool.onCaller,
    s.works[job.ticket]? = some job.work
  starts : (s.taken ++ s.pool.queued.map (·.ticket) ++ s.refused).Perm
    (List.range s.pool.submitted)
  order : (s.taken ++ s.pool.queued.map (·.ticket)).Pairwise (· < ·)
  worked : ∀ w ∈ s.pool.running, w.2.ticket ∈ s.taken
  onCaller : ∀ job ∈ s.pool.onCaller, job.ticket ∈ s.refused
  ended : s.ended.map (·.1) = s.pool.finished
  returned : ∀ ticket ∈ s.returned, ticket < s.pool.submitted ∧
    ∀ job ∈ s.pool.onCaller, job.ticket ≠ ticket
  waited : ∀ n ∈ s.waited, ∀ ticket < n, ticket ∈ s.pool.finished

variable {config : PoolConfig} {s s' : Shift α}

theorem sound_new (config : PoolConfig) : (new config : Shift α).Sound config where
  config := rfl
  tidy := Pool.tidy_ofConfig config
  works := rfl
  own := by simp [new, Pool.ofConfig]
  starts := List.Perm.refl _
  order := List.Pairwise.nil
  worked := by simp [new, Pool.ofConfig]
  onCaller := by simp [new, Pool.ofConfig]
  ended := rfl
  returned := by simp [new]
  waited := by simp [new]

/-! ## What each step keeps -/

theorem Sound.started_iff (sound : s.Sound config) {ticket : Nat} :
    ticket ∈ s.taken ++ s.pool.queued.map (·.ticket) ++ s.refused ↔ ticket < s.pool.submitted := by
  rw [sound.starts.mem_iff, List.mem_range]

theorem Sound.submit (sound : s.Sound config) (work : α) : (s.submit work).Sound config := by
  have own : ∀ job ∈ s.pool.queued ++ s.pool.running.map (·.2) ++ s.pool.onCaller,
      (s.works ++ [work])[job.ticket]? = some job.work := by
    intro job member
    have there := sound.own job member
    have below : job.ticket < s.works.length := (List.getElem?_eq_some_iff.1 there).1
    rw [List.getElem?_append_left below]
    exact there
  have new : (s.works ++ [work])[(s.pool.jobOf work).ticket]? = some (s.pool.jobOf work).work := by
    have last : (s.pool.jobOf work).ticket = s.works.length := sound.works.symm
    rw [last, List.getElem?_concat_length]
    rfl
  have returned : ∀ ticket ∈ s.returned, ticket < s.pool.submitted + 1 ∧
      ∀ job ∈ s.pool.onCaller, job.ticket ≠ ticket := by
    intro ticket member
    obtain ⟨below, apart⟩ := sound.returned ticket member
    exact ⟨Nat.lt_succ_of_lt below, apart⟩
  have works : (s.works ++ [work]).length = s.pool.submitted + 1 := by
    rw [List.length_append, List.length_singleton, sound.works]
  have tidy := sound.tidy.submit work
  cases full : s.pool.isFull with
  | true =>
      unfold Shift.submit
      rw [full, if_pos rfl, sound.works]
      rw [Pool.submit_of_full full] at tidy ⊢
      refine ⟨sound.config, tidy, works, ?_, ?_, sound.order, sound.worked, ?_, sound.ended, ?_,
        sound.waited⟩
      · intro job member
        rw [← List.append_assoc] at member
        rcases List.mem_append.1 member with old | last
        · exact own job old
        · rw [List.mem_singleton.1 last]
          exact new
      · dsimp only
        rw [← List.append_assoc, List.range_succ]
        exact sound.starts.append_right _
      · intro job member
        rcases List.mem_append.1 member with old | last
        · exact List.mem_append_left _ (sound.onCaller job old)
        · rw [List.mem_singleton.1 last]
          exact List.mem_append_right _ (List.mem_singleton.2 rfl)
      · intro ticket member
        obtain ⟨below, apart⟩ := returned ticket member
        refine ⟨below, ?_⟩
        intro job there
        rcases List.mem_append.1 there with old | last
        · exact apart job old
        · rw [List.mem_singleton.1 last]
          exact Nat.ne_of_gt (sound.returned ticket member).1
  | false =>
      unfold Shift.submit
      rw [full, if_neg Bool.false_ne_true]
      rw [Pool.submit_of_room full] at tidy ⊢
      refine ⟨sound.config, tidy, works, ?_, ?_, ?_, sound.worked, sound.onCaller, sound.ended,
        returned, sound.waited⟩
      · intro job member
        simp only [List.mem_append, List.mem_singleton] at member own
        rcases member with ((queued | rfl) | running) | held
        · exact own job (Or.inl (Or.inl queued))
        · exact new
        · exact own job (Or.inl (Or.inr running))
        · exact own job (Or.inr held)
      · have moved : (s.taken ++ (s.pool.queued.map (·.ticket) ++ [s.pool.submitted]) ++
            s.refused).Perm
            (s.taken ++ s.pool.queued.map (·.ticket) ++ s.refused ++ [s.pool.submitted]) := by
          simp only [List.append_assoc]
          exact (List.perm_append_comm.append_left _).append_left _
        dsimp only
        rw [List.map_append, List.range_succ]
        exact moved.trans (sound.starts.append_right _)
      · dsimp only
        rw [List.map_append, ← List.append_assoc, List.pairwise_append]
        refine ⟨sound.order, List.pairwise_singleton .., ?_⟩
        intro ticket there last here
        have one : last = s.pool.submitted := List.mem_singleton.1 here
        rw [one]
        exact sound.started_iff.1 (List.mem_append_left _ there)

theorem Sound.take {worker : Nat} {job : Job α} {p : Pool α} (sound : s.Sound config)
    (taken : s.pool.take worker = some (job, p)) :
    ({ s with pool := p, taken := s.taken ++ [job.ticket] } : Shift α).Sound config := by
  have tidy := sound.tidy.take taken
  obtain ⟨rest, queued, -, -, rfl⟩ := Pool.take_eq_some_iff.1 taken
  have own := sound.own
  have starts := sound.starts
  have order := sound.order
  rw [queued] at own
  rw [queued, List.map_cons] at starts order
  refine ⟨sound.config, tidy, sound.works, ?_, ?_, ?_, ?_, sound.onCaller, sound.ended,
    sound.returned, sound.waited⟩
  · intro other member
    apply own other
    simp only [List.map_append, List.map_cons, List.map_nil, List.mem_append, List.mem_cons]
      at member ⊢
    tauto
  · dsimp only
    rw [List.append_assoc s.taken, List.singleton_append]
    exact starts
  · dsimp only
    rw [List.append_assoc, List.singleton_append]
    exact order
  · intro w member
    rcases List.mem_append.1 member with old | new
    · exact List.mem_append_left _ (sound.worked w old)
    · rw [List.mem_singleton.1 new]
      exact List.mem_append_right _ (List.mem_singleton.2 rfl)

theorem Sound.finish {worker : Nat} {job : Job α} (sound : s.Sound config) (ending : Ending)
    (running : (worker, job) ∈ s.pool.running) :
    ({ s with
      pool := s.pool.finish worker
      ended := s.ended ++ [(job.ticket, ending)] } : Shift α).Sound config := by
  have tidy := sound.tidy.finish running
  rw [sound.tidy.finish_eq running] at tidy ⊢
  refine ⟨sound.config, tidy, sound.works, ?_, sound.starts, sound.order, ?_, sound.onCaller, ?_,
    sound.returned, ?_⟩
  · intro other member
    apply sound.own other
    simp only [List.mem_append, List.mem_map] at member ⊢
    rcases member with (queued | ⟨w, kept, rfl⟩) | held
    · exact Or.inl (Or.inl queued)
    · exact Or.inl (Or.inr ⟨w, List.mem_of_mem_filter kept, rfl⟩)
    · exact Or.inr held
  · intro w member
    exact sound.worked w (List.mem_of_mem_filter member)
  · dsimp only
    rw [List.map_append, sound.ended]
    rfl
  · intro n member ticket below
    exact List.mem_append_left _ (sound.waited n member ticket below)

theorem Sound.finishOnCaller {job : Job α} (sound : s.Sound config) (ending : Ending)
    (running : job ∈ s.pool.onCaller) :
    ({ s with
      pool := s.pool.finishOnCaller job.ticket
      ended := s.ended ++ [(job.ticket, ending)] } : Shift α).Sound config := by
  have tidy := sound.tidy.finishOnCaller running
  rw [Pool.finishOnCaller_eq running] at tidy ⊢
  refine ⟨sound.config, tidy, sound.works, ?_, sound.starts, sound.order, sound.worked, ?_, ?_, ?_,
    ?_⟩
  · intro other member
    apply sound.own other
    simp only [List.mem_append] at member ⊢
    exact member.imp_right List.mem_of_mem_filter
  · intro other member
    exact sound.onCaller other (List.mem_of_mem_filter member)
  · dsimp only
    rw [List.map_append, sound.ended]
    rfl
  · intro ticket member
    obtain ⟨below, apart⟩ := sound.returned ticket member
    exact ⟨below, fun other there => apart other (List.mem_of_mem_filter there)⟩
  · intro n member ticket below
    exact List.mem_append_left _ (sound.waited n member ticket below)

theorem Sound.step (sound : s.Sound config) (step : Step s s') : s'.Sound config := by
  cases step with
  | submit work => exact sound.submit work
  | take taken => exact sound.take taken
  | finish ending running => exact sound.finish ending running
  | finishOnCaller ending running => exact sound.finishOnCaller ending running
  | @returns ticket below apart =>
      refine { sound with returned := ?_ }
      intro other member
      rcases List.mem_append.1 member with old | new
      · exact sound.returned other old
      · rw [List.mem_singleton.1 new, ← sound.works]
        exact ⟨below, apart⟩
  | wait idle =>
      refine { sound with waited := ?_ }
      intro n member
      rcases List.mem_append.1 member with old | new
      · exact sound.waited n old
      · rw [List.mem_singleton.1 new, sound.works]
        exact sound.tidy.isIdle_iff.1 idle

theorem Reachable.sound (reachable : Reachable config s) : s.Sound config := by
  induction reachable with
  | refl => exact sound_new config
  | tail _ step ih => exact ih.step step

/-! ## The account -/

/-- That a pool neither loses nor repeats work, in terms of what has happened on it. A job goes by
its place among the submissions, so nothing here rests on the count that the pool keeps of them. -/
structure Accounted (config : PoolConfig) (s : Shift α) : Prop where
  /-- Every submission is counted, -/
  works : s.works.length = s.pool.submitted
  /-- and its job is in one place: queued, with a worker, with its submitter, or finished. -/
  onePlace : ∀ ticket, s.pool.places.count ticket = if ticket < s.works.length then 1 else 0
  /-- A job is what was submitted under its number. -/
  own : ∀ job ∈ s.pool.queued ++ s.pool.running.map (·.2) ++ s.pool.onCaller,
    s.works[job.ticket]? = some job.work
  /-- A job starts once at most: -/
  startsOnce : (s.taken ++ s.refused).Nodup
  /-- it has started unless it is queued. -/
  started : ∀ ticket, ticket ∈ s.taken ++ s.refused ↔
    ticket < s.works.length ∧ ticket ∉ s.pool.queued.map (·.ticket)
  /-- However a job ends, it counts as finished, -/
  ended : s.ended.map (·.1) = s.pool.finished
  /-- and its worker can take the next one. -/
  goesOn : ∀ worker job, (worker, job) ∈ s.pool.running →
    ∀ next rest, s.pool.queued = next :: rest →
      ∃ p, (s.pool.finish worker).take worker = some (next, p)
  /-- The number in flight is that of the jobs submitted and not finished. -/
  inFlight : s.pool.inFlight = (List.range s.works.length).countP (· ∉ s.pool.finished)
  /-- A job that ends was counted. -/
  counted : s.pool.running ≠ [] ∨ s.pool.onCaller ≠ [] → 0 < s.pool.inFlight
  queue_le : ∀ capacity, config.capacity = some capacity →
    s.pool.queued.length ≤ max capacity 1
  workers_le : s.pool.running.length ≤ max config.workers 1
  /-- The queue refuses a job exactly when it is full, -/
  refuses : s.pool.isFull = true ↔
    ∃ capacity, config.capacity = some capacity ∧ s.pool.queued.length = max capacity 1
  /-- and only such jobs are with their submitters. -/
  onCaller : ∀ job ∈ s.pool.onCaller, job.ticket ∈ s.refused
  /-- The submission of a refused job has returned only if the job has finished. -/
  returned : ∀ ticket ∈ s.returned, ticket ∈ s.refused → ticket ∈ s.pool.finished
  /-- Queued jobs start in the order in which they were submitted. -/
  inOrder : (s.taken ++ s.pool.queued.map (·.ticket)).Pairwise (· < ·)
  /-- A wait for all jobs can return exactly when all that have been submitted have finished, -/
  idle : s.pool.isIdle = true ↔ ∀ ticket < s.works.length, ticket ∈ s.pool.finished
  /-- and has returned only then. -/
  waited : ∀ n ∈ s.waited, ∀ ticket < n, ticket ∈ s.pool.finished

/-- A job that its submitter has started is with it or has finished. -/
theorem Sound.finished_of_refused {ticket : Nat} (sound : s.Sound config)
    (refused : ticket ∈ s.refused) (past : ∀ job ∈ s.pool.onCaller, job.ticket ≠ ticket) :
    ticket ∈ s.pool.finished := by
  have once := sound.starts.nodup_iff.2 List.nodup_range
  have apart := (List.nodup_append.1 once).2.2
  have below := sound.started_iff.1 (List.mem_append_right _ refused)
  have somewhere := sound.tidy.mem_places_iff.2 below
  simp only [Pool.places, List.mem_append] at somewhere
  rcases somewhere with ((queued | running) | held) | finished
  · exact (apart ticket (List.mem_append_right _ queued) ticket refused rfl).elim
  · obtain ⟨w, member, rfl⟩ := List.mem_map.1 running
    exact (apart _ (List.mem_append_left _ (sound.worked w member)) _ refused rfl).elim
  · obtain ⟨job, member, rfl⟩ := List.mem_map.1 held
    exact (past job member rfl).elim
  · exact finished

theorem Sound.started (sound : s.Sound config) (ticket : Nat) :
    ticket ∈ s.taken ++ s.refused ↔
      ticket < s.pool.submitted ∧ ticket ∉ s.pool.queued.map (·.ticket) := by
  have once := sound.starts.nodup_iff.2 List.nodup_range
  obtain ⟨front, -, apart⟩ := List.nodup_append.1 once
  have early := (List.nodup_append.1 front).2.2
  rw [← sound.started_iff]
  simp only [List.mem_append]
  constructor
  · rintro (taken | refused)
    · exact ⟨Or.inl (Or.inl taken), fun queued => early ticket taken ticket queued rfl⟩
    · exact ⟨Or.inr refused, fun queued =>
        apart ticket (List.mem_append_right _ queued) ticket refused rfl⟩
  · rintro ⟨(taken | queued) | refused, free⟩
    · exact Or.inl taken
    · exact (free queued).elim
    · exact Or.inr refused

theorem Sound.starts_once (sound : s.Sound config) : (s.taken ++ s.refused).Nodup := by
  have once := sound.starts.nodup_iff.2 List.nodup_range
  refine List.Sublist.nodup ?_ once
  exact (List.sublist_append_left _ _).append_right _

/-- Whatever is submitted, in whatever order jobs are taken and end, and however they end, a pool
neither loses nor repeats work. -/
theorem Reachable.accounted (reachable : Reachable config s) : s.Accounted config := by
  have sound := reachable.sound
  have tidy := sound.tidy
  have limit : s.pool.config.queueLimit = config.capacity.map (max · 1) := by
    rw [sound.config]
    rfl
  exact {
    works := sound.works
    onePlace := by
      rw [sound.works]
      exact tidy.count_places
    own := sound.own
    startsOnce := sound.starts_once
    started := by
      rw [sound.works]
      exact sound.started
    ended := sound.ended
    goesOn := fun _ _ running _ _ queued => tidy.take_finish running queued
    inFlight := by
      rw [sound.works]
      exact tidy.inFlight_eq
    counted := by
      intro busy
      have count := tidy.inFlight
      rcases busy with running | held
      · have some := List.length_pos_iff.2 running
        omega
      · have some := List.length_pos_iff.2 held
        omega
    queue_le := by
      intro capacity bounded
      exact tidy.room _ (by rw [limit, bounded, Option.map_some])
    workers_le := by
      have known := tidy.running_le
      rw [sound.config] at known
      exact known
    refuses := by
      rw [tidy.isFull_iff, limit, Option.map_eq_some_iff]
      exact exists_congr fun capacity => and_congr_right fun _ => eq_comm
    onCaller := sound.onCaller
    returned := by
      intro ticket member refused
      exact sound.finished_of_refused refused (sound.returned ticket member).2
    inOrder := sound.order
    idle := by
      rw [sound.works]
      exact tidy.isIdle_iff
    waited := sound.waited }

/-! ## A crowded pool -/

/-- One worker and room for one job: the worker's job has panicked and the worker has taken the next
one, while a submitter runs the third, which the queue has refused. -/
def crowded : Shift String where
  pool := ⟨⟨"errands", 1, some 1⟩, 3, [], [(0, ⟨1, "second"⟩)], [⟨2, "third"⟩], [0], 2⟩
  works := ["first", "second", "third"]
  taken := [0, 1]
  refused := [2]
  ended := [(0, .panics)]
  returned := [0, 1]
  waited := [0]

theorem reachable_crowded : Reachable ⟨"errands", 1, some 1⟩ crowded := by
  have submitted : Reachable ⟨"errands", 1, some 1⟩ (⟨⟨⟨"errands", 1, some 1⟩, 1,
      [⟨0, "first"⟩], [], [], [], 1⟩,
      ["first"], [], [], [], [0], [0]⟩ : Shift String) :=
    Relation.ReflTransGen.refl
      |>.tail (.wait rfl)
      |>.tail (.submit "first")
      |>.tail (@Step.returns _ _ 0 (by decide) (by decide))
  have taken : Reachable ⟨"errands", 1, some 1⟩ (⟨⟨⟨"errands", 1, some 1⟩, 1,
      [], [(0, ⟨0, "first"⟩)], [], [], 1⟩,
      ["first"], [0], [], [], [0], [0]⟩ : Shift String) :=
    submitted.tail (@Step.take _ _ 0 ⟨0, "first"⟩ _ rfl)
  have full : Reachable ⟨"errands", 1, some 1⟩ (⟨⟨⟨"errands", 1, some 1⟩, 3,
      [⟨1, "second"⟩], [(0, ⟨0, "first"⟩)], [⟨2, "third"⟩], [], 3⟩,
      ["first", "second", "third"], [0], [2], [], [0, 1], [0]⟩ : Shift String) :=
    taken.tail (.submit "second")
      |>.tail (@Step.returns _ _ 1 (by decide) (by decide))
      |>.tail (.submit "third")
  have panicked : Reachable ⟨"errands", 1, some 1⟩ (⟨⟨⟨"errands", 1, some 1⟩, 3,
      [⟨1, "second"⟩], [], [⟨2, "third"⟩], [0], 2⟩,
      ["first", "second", "third"], [0], [2], [(0, .panics)], [0, 1], [0]⟩ : Shift String) :=
    full.tail (@Step.finish _ _ 0 ⟨0, "first"⟩ .panics (List.mem_singleton.2 rfl))
  exact panicked.tail (@Step.take _ _ 0 ⟨1, "second"⟩ _ rfl)

theorem crowded_accounted : Reachable ⟨"errands", 1, some 1⟩ crowded ∧
    crowded.Accounted ⟨"errands", 1, some 1⟩ :=
  ⟨reachable_crowded, reachable_crowded.accounted⟩

end Shift

/-! ## Workers that take turns -/

namespace Pool

variable {α : Type} {config : PoolConfig} {p : Pool α}

/-- A pool as some use of it has left it. -/
def Used (config : PoolConfig) (p : Pool α) : Prop :=
  ∃ s : Shift α, Shift.Reachable config s ∧ s.pool = p

theorem used_ofConfig (config : PoolConfig) : (ofConfig config : Pool α).Used config :=
  ⟨.new config, Relation.ReflTransGen.refl, rfl⟩

theorem Used.submit (used : p.Used config) (work : α) : (p.submit work).Used config := by
  obtain ⟨s, reachable, rfl⟩ := used
  exact ⟨_, reachable.tail (.submit work), rfl⟩

theorem Used.take {p' : Pool α} {worker : Nat} {job : Job α} (used : p.Used config)
    (taken : p.take worker = some (job, p')) : p'.Used config := by
  obtain ⟨s, reachable, rfl⟩ := used
  exact ⟨_, reachable.tail (.take taken), rfl⟩

theorem Used.finish (used : p.Used config) (worker : Nat) : (p.finish worker).Used config := by
  cases found : p.running.find? (·.1 == worker) with
  | none =>
      have same : p.finish worker = p := by simp only [Pool.finish, found]
      rw [same]
      exact used
  | some w =>
      obtain ⟨s, reachable, rfl⟩ := used
      have same : w.1 = worker := by simpa using List.find?_some found
      have running : (worker, w.2) ∈ s.pool.running := same ▸ List.mem_of_find?_eq_some found
      exact ⟨_, reachable.tail (.finish .returns running), rfl⟩

theorem Used.finishOnCaller (used : p.Used config) (ticket : Nat) :
    (p.finishOnCaller ticket).Used config := by
  cases held : p.onCaller.any (·.ticket == ticket) with
  | false =>
      have same : p.finishOnCaller ticket = p := by
        unfold Pool.finishOnCaller
        rw [held, if_neg Bool.false_ne_true]
      rw [same]
      exact used
  | true =>
      obtain ⟨s, reachable, rfl⟩ := used
      obtain ⟨job, member, same⟩ := List.any_eq_true.1 held
      rw [← beq_iff_eq.1 same]
      exact ⟨_, reachable.tail (.finishOnCaller .returns member), rfl⟩

end Pool

namespace Turns

variable {config : PoolConfig} {t : Turns}

theorem pool_noteEnd (t : Turns) (e : Errand) : (t.noteEnd e).pool = t.pool := by
  unfold noteEnd
  split <;> rfl

theorem pool_passToken (t : Turns) : t.passToken.pool = t.pool := by
  unfold passToken
  split <;> rfl

theorem used_submit (used : t.pool.Used config) (e : Errand) :
    (t.submit e).pool.Used config := by
  have counted := used.submit e
  unfold submit
  dsimp only
  split
  · rw [pool_noteEnd]
    exact counted.finishOnCaller _
  · exact counted

theorem used_finish (used : t.pool.Used config) (worker : Nat) (e : Errand) :
    (t.finish worker e).pool.Used config := by
  unfold finish
  dsimp only
  rw [pool_noteEnd]
  exact used.finish worker

theorem used_serve (worker fuel : Nat) (used : t.pool.Used config) :
    (serve worker fuel t).pool.Used config := by
  induction fuel generalizing t with
  | zero => exact used
  | succ fuel ih =>
      unfold serve
      cases taken : t.pool.take worker with
      | none => exact used
      | some next =>
          obtain ⟨job, p⟩ := next
          have begun : (({ t with pool := p }.passToken).noteStart job.work).pool.Used config := by
            refine Eq.subst (motive := fun q : Pool Errand => q.Used config) ?_ (used.take taken)
            exact (pool_passToken { t with pool := p }).symm
          dsimp only
          generalize ({ t with pool := p }.passToken).noteStart job.work = now at begun
          have done := used_finish begun worker job.work
          split
          · exact begun
          · split
            · exact done
            · exact ih done

theorem used_seek (used : t.pool.Used config) (worker : Nat) :
    (seek worker t).pool.Used config := by
  unfold seek
  split
  · exact used
  · exact used_serve worker _ used

theorem used_turn (used : t.pool.Used config) : t.turn.pool.Used config := by
  unfold turn
  split
  · exact used
  · rename_i worker hasToken rest _
    have called : ({ t with ready := rest } : Turns).pool.Used config := used
    dsimp only
    split
    · exact used_serve _ _ called
    · split
      · exact used_seek (used_finish called _ _) _
      · exact used_seek called _

theorem used_takeTurns (fuel : Nat) (used : t.pool.Used config) :
    (takeTurns fuel t).pool.Used config := by
  induction fuel generalizing t with
  | zero => exact used
  | succ fuel ih =>
      unfold takeTurns
      split
      · exact used
      · exact ih (used_turn used)

/-- What can be asked of workers that take turns. -/
inductive Driven (config : PoolConfig) : Turns → Prop
  | new : Driven config (.ofConfig config)
  | submit {t : Turns} (e : Errand) : Driven config t → Driven config (t.submit e)
  | openGate {t : Turns} (gate : String) : Driven config t → Driven config (t.openGate gate)
  | settle {t : Turns} : Driven config t → Driven config t.settle

/-- Workers that take turns are one way to use a pool. -/
theorem Driven.used (driven : Driven config t) : t.pool.Used config := by
  induction driven with
  | new => exact Pool.used_ofConfig config
  | submit e _ ih => exact used_submit ih e
  | openGate gate _ ih => exact ih
  | settle _ ih => exact used_takeTurns _ ih

end Turns

end ApprovalFlow
