import Mathlib.Data.List.Forall2
import Mathlib.Tactic.Common
import Marginalia.Context.FanOut

/-!
# The course of a fan-out

From the jobs alone it can be told how far their tasks are at a moment, and so what each point of a
fan-out looks like.  `Course` says it for every phase: what has happened until then, that there
still is time, and that nothing failed before.  No step leaves the course.
-/

namespace Marginalia

variable {Call Result : Type}

/-! ## Tasks at a moment -/

/-- Whether work goes on beyond a moment, unless it is cancelled. -/
def Work.outlasts (moment : Nat) (work : Work Call Failure Result) : Bool :=
  work.outcome.hangs || moment < work.millis

namespace Job

variable {job : Job Call Result} {clock moment : Nat}

@[simp]
theorem work_taskAt : (job.taskAt moment).work = job.work := rfl

@[simp]
theorem isWaiting_taskAt : (job.taskAt moment).isWaiting = job.work.outlasts moment := by
  simp only [Task.isWaiting, taskAt, Work.stageAt, Work.outlasts]
  by_cases early : moment < job.work.millis <;> cases job.work.outcome <;>
    simp [early, Outcome.hangs]

theorem failure?_taskAt_eq_some_iff {failure : Failure} :
    (job.taskAt moment).failure? = some failure ↔
      job.work.outcome = .failed failure ∧ job.work.millis ≤ moment := by
  simp only [Task.failure?, taskAt, Work.stageAt]
  by_cases early : moment < job.work.millis
  · cases job.work.outcome <;> simp [early]
  · have late : job.work.millis ≤ moment := by omega
    cases job.work.outcome <;> simp [early, late]

theorem result?_taskAt_eq_some_iff {result : Result} :
    (job.taskAt moment).result? = some result ↔
      job.work.outcome = .returned result ∧ job.work.millis ≤ moment := by
  simp only [Task.result?, taskAt, Work.stageAt]
  by_cases early : moment < job.work.millis
  · cases job.work.outcome <;> simp [early]
  · have late : job.work.millis ≤ moment := by omega
    cases job.work.outcome <;> simp [early, late]

theorem end?_taskAt_eq_some_iff {next : Nat} :
    (job.taskAt moment).end? = some next ↔
      job.work.outcome.hangs = false ∧ moment < job.work.millis ∧ job.work.millis = next := by
  rw [Task.end?, isWaiting_taskAt, work_taskAt, Work.outlasts]
  cases job.work.outcome.hangs <;> simp

/-- A task is seen later as if it had not been looked at before. -/
theorem seenAt_taskAt (later : clock ≤ moment) :
    (job.taskAt clock).seenAt moment = job.taskAt moment := by
  rw [Task.seenAt, isWaiting_taskAt, Work.outlasts]
  by_cases early : clock < job.work.millis
  · simp [early, taskAt]
  · have ended : ¬moment < job.work.millis := by omega
    cases outcome : job.work.outcome <;>
      simp [early, ended, taskAt, Work.stageAt, outcome, Outcome.hangs]

/-- As long as the work does not end, a task looks the same. -/
theorem taskAt_congr (later : clock ≤ moment)
    (going : ∀ next, (job.taskAt clock).end? = some next → moment < next) :
    job.taskAt clock = job.taskAt moment := by
  by_cases early : clock < job.work.millis
  · cases hangs : job.work.outcome.hangs with
    | true =>
        have hanging := (Outcome.hangs_iff _).mp hangs
        simp [taskAt, Work.stageAt, hanging]
    | false =>
        have late := going _ (end?_taskAt_eq_some_iff.mpr ⟨hangs, early, rfl⟩)
        simp [taskAt, Work.stageAt, early, late]
  · have ended : ¬moment < job.work.millis := by omega
    simp [taskAt, Work.stageAt, early, ended]

end Job

namespace Task

/-- A task that neither waits nor failed has returned. -/
theorem exists_result?_of_ended {task : Task Call Result} (ended : ¬task.isWaiting = true)
    (unfailed : task.failure? = none) : ∃ result, task.result? = some result := by
  cases stage : task.stage <;> simp_all [isWaiting, failure?, result?]

/-- When its time is up, a task that waits fails for that reason, and no other one does. -/
theorem failure?_timedOut (task : Task Call Result) :
    task.timedOut.failure? = if task.isWaiting then some .timeout else task.failure? := by
  cases waits : task.isWaiting <;> simp [timedOut, waits, failure?]

@[simp]
theorem isWaiting_timedOut (task : Task Call Result) : task.timedOut.isWaiting = false := by
  cases waits : task.isWaiting with
  | true =>
      rw [timedOut, if_pos waits]
      rfl
  | false => rw [timedOut, waits, if_neg Bool.false_ne_true, waits]

/-- No task starts to wait later. -/
theorem isWaiting_of_isWaiting_seenAt {task : Task Call Result} {moment : Nat}
    (waits : (task.seenAt moment).isWaiting = true) : task.isWaiting = true := by
  by_contra ended
  rw [seenAt, if_neg ended] at waits
  exact ended waits

/-- Until the moment at which it ends, a task waits. -/
theorem isWaiting_of_end?_eq_some {task : Task Call Result} {moment : Nat}
    (ends : task.end? = some moment) :
    task.isWaiting = true ∧ (task.seenAt moment).isWaiting = false := by
  rw [end?, Option.ite_none_right_eq_some, Bool.and_eq_true, Bool.not_eq_true'] at ends
  obtain ⟨⟨waits, goesOn⟩, isEnd⟩ := ends
  obtain rfl := Option.some.inj isEnd
  refine ⟨waits, ?_⟩
  rw [seenAt, if_pos waits, Job.isWaiting_taskAt, Work.outlasts, goesOn]
  simp

@[simp]
theorem cancellation_timedOut (task : Task Call Result) : task.timedOut.cancellation = [] := by
  simp [cancellation]

end Task

/-! ## What happens to jobs -/

namespace Job

/-- The starts of jobs. -/
def starts (jobs : List (Job Call Result)) : List Event :=
  jobs.map fun job => .started job.name

/-- The cancellations of the jobs that go on beyond a moment. -/
def cancellations (moment : Nat) (jobs : List (Job Call Result)) : List Event :=
  (jobs.filter (·.work.outlasts moment)).map fun job => .cancelled job.name

theorem flatMap_cancellation_taskAt (moment : Nat) (jobs : List (Job Call Result)) :
    (jobs.map (taskAt moment)).flatMap Task.cancellation = cancellations moment jobs := by
  induction jobs with
  | nil => rfl
  | cons job jobs induct =>
      rw [List.map_cons, List.flatMap_cons, induct, Task.cancellation, isWaiting_taskAt]
      cases lasts : job.work.outlasts moment <;> simp [cancellations, lasts, taskAt]

/-- None of several jobs fails before a moment. -/
def NoneFailsBefore (moment : Nat) (jobs : List (Job Call Result)) : Prop :=
  ∀ job ∈ jobs, ∀ failure, job.work.outcome = .failed failure → moment ≤ job.work.millis

/-- Among jobs, one fails before all others that do; of those that fail at one moment it was started
first. -/
structure FailsFirst (jobs : List (Job Call Result)) (job : Job Call Result) (failure : Failure) :
    Prop where
  /-- The job fails. -/
  failed : job.work.outcome = .failed failure
  /-- Jobs that were started before fail later, and those that were started later no sooner. -/
  first : ∃ front back, jobs = front ++ job :: back ∧
    NoneFailsBefore (job.work.millis + 1) front ∧ NoneFailsBefore job.work.millis back

/-- Only one job fails first. -/
theorem FailsFirst.unique {jobs : List (Job Call Result)} {one other : Job Call Result}
    {failure cause : Failure} (isFirst : FailsFirst jobs one failure)
    (alsoFirst : FailsFirst jobs other cause) : one = other := by
  obtain ⟨failed, front, back, rfl, before, behind⟩ := isFirst
  obtain ⟨alsoFailed, start, rest, split, sooner, later⟩ := alsoFirst
  rcases List.append_eq_append_iff.mp split with ⟨between, rfl, same⟩ | ⟨between, rfl, same⟩
  · cases between with
    | nil => exact (List.cons.inj same).1
    | cons first between =>
        obtain ⟨rfl, rfl⟩ := List.cons.inj same
        have isLater := sooner one (by simp) failure failed
        have isSooner := behind other (by simp) cause alsoFailed
        omega
  · cases between with
    | nil => exact (List.cons.inj same).1.symm
    | cons first between =>
        obtain ⟨rfl, rfl⟩ := List.cons.inj same
        have isLater := before other (by simp) cause alsoFailed
        have isSooner := later one (by simp) failure failed
        omega

end Job

/-! ## Points of a fan-out -/

section

variable {limits : Limits} {jobs : List (Job Call Result)}

/-- There is time for work to end by itself. -/
def Limits.Leave (limits : Limits) (work : Work Call Failure Result) : Prop :=
  ∀ last ∈ limits.last?, work.millis ≤ last

/-- Why jobs are given up, and the moment beyond which none of them goes on. -/
inductive GivenUp (limits : Limits) (jobs : List (Job Call Result)) : Failure → Nat → Prop
  /-- One fails in time. -/
  | failure {job : Job Call Result} {failure : Failure} (first : Job.FailsFirst jobs job failure)
      (inTime : limits.Leave job.work) : GivenUp limits jobs failure job.work.millis
  /-- None fails in time, but one has not ended when the time is up. -/
  | timeout {last : Nat} (isLast : last ∈ limits.last?)
      (unfailed : Job.NoneFailsBefore (last + 1) jobs)
      (late : ∃ job ∈ jobs, job.work.outlasts last = true) : GivenUp limits jobs .timeout last

/-- A job returns a result in time. -/
def Limits.Returns (limits : Limits) (job : Job Call Result) (result : Result) : Prop :=
  job.work.outcome = .returned result ∧ limits.Leave job.work

/-- What each point of a fan-out looks like. -/
inductive Course (limits : Limits) (jobs : List (Job Call Result)) : FanOut Call Result → Prop
  /-- No time has passed, and what was started has been seen to its first rest. -/
  | starting {front back : List (Job Call Result)} (split : jobs = front ++ back) :
      Course limits jobs
        ⟨0, Job.starts front, .starting (front.map (Job.taskAt 0)) back⟩
  /-- All have been started, there is time, and none failed before. -/
  | gathering {clock : Nat} (inTime : ∀ last ∈ limits.last?, clock ≤ last)
      (unfailed : Job.NoneFailsBefore clock jobs) :
      Course limits jobs ⟨clock, Job.starts jobs, .gathering (jobs.map (Job.taskAt clock))⟩
  /-- The time of each task is up. -/
  | expired {clock last : Nat} (isLast : last ∈ limits.last?)
      (unfailed : Job.NoneFailsBefore (last + 1) jobs)
      (late : ∃ job ∈ jobs, job.work.outlasts last = true) :
      Course limits jobs
        ⟨clock, Job.starts jobs ++ Job.cancellations last jobs,
          .gathering ((jobs.map (Job.taskAt last)).map Task.timedOut)⟩
  /-- What has still to be cancelled is what is missing among the cancellations. -/
  | cleaning {clock moment : Nat} {events : List Event} {failure : Failure}
      {left : List (Task Call Result)} (givenUp : GivenUp limits jobs failure moment)
      (missing : events ++ left.flatMap Task.cancellation =
        Job.starts jobs ++ Job.cancellations moment jobs) :
      Course limits jobs ⟨clock, events, .cleaning failure left⟩
  /-- All returned. -/
  | returned {clock : Nat} {results : List Result}
      (returned : List.Forall₂ limits.Returns jobs results) :
      Course limits jobs ⟨clock, Job.starts jobs, .finished (.ok results)⟩
  /-- What was given up is cancelled. -/
  | failed {clock moment : Nat} {failure : Failure} (givenUp : GivenUp limits jobs failure moment) :
      Course limits jobs
        ⟨clock, Job.starts jobs ++ Job.cancellations moment jobs, .finished (.error failure)⟩

namespace FanOut

/-! ## What is decided, and when -/

section

variable {tasks : List (Task Call Result)}

/-- Nothing is decided as long as one waits and none has failed. -/
theorem decision?_eq_none_iff :
    decision? tasks = none ↔
      (∀ task ∈ tasks, task.failure? = none) ∧ ∃ task ∈ tasks, task.isWaiting = true := by
  rw [decision?, ← List.findSome?_eq_none_iff, ← List.any_eq_true]
  cases tasks.findSome? Task.failure? <;> simp

theorem decision?_eq_error_iff {failure : Failure} :
    decision? tasks = some (.error failure) ↔ tasks.findSome? Task.failure? = some failure := by
  rw [decision?]
  cases tasks.findSome? Task.failure? <;> simp

theorem decision?_eq_ok_iff {results : List Result} :
    decision? tasks = some (.ok results) ↔
      (∀ task ∈ tasks, task.failure? = none) ∧ (∀ task ∈ tasks, ¬task.isWaiting = true) ∧
        tasks.filterMap Task.result? = results := by
  rw [decision?, ← List.findSome?_eq_none_iff, ← List.any_eq_false]
  cases tasks.findSome? Task.failure? <;> cases tasks.any Task.isWaiting <;> simp

/-- The next end is that of a task, no task ends before, and there is time until then. -/
theorem nextEnd?_eq_some_iff {moment : Nat} :
    nextEnd? limits tasks = some moment ↔
      (∃ task ∈ tasks, task.end? = some moment) ∧
        (∀ task ∈ tasks, ∀ next, task.end? = some next → moment ≤ next) ∧
        ∀ last ∈ limits.last?, moment ≤ last := by
  rw [nextEnd?, Option.filter_eq_some_iff, List.min?_eq_some_iff, and_assoc]
  refine and_congr List.mem_filterMap (and_congr ?_ ?_)
  · simp only [List.mem_filterMap]
    exact ⟨fun least task isTask next ends => least next ⟨task, isTask, ends⟩,
      fun least next ⟨task, isTask, ends⟩ => least task isTask next ends⟩
  · cases limits.last? <;> simp

/-- Where there is no next end, no task is going to end in time. -/
theorem lt_of_nextEnd?_eq_none {last : Nat} (none : nextEnd? limits tasks = none)
    (isLast : last ∈ limits.last?) {task : Task Call Result} (isTask : task ∈ tasks) {next : Nat}
    (ends : task.end? = some next) : last < next := by
  have isEnd : next ∈ tasks.filterMap Task.end? := List.mem_filterMap.mpr ⟨task, isTask, ends⟩
  obtain ⟨least, isLeast⟩ : ∃ least, (tasks.filterMap Task.end?).min? = some least :=
    Option.ne_none_iff_exists'.mp fun empty =>
      List.ne_nil_of_mem isEnd (List.min?_eq_none_iff.mp empty)
  have isLate : ¬limits.last?.all (least ≤ ·) = true :=
    Option.filter_eq_none_iff.mp none least isLeast
  rw [Option.mem_def.mp isLast] at isLate
  have atMost : least ≤ next := (List.min?_eq_some_iff.mp isLeast).2 next isEnd
  simp only [Option.all_some, decide_eq_true_eq] at isLate
  omega

end

/-! ## One step -/

section

variable {clock : Nat}

/-- What has not failed until a moment does not fail before the next one. -/
theorem noneFailsBefore_of_unfailed
    (unfailed : ∀ task ∈ jobs.map (Job.taskAt clock), task.failure? = none) :
    Job.NoneFailsBefore (clock + 1) jobs := by
  intro job isJob failure fails
  by_contra ended
  have failed := Job.failure?_taskAt_eq_some_iff.mpr
    ⟨fails, Nat.le_of_lt_succ (Nat.not_le.mp ended)⟩
  rw [unfailed _ (List.mem_map_of_mem isJob)] at failed
  contradiction

/-- The first failure among tasks is that of the job that fails first, if none failed before. -/
theorem exists_failsFirst {failure : Failure} (unfailed : Job.NoneFailsBefore clock jobs)
    (found : (jobs.map (Job.taskAt clock)).findSome? Task.failure? = some failure) :
    ∃ job, Job.FailsFirst jobs job failure ∧ job.work.millis = clock := by
  rw [List.findSome?_map] at found
  obtain ⟨front, job, back, rfl, isFailure, fresh⟩ := List.findSome?_eq_some_iff.mp found
  obtain ⟨fails, ended⟩ := Job.failure?_taskAt_eq_some_iff.mp isFailure
  obtain rfl : job.work.millis = clock :=
    Nat.le_antisymm ended (unfailed job (by simp) failure fails)
  have before : Job.NoneFailsBefore (job.work.millis + 1) front := by
    refine noneFailsBefore_of_unfailed fun task isTask => ?_
    obtain ⟨former, isFormer, rfl⟩ := List.mem_map.mp isTask
    exact fresh former isFormer
  exact ⟨job, ⟨fails, front, back, rfl, before, fun latter isLatter =>
    unfailed latter (by simp [isLatter])⟩, rfl⟩

/-- The results of tasks that have all returned are those of the jobs. -/
theorem forall₂_returns (inTime : ∀ last ∈ limits.last?, clock ≤ last)
    (unfailed : ∀ task ∈ jobs.map (Job.taskAt clock), task.failure? = none)
    (ended : ∀ task ∈ jobs.map (Job.taskAt clock), ¬task.isWaiting = true) :
    List.Forall₂ limits.Returns jobs ((jobs.map (Job.taskAt clock)).filterMap Task.result?) := by
  induction jobs with
  | nil => exact .nil
  | cons job jobs induct =>
      rw [List.map_cons, List.forall_mem_cons] at unfailed ended
      obtain ⟨result, isResult⟩ := Task.exists_result?_of_ended ended.1 unfailed.1
      rw [List.map_cons, List.filterMap_cons_some isResult]
      obtain ⟨returned, early⟩ := Job.result?_taskAt_eq_some_iff.mp isResult
      exact .cons ⟨returned, fun last isLast => Nat.le_trans early (inTime last isLast)⟩
        (induct unfailed.2 ended.2)

/-- When the time is up for tasks of which none failed, that is the first failure. -/
theorem findSome?_timedOut (unfailed : Job.NoneFailsBefore (clock + 1) jobs)
    (late : ∃ job ∈ jobs, job.work.outlasts clock = true) :
    ((jobs.map (Job.taskAt clock)).map Task.timedOut).findSome? Task.failure? = some .timeout := by
  obtain ⟨job, isJob, lasts⟩ := late
  rw [List.findSome?_map, List.findSome?_map]
  obtain ⟨failure, found⟩ : ∃ failure, jobs.findSome?
      ((Task.failure? ∘ Task.timedOut) ∘ Job.taskAt clock) = some failure := by
    rw [← Option.isSome_iff_exists, List.isSome_findSome?, List.any_eq_true]
    exact ⟨job, isJob, by simp [Task.failure?_timedOut, lasts]⟩
  obtain ⟨first, isFirst, failed⟩ := List.exists_of_findSome?_eq_some found
  rw [Function.comp_apply, Function.comp_apply, Task.failure?_timedOut] at failed
  split at failed
  · rw [found, failed]
  · obtain ⟨fails, ended⟩ := Job.failure?_taskAt_eq_some_iff.mp failed
    exact absurd (unfailed first isFirst failure fails) (Nat.not_lt.mpr ended)

/-- Work that is going to fail ends with its failure. -/
theorem end?_of_failed (fresh : ∀ task ∈ jobs.map (Job.taskAt clock), task.failure? = none)
    {job : Job Call Result} (isJob : job ∈ jobs) {failure : Failure}
    (fails : job.work.outcome = .failed failure) :
    (job.taskAt clock).end? = some job.work.millis :=
  Job.end?_taskAt_eq_some_iff.mpr
    ⟨by rw [fails]; rfl, noneFailsBefore_of_unfailed fresh job isJob failure fails, rfl⟩

/-- The time is up for what has not ended, where nothing ends before. -/
theorem course_expire {last : Nat} (isLast : last ∈ limits.last?) (later : clock ≤ last)
    (undecided : decision? (jobs.map (Job.taskAt clock)) = none)
    (going : ∀ job ∈ jobs, ∀ next, (job.taskAt clock).end? = some next → last < next) :
    Course limits jobs
      (expire limits ⟨clock, Job.starts jobs, .gathering (jobs.map (Job.taskAt clock))⟩
        (jobs.map (Job.taskAt clock)) last) := by
  obtain ⟨fresh, waiting, isWaiting, waits⟩ := decision?_eq_none_iff.mp undecided
  have still (job : Job Call Result) (isJob : job ∈ jobs) : job.taskAt clock = job.taskAt last :=
    Job.taskAt_congr later (going job isJob)
  have unfailed : Job.NoneFailsBefore (last + 1) jobs :=
    fun job isJob failure fails => going job isJob _ (end?_of_failed fresh isJob fails)
  have late : ∃ job ∈ jobs, job.work.outlasts last = true := by
    obtain ⟨job, isJob, rfl⟩ := List.mem_map.mp isWaiting
    rw [still job isJob, Job.isWaiting_taskAt] at waits
    exact ⟨job, isJob, waits⟩
  rw [List.map_congr_left still, expire, Job.flatMap_cancellation_taskAt]
  split
  · exact .cleaning (.timeout isLast unfailed late) (by rw [Job.flatMap_cancellation_taskAt])
  · exact .expired isLast unfailed late

/-- Time passes to a moment until which nothing failed, or is up for what has not ended. -/
theorem course_wait (inTime : ∀ last ∈ limits.last?, clock ≤ last)
    (unfailed : Job.NoneFailsBefore clock jobs)
    (undecided : decision? (jobs.map (Job.taskAt clock)) = none) :
    Course limits jobs
      (wait limits ⟨clock, Job.starts jobs, .gathering (jobs.map (Job.taskAt clock))⟩
        (jobs.map (Job.taskAt clock))) := by
  rw [wait]
  split
  case h_1 moment _ next =>
    obtain ⟨⟨task, isTask, ends⟩, least, early⟩ := nextEnd?_eq_some_iff.mp next
    obtain ⟨job, -, rfl⟩ := List.mem_map.mp isTask
    obtain ⟨-, later, rfl⟩ := Job.end?_taskAt_eq_some_iff.mp ends
    have seen : (jobs.map (Job.taskAt clock)).map (Task.seenAt job.work.millis) =
        jobs.map (Job.taskAt job.work.millis) := by
      rw [List.map_map]
      exact List.map_congr_left fun _ _ => Job.seenAt_taskAt (Nat.le_of_lt later)
    have fresh := (decision?_eq_none_iff.mp undecided).1
    rw [seen]
    exact .gathering early fun other isJob failure fails =>
      least _ (List.mem_map_of_mem isJob) _ (end?_of_failed fresh isJob fails)
  case h_2 last none isLast =>
    exact course_expire isLast (inTime last isLast) undecided fun job isJob next ends =>
      lt_of_nextEnd?_eq_none none isLast (List.mem_map_of_mem isJob) ends
  case h_3 => exact .gathering inTime unfailed

/-- What is gathered is decided by the first failure or by all results, or waited for. -/
theorem course_gather (inTime : ∀ last ∈ limits.last?, clock ≤ last)
    (unfailed : Job.NoneFailsBefore clock jobs) :
    Course limits jobs
      (gather limits ⟨clock, Job.starts jobs, .gathering (jobs.map (Job.taskAt clock))⟩
        (jobs.map (Job.taskAt clock))) := by
  rw [gather]
  split
  case h_1 failure decided =>
    obtain ⟨job, first, rfl⟩ := exists_failsFirst unfailed (decision?_eq_error_iff.mp decided)
    exact .cleaning (.failure first inTime) (by rw [Job.flatMap_cancellation_taskAt])
  case h_2 results decided =>
    obtain ⟨fresh, ended, rfl⟩ := decision?_eq_ok_iff.mp decided
    exact .returned (forall₂_returns inTime fresh ended)
  case h_3 undecided => exact course_wait inTime unfailed undecided

/-- When the time of each task is up, that decides, and all that waited is cancelled by then. -/
theorem course_gather_timedOut {last : Nat} (isLast : last ∈ limits.last?)
    (unfailed : Job.NoneFailsBefore (last + 1) jobs)
    (late : ∃ job ∈ jobs, job.work.outlasts last = true) {state : FanOut Call Result}
    (cancelled : state.events = Job.starts jobs ++ Job.cancellations last jobs) :
    Course limits jobs
      (state.gather limits ((jobs.map (Job.taskAt last)).map Task.timedOut)) := by
  have decided := decision?_eq_error_iff.mpr (findSome?_timedOut unfailed late)
  have noneLeft : ((jobs.map (Job.taskAt last)).map Task.timedOut).flatMap
      Task.cancellation = [] := by
    simp [List.flatMap_eq_nil_iff]
  rw [gather, decided]
  exact .cleaning (.timeout isLast unfailed late) (by rw [noneLeft, List.append_nil, cancelled])

/-- No step leaves the course. -/
theorem course_step {state : FanOut Call Result} (course : Course limits jobs state) :
    Course limits jobs (state.step limits) := by
  cases course with
  | @starting front back split =>
      cases back with
      | nil =>
          obtain rfl : jobs = front := by rw [split, List.append_nil]
          exact .gathering (fun _ _ => Nat.zero_le _) fun _ _ _ _ => Nat.zero_le _
      | cons job back =>
          have started : Job.starts (front ++ [job]) = Job.starts front ++ [.started job.name] :=
            List.map_append
          have seen : (front ++ [job]).map (Job.taskAt 0) =
              front.map (Job.taskAt 0) ++ [job.taskAt 0] := List.map_append
          have next : Course limits jobs
              ⟨0, Job.starts (front ++ [job]),
                .starting ((front ++ [job]).map (Job.taskAt 0)) back⟩ :=
            .starting (by rw [split, List.append_assoc, List.singleton_append])
          rwa [started, seen] at next
  | gathering inTime unfailed => exact course_gather inTime unfailed
  | expired isLast unfailed late => exact course_gather_timedOut isLast unfailed late rfl
  | @cleaning clock moment events failure left givenUp missing =>
      cases left with
      | nil =>
          rw [List.flatMap_nil, List.append_nil] at missing
          subst missing
          exact .failed givenUp
      | cons task left =>
          rw [List.flatMap_cons, ← List.append_assoc] at missing
          exact .cleaning givenUp missing
  | returned returned => exact .returned returned
  | failed givenUp => exact .failed givenUp

/-- No number of steps leaves the course. -/
theorem course_runFor (steps : Nat) {state : FanOut Call Result}
    (course : Course limits jobs state) : Course limits jobs (runFor limits steps state) := by
  induction steps generalizing state with
  | zero => exact course
  | succ steps induct => exact induct (course_step course)

theorem course_run (limits : Limits) (jobs : List (Job Call Result)) :
    Course limits jobs (run limits jobs) :=
  course_runFor _ (.starting (List.nil_append jobs).symm)

end

end FanOut

end

end Marginalia
