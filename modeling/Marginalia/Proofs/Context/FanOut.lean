import Mathlib.Tactic.Common
import Marginalia.Proofs.Context.Course

/-!
# Ends of fan-outs

As long as the time is limited every step of a fan-out comes closer to its end, so it comes to one.
When all jobs return in time, nothing is cancelled and the results are theirs.  Otherwise they are
given up, at the first failure that comes in time or when the time is up; then those are cancelled
that still go on at that moment, in the order in which they were started.
-/

namespace Marginalia

variable {Call Result : Type} {limits : Limits} {jobs : List (Job Call Result)}

namespace FanOut

/-! ## Coming to an end -/

section

variable {tasks : List (Task Call Result)} {state : FanOut Call Result} {last : Nat}

/-- When the next task ends, one less waits. -/
theorem countP_isWaiting_seenAt_lt {moment : Nat}
    (ends : ∃ task ∈ tasks, task.end? = some moment) :
    (tasks.map (Task.seenAt moment)).countP Task.isWaiting < tasks.countP Task.isWaiting := by
  obtain ⟨task, isTask, ends⟩ := ends
  obtain ⟨front, back, rfl⟩ := List.append_of_mem isTask
  have atMost (others : List (Task Call Result)) :
      (others.map (Task.seenAt moment)).countP Task.isWaiting ≤ others.countP Task.isWaiting := by
    rw [List.countP_map]
    exact List.countP_mono_left fun other _ => Task.isWaiting_of_isWaiting_seenAt
  obtain ⟨waits, ended⟩ := Task.isWaiting_of_end?_eq_some ends
  have before := atMost front
  have behind := atMost back
  simp only [List.map_append, List.map_cons, List.countP_append, List.countP_cons, waits, ended]
  simp only [↓reduceIte, Bool.false_eq_true]
  omega

/-- Waiting for what is undecided comes closer to the end, as long as the time is limited. -/
theorem distance_wait_lt (isLast : last ∈ limits.last?) (undecided : decision? tasks = none) :
    (state.wait limits tasks).distance < tasks.countP Task.isWaiting + tasks.length + 2 := by
  rw [wait]
  split
  case h_1 moment _ next =>
    have fewer := countP_isWaiting_seenAt_lt (nextEnd?_eq_some_iff.mp next).1
    simp only [distance, List.length_map]
    omega
  case h_2 =>
    rw [expire]
    split
    · simp only [distance]
      omega
    · have someone : 0 < tasks.countP Task.isWaiting :=
        List.countP_pos_iff.mpr (decision?_eq_none_iff.mp undecided).2
      have noneWaits : (tasks.map Task.timedOut).countP Task.isWaiting = 0 := by
        simp [List.countP_eq_zero]
      simp only [distance, noneWaits, List.length_map]
      omega
  case h_3 none =>
    rw [none] at isLast
    contradiction

/-- Every step comes closer to the end, as long as the time is limited. -/
theorem distance_step_lt (isLast : last ∈ limits.last?)
    (going : ∀ result, state.phase ≠ .finished result) :
    (state.step limits).distance < state.distance := by
  obtain ⟨clock, events, phase⟩ := state
  cases phase with
  | starting started left =>
      cases left with
      | nil =>
          have atMost : started.countP Task.isWaiting ≤ started.length := List.countP_le_length
          simp only [step, distance, List.length_nil]
          omega
      | cons job left =>
          simp only [step, distance, List.length_append, List.length_cons, List.length_nil]
          omega
  | gathering tasks =>
      simp only [step, gather]
      split
      case h_1 =>
        simp only [distance]
        omega
      case h_2 =>
        simp only [distance]
        omega
      case h_3 undecided => exact distance_wait_lt isLast undecided
  | cleaning failure left =>
      cases left <;> simp [step, distance]
  | finished result => exact absurd rfl (going result)

/-- As long as the time is limited, enough steps come to the end. -/
theorem exists_phase_runFor (isLast : last ∈ limits.last?) (steps : Nat)
    (state : FanOut Call Result) (enough : state.distance ≤ steps) :
    ∃ result, (runFor limits steps state).phase = .finished result := by
  induction steps generalizing state with
  | zero =>
      cases phase : state.phase with
      | finished result => exact ⟨result, phase⟩
      | _ => simp [distance, phase] at enough
  | succ steps induct =>
      refine induct (state.step limits) ?_
      by_cases going : ∀ result, state.phase ≠ .finished result
      · have closer := distance_step_lt isLast going
        omega
      · obtain ⟨result, isFinished⟩ := not_forall_not.mp going
        simp [step, distance, isFinished]

end

end FanOut

/-! ## What a fan-out comes to -/

namespace GivenUp

variable {failure : Failure} {moment : Nat}

/-- Jobs that are given up do not all return in time. -/
theorem exists_not_returns (givenUp : GivenUp limits jobs failure moment) :
    ∃ job ∈ jobs, ∀ result, ¬limits.Returns job result := by
  cases givenUp with
  | @failure job _ first inTime =>
      obtain ⟨front, back, rfl, -⟩ := first.first
      refine ⟨job, by simp, fun result returns => ?_⟩
      exact absurd (first.failed.symm.trans returns.1) (by simp)
  | timeout isLast unfailed late =>
      obtain ⟨job, isJob, lasts⟩ := late
      refine ⟨job, isJob, fun result returns => ?_⟩
      have inTime := returns.2 _ isLast
      rw [Work.outlasts, returns.1, Outcome.hangs, Bool.false_or, decide_eq_true_eq] at lasts
      · omega
      · simp

/-- The job that fails first, if it does so in time, is why jobs are given up. -/
theorem eq_of_failsFirst (givenUp : GivenUp limits jobs failure moment) {job : Job Call Result}
    {cause : Failure} (first : Job.FailsFirst jobs job cause) (inTime : limits.Leave job.work) :
    failure = cause ∧ moment = job.work.millis := by
  cases givenUp with
  | failure isFirst early =>
      obtain rfl := isFirst.unique first
      exact ⟨Outcome.failed.inj (isFirst.failed.symm.trans first.failed), rfl⟩
  | timeout isLast unfailed late =>
      obtain ⟨front, back, rfl, -⟩ := first.first
      have tooLate := unfailed job (by simp) cause first.failed
      exact absurd (inTime _ isLast) (Nat.not_le.mpr tooLate)

/-- Jobs of which none fails in time are given up when the time is up. -/
theorem eq_of_unfailed (givenUp : GivenUp limits jobs failure moment) {last : Nat}
    (isLast : last ∈ limits.last?)
    (unfailed : Job.NoneFailsBefore (last + 1) jobs) : failure = .timeout ∧ moment = last := by
  cases givenUp with
  | failure first inTime =>
      obtain ⟨front, back, rfl, -⟩ := first.first
      have tooLate := unfailed _ (by simp) failure first.failed
      exact absurd (inTime _ isLast) (Nat.not_le.mpr tooLate)
  | timeout alsoLast _ _ => exact ⟨rfl, Option.mem_unique alsoLast isLast⟩

/-- There is but one reason to give jobs up, and one moment. -/
theorem unique (givenUp : GivenUp limits jobs failure moment) {cause : Failure} {other : Nat}
    (alsoGivenUp : GivenUp limits jobs cause other) : failure = cause ∧ moment = other := by
  cases alsoGivenUp with
  | failure first inTime => exact givenUp.eq_of_failsFirst first inTime
  | timeout isLast unfailed late => exact givenUp.eq_of_unfailed isLast unfailed

end GivenUp

namespace FanOut

theorem exists_returns_of_forall₂ {results : List Result}
    (returned : List.Forall₂ limits.Returns jobs results) {job : Job Call Result}
    (isJob : job ∈ jobs) : ∃ result, limits.Returns job result := by
  have all : List.Forall₂ (fun job result => (∃ result, limits.Returns job result) ∧
      limits.Returns job result) jobs results :=
    returned.imp fun _ result returns => ⟨⟨result, returns⟩, returns⟩
  exact ((List.forall₂_and_left _ _).mp all).1 job isJob

section

variable {last : Nat} (isLast : last ∈ limits.last?)

include isLast

/-- Within a limited time jobs all return, or they are given up. -/
theorem returned_or_givenUp (jobs : List (Job Call Result)) :
    (∃ results, List.Forall₂ limits.Returns jobs results ∧
      (run limits jobs).result = .ok results ∧ (run limits jobs).events = Job.starts jobs) ∨
    ∃ failure moment, GivenUp limits jobs failure moment ∧
      (run limits jobs).result = .error failure ∧
      (run limits jobs).events = Job.starts jobs ++ Job.cancellations moment jobs := by
  have course := course_run limits jobs
  obtain ⟨result, isFinished⟩ := exists_phase_runFor isLast _ (ofJobs jobs) (Nat.le_refl _)
  change (run limits jobs).phase = .finished result at isFinished
  generalize run limits jobs = state at course isFinished ⊢
  cases course with
  | returned returned => exact .inl ⟨_, returned, rfl, rfl⟩
  | failed givenUp => exact .inr ⟨_, _, givenUp, rfl, rfl⟩
  | _ => cases isFinished

/-- Jobs that all return in time give their results, and none is cancelled. -/
theorem run_of_returns (returns : ∀ job ∈ jobs, ∃ result, limits.Returns job result) :
    ∃ results, List.Forall₂ limits.Returns jobs results ∧
      (run limits jobs).result = .ok results ∧ (run limits jobs).events = Job.starts jobs := by
  rcases returned_or_givenUp isLast jobs with returned | ⟨failure, moment, givenUp, -⟩
  · exact returned
  · obtain ⟨job, isJob, unreturned⟩ := givenUp.exists_not_returns
    obtain ⟨result, isResult⟩ := returns job isJob
    exact absurd isResult (unreturned result)

/-- Jobs that are given up fail for that reason, and what goes on at that moment is cancelled. -/
theorem run_of_givenUp {failure : Failure} {moment : Nat}
    (givenUp : GivenUp limits jobs failure moment) :
    (run limits jobs).result = .error failure ∧
      (run limits jobs).events = Job.starts jobs ++ Job.cancellations moment jobs := by
  rcases returned_or_givenUp isLast jobs with
    ⟨results, returned, -⟩ | ⟨cause, other, alsoGivenUp, ends⟩
  · obtain ⟨job, isJob, unreturned⟩ := givenUp.exists_not_returns
    obtain ⟨result, returns⟩ := exists_returns_of_forall₂ returned isJob
    exact absurd returns (unreturned result)
  · obtain ⟨rfl, rfl⟩ := givenUp.unique alsoGivenUp
    exact ends

/-- Where one job does not return in time, all are given up. -/
theorem exists_givenUp_of_not_returns
    (unreturned : ∃ job ∈ jobs, ∀ result, ¬limits.Returns job result) :
    ∃ failure moment, GivenUp limits jobs failure moment := by
  rcases returned_or_givenUp isLast jobs with ⟨results, returned, -⟩ | ⟨failure, moment, givenUp, -⟩
  · obtain ⟨job, isJob, unreturned⟩ := unreturned
    obtain ⟨result, returns⟩ := exists_returns_of_forall₂ returned isJob
    exact absurd returns (unreturned result)
  · exact ⟨failure, moment, givenUp⟩

end

end FanOut

end Marginalia
