import Marginalia.Context.Failure
import Marginalia.Context.Work
import Marginalia.Number.Binary

/-!
# Fan-outs

A fan-out starts several jobs and waits for all of them.  Each becomes a task; all are started in
order, and each runs on until it returns, fails or has to wait, before anything else happens.  Then
the tasks are gathered: the first failure of a task decides, and so does the last result.  Until
then time passes from the end of one task to that of the next.

Two times are limited meanwhile.  When that of each task is up, the work in every task that still
runs is cancelled and the task fails.  When that of the whole is up, what is gathered is cancelled.
Gathering does not stop the other tasks when one fails, so they are cancelled one after the other
before the failure is told.

No time passes while tasks compute, so a task that has not to wait ends before any time is up.
-/

namespace Marginalia

/-- What happens to a strategy. -/
inductive Event where
  /-- It is started. -/
  | started (name : Text)
  /-- It is cancelled. -/
  | cancelled (name : Text)
deriving DecidableEq, Repr

/-- The last moments at which there still is time, in thousandths of a second; what is absent is
not limited. -/
structure Limits where
  /-- For each task. -/
  each : Option Nat
  /-- For all of them together. -/
  whole : Option Nat

namespace Limits

/-- The last thousandth of a second before a time is up; there is none for a time without end. -/
def lastWithin? (seconds : Float) : Option Nat :=
  if seconds.isNaN || Number.isInfinite seconds then none
  else
    let binary := Number.Binary.ofBits seconds.toBits
    let within := 1000 * binary.mantissa * Nat.pow 2 binary.exponent.toNat /
      Nat.pow 2 (-binary.exponent).toNat
    let isUp := Number.atMost seconds (Number.nearestQuotient within 1000)
    some (if isUp then within - 1 else within)

/-- The last moment at which there still is time for a task. -/
def last? (limits : Limits) : Option Nat :=
  match limits.each, limits.whole with
  | some each, some whole => some (min each whole)
  | each, none => each
  | none, whole => whole

/-- Whether it is the time of the whole that is up first.  It was set before those of the tasks, so
it comes first where they are the same. -/
def isWholeFirst (limits : Limits) : Bool :=
  limits.whole.any fun whole => limits.each.all (whole ≤ ·)

end Limits

/-- A piece of work under a name. -/
structure Job (Call Result : Type) where
  /-- The name. -/
  name : Text
  /-- The work. -/
  work : Work Call Failure Result

/-- How far a task has come. -/
inductive Stage (Result : Type) where
  /-- It waits for something. -/
  | waiting
  /-- It returned. -/
  | returned (result : Result)
  /-- It failed. -/
  | failed (failure : Failure)

/-- A job that was started. -/
structure Task (Call Result : Type) extends Job Call Result where
  /-- How far it has come. -/
  stage : Stage Result

section

variable {Call Result : Type}

/-- How far work has come at a moment. -/
def Work.stageAt (moment : Nat) (work : Work Call Failure Result) : Stage Result :=
  if moment < work.millis then .waiting
  else
    match work.outcome with
    | .returned result => .returned result
    | .failed failure => .failed failure
    | .hanging => .waiting

/-- A job that was started, at a moment. -/
def Job.taskAt (moment : Nat) (job : Job Call Result) : Task Call Result :=
  { job with stage := job.work.stageAt moment }

namespace Task

/-- Whether a task has not ended. -/
def isWaiting (task : Task Call Result) : Bool :=
  match task.stage with
  | .waiting => true
  | _ => false

/-- What a task failed with. -/
def failure? (task : Task Call Result) : Option Failure :=
  match task.stage with
  | .failed failure => some failure
  | _ => none

/-- What a task returned. -/
def result? (task : Task Call Result) : Option Result :=
  match task.stage with
  | .returned result => some result
  | _ => none

/-- A task at a later moment. -/
def seenAt (moment : Nat) (task : Task Call Result) : Task Call Result :=
  if task.isWaiting then task.taskAt moment else task

/-- A task whose time is up: it fails unless it has ended. -/
def timedOut (task : Task Call Result) : Task Call Result :=
  if task.isWaiting then { task with stage := .failed .timeout } else task

/-- The moment at which a task that waits is going to end. -/
def end? (task : Task Call Result) : Option Nat :=
  if task.isWaiting && !task.work.outcome.hangs then some task.work.millis else none

/-- What happens when a task is cancelled; one that has ended is not. -/
def cancellation (task : Task Call Result) : List Event :=
  if task.isWaiting then [.cancelled task.name] else []

end Task

end

/-- How far a fan-out has come. -/
inductive Phase (Call Result : Type) where
  /-- Jobs are started one after the other. -/
  | starting (started : List (Task Call Result)) (left : List (Job Call Result))
  /-- All tasks are waited for. -/
  | gathering (tasks : List (Task Call Result))
  /-- Something failed, and tasks have still to be cancelled. -/
  | cleaning (failure : Failure) (left : List (Task Call Result))
  /-- All has come to an end. -/
  | finished (result : Except Failure (List Result))

/-- A fan-out at a moment. -/
structure FanOut (Call Result : Type) where
  /-- How many thousandths of a second have passed. -/
  clock : Nat := 0
  /-- What has happened. -/
  events : List Event := []
  /-- How far it has come. -/
  phase : Phase Call Result

namespace FanOut

variable {Call Result : Type}

/-- What is decided by how far tasks have come: the first failure, or all results. -/
def decision? (tasks : List (Task Call Result)) : Option (Except Failure (List Result)) :=
  match tasks.findSome? Task.failure? with
  | some failure => some (.error failure)
  | none =>
      if tasks.any Task.isWaiting then none else some (.ok (tasks.filterMap Task.result?))

/-- The moment at which the next of several tasks is going to end, if there is time until then. -/
def nextEnd? (limits : Limits) (tasks : List (Task Call Result)) : Option Nat :=
  (tasks.filterMap Task.end?).min?.filter fun moment => limits.last?.all (moment ≤ ·)

/-- Let the time be up. -/
def expire (limits : Limits) (state : FanOut Call Result) (tasks : List (Task Call Result))
    (last : Nat) : FanOut Call Result :=
  if limits.isWholeFirst then
    { state with clock := last + 1, phase := .cleaning .timeout tasks }
  else
    { clock := last + 1
      events := state.events ++ tasks.flatMap Task.cancellation
      phase := .gathering (tasks.map Task.timedOut) }

/-- Let time pass until the next task ends, or until the time is up.  Where neither comes, nothing
happens any more. -/
def wait (limits : Limits) (state : FanOut Call Result) (tasks : List (Task Call Result)) :
    FanOut Call Result :=
  match nextEnd? limits tasks, limits.last? with
  | some moment, _ =>
      { state with clock := moment, phase := .gathering (tasks.map (Task.seenAt moment)) }
  | none, some last => state.expire limits tasks last
  | none, none => state

/-- Settle what is decided, or wait. -/
def gather (limits : Limits) (state : FanOut Call Result) (tasks : List (Task Call Result)) :
    FanOut Call Result :=
  match decision? tasks with
  | some (.error failure) => { state with phase := .cleaning failure tasks }
  | some (.ok results) => { state with phase := .finished (.ok results) }
  | none => state.wait limits tasks

/-- What happens next in a fan-out. -/
def step (limits : Limits) (state : FanOut Call Result) : FanOut Call Result :=
  match state.phase with
  | .starting started [] => { state with phase := .gathering started }
  | .starting started (job :: left) =>
      { state with
        events := state.events ++ [.started job.name]
        phase := .starting (started ++ [job.taskAt 0]) left }
  | .gathering tasks => state.gather limits tasks
  | .cleaning failure [] => { state with phase := .finished (.error failure) }
  | .cleaning failure (task :: left) =>
      { state with
        events := state.events ++ task.cancellation
        phase := .cleaning failure left }
  | .finished _ => state

/-- How many steps a fan-out is from its end, at most. -/
def distance (state : FanOut Call Result) : Nat :=
  match state.phase with
  | .starting started left => 2 * started.length + 3 * left.length + 3
  | .gathering tasks => tasks.countP Task.isWaiting + tasks.length + 2
  | .cleaning _ left => left.length + 1
  | .finished _ => 0

/-- Take a number of steps. -/
def runFor (limits : Limits) : Nat → FanOut Call Result → FanOut Call Result
  | 0, state => state
  | steps + 1, state => runFor limits steps (state.step limits)

/-- A fan-out of which nothing has been started. -/
def ofJobs (jobs : List (Job Call Result)) : FanOut Call Result :=
  { phase := .starting [] jobs }

/-- Run jobs side by side to their end. -/
def run (limits : Limits) (jobs : List (Job Call Result)) : FanOut Call Result :=
  runFor limits (ofJobs jobs).distance (ofJobs jobs)

/-- What a fan-out came to.  One that waits without end runs out of the time of its caller. -/
def result (state : FanOut Call Result) : Except Failure (List Result) :=
  match state.phase with
  | .finished result => result
  | _ => .error .timeout

end FanOut

end Marginalia
