/-!
# Work

What becomes of something that was started: it returns, it fails, or it hangs until it is cancelled.
On the way it calls collaborators and takes time, and both are kept along with the end.  One piece
of work after another calls what both call, and ends as the first one does unless that returns.
-/

namespace Marginalia

/-- How something ends that was started. -/
inductive Outcome (Failure Result : Type) where
  /-- It returns. -/
  | returned (result : Result)
  /-- It fails. -/
  | failed (failure : Failure)
  /-- It hangs until it is cancelled. -/
  | hanging
deriving DecidableEq, Repr

namespace Outcome

variable {Failure Result Other : Type}

/-- What it failed with. -/
def failure? : Outcome Failure Result → Option Failure
  | .failed failure => some failure
  | _ => none

/-- Whether it hangs. -/
def hangs : Outcome Failure Result → Bool
  | .hanging => true
  | _ => false

/-- The same end, with the result seen in another way. -/
def map (view : Result → Other) : Outcome Failure Result → Outcome Failure Other
  | .returned result => .returned (view result)
  | .failed failure => .failed failure
  | .hanging => .hanging

@[simp]
theorem failure?_map (view : Result → Other) (outcome : Outcome Failure Result) :
    (outcome.map view).failure? = outcome.failure? := by
  cases outcome <;> rfl

@[simp]
theorem hangs_map (view : Result → Other) (outcome : Outcome Failure Result) :
    (outcome.map view).hangs = outcome.hangs := by
  cases outcome <;> rfl

theorem failure?_eq_some_iff (outcome : Outcome Failure Result) (failure : Failure) :
    outcome.failure? = some failure ↔ outcome = .failed failure := by
  cases outcome <;> simp [failure?]

theorem hangs_iff (outcome : Outcome Failure Result) :
    outcome.hangs = true ↔ outcome = .hanging := by
  cases outcome <;> simp [hangs]

end Outcome

/-- Something that was started. -/
structure Work (Call Failure Result : Type) where
  /-- What it calls, in order. -/
  calls : List Call := []
  /-- The time that it takes, in thousandths of a second. -/
  millis : Nat := 0
  /-- How it ends. -/
  outcome : Outcome Failure Result

namespace Work

variable {Call Failure Result Next : Type}

/-- Work that returns at once. -/
def done (result : Result) : Work Call Failure Result :=
  { outcome := .returned result }

/-- Work that fails at once. -/
def fail (failure : Failure) : Work Call Failure Result :=
  { outcome := .failed failure }

/-- Work that succeeds or fails at once. -/
def ofExcept {Fault : Type} (wrap : Fault → Failure) : Except Fault Result →
    Work Call Failure Result
  | .ok result => done result
  | .error fault => fail (wrap fault)

/-- Work followed by more work on its result. -/
def andThen (work : Work Call Failure Result) (next : Result → Work Call Failure Next) :
    Work Call Failure Next :=
  match work.outcome with
  | .returned result =>
      let after := next result
      { calls := work.calls ++ after.calls
        millis := work.millis + after.millis
        outcome := after.outcome }
  | .failed failure => { work with outcome := .failed failure }
  | .hanging => { work with outcome := .hanging }

instance : Monad (Work Call Failure) where
  pure := done
  bind := andThen

/-- The result of work, unless it fails; what hangs runs out of time. -/
def toExcept (timeout : Failure) (work : Work Call Failure Result) : Except Failure Result :=
  match work.outcome with
  | .returned result => .ok result
  | .failed failure => .error failure
  | .hanging => .error timeout

end Work

end Marginalia
