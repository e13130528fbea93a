import Mathlib.Tactic.Common
import Marginalia.Family
import Marginalia.Proofs.Except

/-!
# Runs that escape

A caller tells the user of a faulty value, and of nothing else.  A run escapes when it fails in
another way; a sequence of runs does so at the first step that escapes, if all steps before it
succeed.
-/

namespace Marginalia

section

variable {Fault Middle Result : Type} {family : Fault → Family}

/-- The run fails, and not because of a faulty value. -/
def Escapes (family : Fault → Family) (run : Except Fault Result) : Prop :=
  ∃ fault, run = .error fault ∧ family fault ≠ .value

theorem not_escapes_ok (family : Fault → Family) (result : Result) :
    ¬Escapes family (.ok result) := by
  rintro ⟨fault, failed, -⟩
  cases failed

theorem not_escapes_pure (family : Fault → Family) (result : Result) :
    ¬Escapes family (pure result) :=
  not_escapes_ok family result

theorem escapes_error_iff {fault : Fault} :
    Escapes family (.error fault : Except Fault Result) ↔ family fault ≠ .value := by
  simp [Escapes]

instance (run : Except Fault Result) : Decidable (Escapes family run) :=
  match run with
  | .error _ => decidable_of_iff _ escapes_error_iff.symm
  | .ok result => isFalse (not_escapes_ok family result)

theorem escapes_bind_iff {run : Except Fault Middle} {next : Middle → Except Fault Result} :
    Escapes family (run >>= next) ↔
      Escapes family run ∨ ∃ middle, run = .ok middle ∧ Escapes family (next middle) := by
  cases run with
  | error fault => simp [Escapes, bind, Except.bind]
  | ok middle => simp [Escapes, bind, Except.bind]

theorem escapes_bind_of_total {run : Except Fault Middle} {next : Middle → Except Fault Result}
    (total : ∀ middle, ¬Escapes family (next middle)) :
    Escapes family (run >>= next) ↔ Escapes family run := by
  rw [escapes_bind_iff, or_iff_left]
  rintro ⟨middle, -, escapes⟩
  exact total middle escapes

theorem escapes_map_iff {run : Except Fault Middle} {view : Middle → Result} :
    Escapes family (view <$> run) ↔ Escapes family run := by
  cases run with
  | error fault => simp [Escapes, Functor.map, Except.map]
  | ok middle => simp [Escapes, Functor.map, Except.map]

theorem not_escapes_iff {run : Except Fault Result} :
    ¬Escapes family run ↔
      (∃ result, run = .ok result) ∨ ∃ fault, run = .error fault ∧ family fault = .value := by
  cases run with
  | error fault => simp [Escapes]
  | ok result => simp [Escapes]

end

end Marginalia
