import Mathlib
import Marginalia.Proofs.Escape
import Marginalia.Value.Convert

/-!
# Which conversions escape

Of the values that a number is asked of, an infinity is no integer and a large integer no decimal;
both are refused in another way than a faulty value is.
-/

namespace Marginalia

/-- An infinity is a number. -/
theorem Number.isNaN_of_isInfinite {number : Float} (infinite : isInfinite number = true) :
    number.isNaN = false := by
  rw [Float.isNaN_eq_decide_eq_nan, decide_eq_false_iff_not]
  rintro rfl
  exact absurd infinite (by decide)

/-- One of the two infinities. -/
def Value.IsInfinite (value : Value) : Prop :=
  ∃ number, value = .decimal number ∧ Number.isInfinite number = true

/-- A value of a kind that no decimal is made from, or an integer that is too large for one. -/
def Value.IsBeyondDecimals : Value → Prop
  | .integer number => Number.isInfinite (Number.ofInteger number) = true
  | .null => True
  | .list _ => True
  | .mapping _ => True
  | _ => False

theorem Value.toInteger_eq_infinity_iff {value : Value} :
    value.toInteger = .error .integerFromInfinity ↔ value.IsInfinite := by
  rw [IsInfinite]
  cases value with
  | decimal number =>
      by_cases infinite : Number.isInfinite number = true
      · rw [toInteger, Number.isNaN_of_isInfinite infinite, if_neg Bool.false_ne_true,
          if_pos infinite]
        exact iff_of_true rfl ⟨number, rfl, infinite⟩
      · rw [toInteger, if_neg infinite]
        split <;> simp [infinite]
  | text content =>
      rw [toInteger]
      split <;> simp
  | foreign scalar => exact scalar.elim
  | _ => simp [toInteger]

theorem escapes_toDecimal_iff {value : Value} :
    Escapes Value.Fault.family value.toDecimal ↔ value.IsBeyondDecimals := by
  cases value with
  | integer number =>
      rw [Value.toDecimal, Value.decimalOfInteger, Value.IsBeyondDecimals]
      split
      · rename_i infinite
        simp [escapes_error_iff, Value.Fault.family, infinite]
      · rename_i finite
        simp [not_escapes_ok, finite]
  | text content =>
      simp only [Value.toDecimal, Value.IsBeyondDecimals]
      split
      · simp [not_escapes_ok]
      · simp [escapes_error_iff, Value.Fault.family]
  | foreign scalar => exact scalar.elim
  | bool truth => simp [Value.toDecimal, Value.IsBeyondDecimals, not_escapes_ok]
  | decimal number => simp [Value.toDecimal, Value.IsBeyondDecimals, not_escapes_ok]
  | _ => simp [Value.toDecimal, Value.IsBeyondDecimals, escapes_error_iff, Value.Fault.family]

end Marginalia
