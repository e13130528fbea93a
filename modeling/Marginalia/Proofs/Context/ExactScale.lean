import Mathlib.Algebra.Order.Field.Basic
import Mathlib.Algebra.Order.Ring.Unbundled.Rat
import Mathlib.Data.Rat.Cast.Order
import Mathlib.Tactic.GCongr
import Mathlib.Tactic.NormNum
import Marginalia.Context.Reason
import Marginalia.Text.Numeral

/-!
# An exact scale

On the scale of the rational numbers a ratio is what it says, and nothing is rounded.
-/

namespace Marginalia

namespace Scale

/-- Rational numbers as a scale. -/
instance : Scale ℚ where
  ratio numerator denominator := numerator / denominator
  times left right := left * right
  atMost left right := left ≤ right
  below left right := left < right
  text amount := Text.ofInteger amount.num ++ '/' :: Text.ofInteger amount.den

theorem ratio_eq_div (numerator denominator : Nat) :
    (ratio numerator denominator : ℚ) = numerator / denominator := rfl

theorem times_eq_mul (left right : ℚ) : times left right = left * right := rfl

theorem atMost_iff_le {left right : ℚ} : atMost left right = true ↔ left ≤ right :=
  decide_eq_true_iff

theorem below_iff_lt {left right : ℚ} : below left right = true ↔ left < right :=
  decide_eq_true_iff

theorem isShare_iff {amount : ℚ} : isShare amount = true ↔ 0 ≤ amount ∧ amount ≤ 1 := by
  rw [isShare, Bool.and_eq_true, atMost_iff_le, atMost_iff_le, ratio_eq_div, ratio_eq_div]
  norm_num

/-- A part of a whole is a share. -/
theorem isShare_ratio {part whole : Nat} (atMost : part ≤ whole) :
    isShare (ratio part whole : ℚ) = true := by
  rw [isShare_iff, ratio_eq_div]
  exact ⟨by positivity, div_le_one_of_le₀ (by exact_mod_cast atMost) (by positivity)⟩

theorem ratio_le_ratio {part other : Nat} (atMost : part ≤ other) (whole : Nat) :
    (ratio part whole : ℚ) ≤ ratio other whole := by
  rw [ratio_eq_div, ratio_eq_div]
  gcongr

/-- A share of a share is a share. -/
theorem isShare_times {left right : ℚ} (isLeft : isShare left = true)
    (isRight : isShare right = true) : isShare (times left right) = true := by
  rw [isShare_iff] at isLeft isRight
  rw [times_eq_mul, isShare_iff]
  exact ⟨mul_nonneg isLeft.1 isRight.1, mul_le_one₀ isLeft.2 isRight.1 isRight.2⟩

end Scale

/-- No reason counts for more than certainty. -/
theorem Reason.isShare_baseConfidence (reason : Reason) :
    Scale.isShare (reason.baseConfidence : ℚ) = true := by
  refine Scale.isShare_ratio ?_
  cases reason <;> decide

end Marginalia
