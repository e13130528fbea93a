import Mathlib
import Marginalia.Context.Scale
import Marginalia.Proofs.Number.Order

/-!
# Shares in doubles

A quotient that does not exceed one is not rounded to a double above one.  On its way to the bits of
a double the quotient is cut, shifted and rounded, and its mantissa never exceeds the power of two
that stands for one: below that power rounding up reaches it at most, and a mantissa that has
reached it stands for one exactly, so that nothing is left over to be rounded.
-/

namespace Marginalia

namespace Number

open Float.Model (Format UnpackedFloat totalExponent)
open Float.Model.UnpackedFloat

/-! ## Mantissas -/

/-- A mantissa of so many binary places, what follows them included, stands for at most one. -/
def IsAtMostOne (extended : ExtendedMantissa) (places : Nat) : Prop :=
  extended.mantissa < 2 ^ places ∨
    extended.mantissa = 2 ^ places ∧ extended.roundBit = false ∧ extended.stickyBit = false

variable {extended : ExtendedMantissa} {accuracy : Accuracy} {mantissa places : Nat}

theorem isAtMostOne_exact (le : mantissa ≤ 2 ^ places) :
    IsAtMostOne (.ofMantissaAndAccuracy mantissa .exact) places :=
  (Nat.lt_or_eq_of_le le).imp id fun same => ⟨same, rfl, rfl⟩

theorem IsAtMostOne.mantissa_le (atMost : IsAtMostOne extended places) :
    extended.mantissa ≤ 2 ^ places :=
  atMost.elim Nat.le_of_lt fun reached => Nat.le_of_eq reached.1

/-- What a shift cuts off is a residue only of a mantissa below one. -/
theorem isAtMostOne_shiftRightOne (atMost : IsAtMostOne extended (places + 1)) :
    IsAtMostOne extended.shiftRightOne places := by
  rw [IsAtMostOne, Nat.pow_succ] at atMost
  rcases atMost with below | ⟨reached, noRound, noSticky⟩
  · left
    simp only [ExtendedMantissa.shiftRightOne]
    omega
  · right
    refine ⟨?_, ?_, ?_⟩
    · simp only [ExtendedMantissa.shiftRightOne, reached]
      omega
    · simp [ExtendedMantissa.shiftRightOne, reached]
    · simp [ExtendedMantissa.shiftRightOne, noRound, noSticky]

theorem isAtMostOne_shiftRight (count : Nat) (atMost : IsAtMostOne extended (places + count)) :
    IsAtMostOne (extended >>> count) places := by
  induction count generalizing places with
  | zero => exact atMost
  | succ count induct =>
      have before : IsAtMostOne (extended >>> count) (places + 1) := by
        apply induct
        rwa [Nat.add_right_comm]
      exact isAtMostOne_shiftRightOne before

theorem roundedMantissa_le (atMost : IsAtMostOne extended places) :
    extended.roundedMantissa ≤ 2 ^ places := by
  obtain ⟨mantissa, roundBit, stickyBit⟩ := extended
  rcases atMost with below | ⟨reached, noRound, noSticky⟩
  · have room : mantissa + 1 ≤ 2 ^ places := below
    cases roundBit <;> cases stickyBit <;>
      simp only [ExtendedMantissa.roundedMantissa, ExtendedMantissa.accuracy,
        Accuracy.roundToNearestEven] <;> omega
  · simp only at reached noRound noSticky
    rw [noRound, noSticky, reached]
    exact Nat.le_refl _

/-- Doubles have fifty-two places behind the leading digit. -/
theorem targetExponent_le (le : mantissa ≤ 2 ^ places) :
    Format.binary64.targetExponent (totalExponent mantissa (-places)) ≤ -52 := by
  have log : mantissa.log2 ≤ places := by
    by_cases zero : mantissa = 0
    · simp [zero]
    · exact (Nat.pow_le_pow_iff_right Nat.one_lt_two).mp (Nat.le_trans (Nat.log2_self_le zero) le)
  simp only [Format.targetExponent, totalExponent, Format.mantissaBits, Format.minExponent]
  omega

theorem isAtMostOne_shiftToTargetExponent
    (atMost : IsAtMostOne (.ofMantissaAndAccuracy mantissa accuracy) places)
    (le : mantissa ≤ 2 ^ places) :
    ∃ left : Nat, (shiftToTargetExponent .binary64 mantissa (-places) accuracy).2 = -left ∧
      IsAtMostOne (shiftToTargetExponent .binary64 mantissa (-places) accuracy).1 left := by
  have target := targetExponent_le le
  simp only [shiftToTargetExponent, shiftToExponent]
  generalize Format.binary64.targetExponent (totalExponent mantissa (-places)) = exponent at target
  generalize isShift : (exponent - -(places : Int)).toNat = shift
  have within : shift ≤ places := by omega
  refine ⟨places - shift, by omega, isAtMostOne_shiftRight shift ?_⟩
  rwa [Nat.sub_add_cancel within]

/-! ## Numbers -/

/-- Nothing, or a positive number of at most one. -/
inductive IsShare : UnpackedFloat → Prop
  /-- Nothing. -/
  | zero : IsShare (.zero .positive)
  /-- A positive number of so many binary places. -/
  | finite {mantissa places : Nat} (positive : 0 < mantissa) (le : mantissa ≤ 2 ^ places) :
      IsShare (.finite .positive mantissa (-places) positive)

theorem mantissa_ofMantissaAndAccuracy (mantissa : Nat) (accuracy : Accuracy) :
    (ExtendedMantissa.ofMantissaAndAccuracy mantissa accuracy).mantissa = mantissa := by
  rcases accuracy with _ | ordering
  · rfl
  · cases ordering <;> rfl

/-- What stands for at most one is rounded to a share. -/
theorem isShare_roundWithAccuracy
    (atMost : IsAtMostOne (.ofMantissaAndAccuracy mantissa accuracy) places) :
    IsShare (roundWithAccuracy .binary64 .positive mantissa (-places) accuracy) := by
  have le : mantissa ≤ 2 ^ places :=
    mantissa_ofMantissaAndAccuracy mantissa accuracy ▸ atMost.mantissa_le
  obtain ⟨left, isExponent, isFirst⟩ := isAtMostOne_shiftToTargetExponent atMost le
  have rounded := roundedMantissa_le isFirst
  -- Rounding may have added a digit, so the mantissa is shifted once more.
  obtain ⟨last, isLastExponent, isLast⟩ :=
    isAtMostOne_shiftToTargetExponent (isAtMostOne_exact rounded) rounded
  simp only [roundWithAccuracy, isExponent, isLastExponent]
  split
  · exact .zero
  · exact .finite _ isLast.mantissa_le

/-- A fraction of at most one, expanded by a power of two, is cut to at most that power, and to it
only without a remainder. -/
theorem quotient_lt_or_eq {numerator denominator : Nat} (positive : 0 < denominator)
    (le : numerator ≤ denominator) (places : Nat) :
    numerator * 2 ^ places / denominator < 2 ^ places ∨
      numerator * 2 ^ places / denominator = 2 ^ places ∧
        numerator * 2 ^ places % denominator = 0 := by
  rcases Nat.lt_or_eq_of_le le with below | rfl
  · left
    rw [Nat.div_lt_iff_lt_mul positive, Nat.mul_comm (2 ^ places)]
    exact Nat.mul_lt_mul_of_pos_right below (Nat.two_pow_pos places)
  · exact .inr ⟨Nat.mul_div_cancel_left _ positive, Nat.mul_mod_right _ _⟩

theorem isShare_div {numerator denominator : Nat} (numeratorPositive : 0 < numerator)
    (positive : 0 < denominator) (le : numerator ≤ denominator) :
    IsShare (div .binary64 (.finite .positive numerator 0 numeratorPositive)
      (.finite .positive denominator 0 positive)) := by
  obtain ⟨places, isTarget⟩ : ∃ places : Nat, min ((0 : Int) - 0) (Format.binary64.targetExponent
      (totalExponent numerator 0 - totalExponent denominator 0)) = -places :=
    Int.exists_eq_neg_ofNat (Int.min_le_left _ _)
  have isShift : ((0 : Int) - 0 - -places).toNat = places := by omega
  simp only [div, divCore, isTarget, isShift, Nat.shiftLeft_eq]
  apply isShare_roundWithAccuracy
  rcases quotient_lt_or_eq positive le places with below | ⟨reached, nothing⟩
  · exact .inl (by rwa [mantissa_ofMantissaAndAccuracy])
  · rw [nothing]
    exact isAtMostOne_exact (Nat.le_of_eq reached)

theorem isShare_ofScientific (le : mantissa ≤ 2 ^ places) (below : 0 < places) :
    IsShare (ofScientific .binary64 (mantissa * 5 ^ places) (Int.negOfNat places)) := by
  have expanded : mantissa * 5 ^ places ≤ 10 ^ places :=
    calc mantissa * 5 ^ places ≤ 2 ^ places * 5 ^ places := Nat.mul_le_mul_right _ le
      _ = 10 ^ places := (Nat.mul_pow 2 5 places).symm
  rw [ofScientific]
  split
  · exact .zero
  · rw [if_neg (by simp [Int.negOfNat_eq])]
    split
    · exact .zero
    · rw [if_neg (by simp [Int.negOfNat_eq]; omega)]
      apply isShare_div
      simpa [Int.negOfNat_eq] using expanded

/-! ## Bits -/

theorem toNat_append {width more : Nat} (high : BitVec width) (low : BitVec more) :
    (high ++ low).toNat = high.toNat * 2 ^ more + low.toNat := by
  rw [BitVec.toNat_append, ← Nat.shiftLeft_add_eq_or_of_lt low.isLt, Nat.shiftLeft_eq]

theorem toNat_packComponents (exponent : BitVec 11) (fraction : BitVec 52) :
    (packComponents .binary64 .positive exponent fraction).toNat =
      exponent.toNat * 2 ^ 52 + fraction.toNat := by
  have unsigned : (Sign.positive.toBitVec ++ exponent).toNat = exponent.toNat :=
    (toNat_append _ exponent).trans (by simp [Sign.toBitVec])
  exact (toNat_append _ fraction).trans (by rw [unsigned])

/-- The bits of one are the largest that a share can have. -/
theorem toNat_toBits_pack_le {number : UnpackedFloat} (isShare : IsShare number) :
    (Float.Model.pack number).toBits.toNat ≤ 0x3FF0000000000000 := by
  change (pack .binary64 number).toNat ≤ _
  cases isShare with
  | zero => decide
  | @finite mantissa places positive le =>
      have bias : (-(places : Int) + Format.binary64.exponentBias +
          Format.binary64.mantissaBitsWithoutImplicit).toNat = 1075 - places := by
        simp only [Format.exponentBias]
        omega
      simp only [pack, bias]
      split
      · omega
      · split
        · rename_i full
          -- A mantissa with a leading digit has all its places behind the point; with no more
          -- than these, it is the mantissa of one.
          have log : mantissa.log2 = 52 := by
            simp only [Format.mantissaBits] at full
            omega
          have least : 2 ^ 52 ≤ mantissa := log ▸ Nat.log2_self_le (Nat.ne_of_gt positive)
          have enough : 52 ≤ places :=
            (Nat.pow_le_pow_iff_right Nat.one_lt_two).mp (Nat.le_trans least le)
          rw [toNat_packComponents, BitVec.toNat_ofNat, BitVec.toNat_ofNat,
            Nat.mod_eq_of_lt (by omega)]
          rcases Nat.lt_or_eq_of_le enough with more | rfl
          · have cut : mantissa % 2 ^ 52 < 2 ^ 52 := Nat.mod_lt _ (Nat.two_pow_pos 52)
            omega
          · omega
        · rw [toNat_packComponents, BitVec.toNat_zero, BitVec.toNat_ofNat]
          omega

/-- Below the bit for the sign and those of infinity, bits are places. -/
theorem rank?_eq_toNat_toBits {value : Float} (le : value.toBits.toNat ≤ 0x3FF0000000000000) :
    rank? value = some (value.toBits.toNat : Int) := by
  have isNumber : value.isNaN = false := by
    rw [Float.isNaN_eq_decide_eq_nan, decide_eq_false_iff_not]
    rintro rfl
    exact absurd le (by decide)
  have size := toNat_toBits value
  have positive : isNegative value = false := by
    by_contra negative
    rw [if_pos (by simpa using negative)] at size
    omega
  rw [positive, if_neg Bool.false_ne_true] at size
  rw [rank?, isNumber, if_neg Bool.false_ne_true, positive, size]
  rfl

theorem rank?_nothing : rank? (nearestQuotient 0 1) = some 0 := by
  decide

theorem rank?_certainty : rank? (nearestQuotient 1 1) = some 0x3FF0000000000000 := by
  decide

theorem isShare_of_toNat_toBits_le {value : Float}
    (le : value.toBits.toNat ≤ 0x3FF0000000000000) : Scale.isShare value = true := by
  have isRank := rank?_eq_toNat_toBits le
  exact Bool.and_eq_true_iff.mpr
    ⟨atMost_iff.mpr ⟨_, _, rank?_nothing, isRank, Int.natCast_nonneg _⟩,
      atMost_iff.mpr ⟨_, _, isRank, rank?_certainty, Int.ofNat_le.mpr le⟩⟩

/-- The nearest double to a quotient of at most one is a share. -/
theorem isShare_nearestQuotient {numerator denominator : Nat} (positive : 0 < denominator)
    (le : numerator ≤ denominator) :
    Scale.isShare (nearestQuotient numerator denominator) = true := by
  have log : numerator.log2 ≤ denominator.log2 := by
    simpa only [Nat.log2_eq_log_two] using Nat.log_mono_right le
  obtain ⟨shift, isShift, many⟩ : ∃ shift : Nat,
      (66 : Int) + denominator.log2 - numerator.log2 = shift ∧ 66 ≤ shift :=
    ⟨66 + denominator.log2 - numerator.log2, by omega, by omega⟩
  have isDown : -((shift : Int) + 1) < 0 := by omega
  have down : (-((shift : Int) + 1)).natAbs = shift + 1 := by omega
  have undone : (-(shift : Int)).toNat = 0 := by omega
  simp only [nearestQuotient, isShift, nearestScaled, if_pos isDown, down, Int.toNat_natCast,
    undone, Nat.pow_eq, Nat.pow_zero, Nat.mul_one]
  have cut : 2 * (numerator * 2 ^ shift / denominator) +
      (if numerator * 2 ^ shift % denominator = 0 then 0 else 1) ≤ 2 ^ (shift + 1) := by
    rw [Nat.pow_succ]
    rcases quotient_lt_or_eq positive le shift with below | ⟨reached, nothing⟩
    · split <;> omega
    · rw [reached, if_pos nothing]
      omega
  apply isShare_of_toNat_toBits_le
  rw [Float.ofScientific, dif_neg (by omega)]
  exact toNat_toBits_pack_le (isShare_ofScientific cut (by omega))

end Number

end Marginalia
