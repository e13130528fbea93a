import Mathlib.Tactic.Common
import Marginalia.Number.Binary

/-!
# The order of doubles

Comparing doubles compares their places, so that all doubles that have a place are in one order.
Doubles of one place are the same, except for the two zeros.
-/

namespace Marginalia

namespace Number

variable {left middle right : Float}

theorem rank?_eq_none_iff {value : Float} : rank? value = none ↔ value.isNaN = true := by
  simp [rank?]

theorem atMost_iff : atMost left right = true ↔
    ∃ low high, rank? left = some low ∧ rank? right = some high ∧ low ≤ high := by
  rw [atMost]
  cases rank? left <;> cases rank? right <;> simp

theorem below_iff : below left right = true ↔
    ∃ low high, rank? left = some low ∧ rank? right = some high ∧ low < high := by
  rw [below]
  cases rank? left <;> cases rank? right <;> simp

theorem atMost_of_below (stronger : below left right = true) : atMost left right = true := by
  obtain ⟨low, high, isLow, isHigh, lt⟩ := below_iff.mp stronger
  exact atMost_iff.mpr ⟨low, high, isLow, isHigh, Int.le_of_lt lt⟩

theorem below_of_atMost_of_below (first : atMost left middle = true)
    (second : below middle right = true) : below left right = true := by
  obtain ⟨low, between, isLow, isBetween, le⟩ := atMost_iff.mp first
  obtain ⟨_, high, isSame, isHigh, lt⟩ := below_iff.mp second
  obtain rfl := Option.some.inj (isBetween.symm.trans isSame)
  exact below_iff.mpr ⟨low, high, isLow, isHigh, Int.lt_of_le_of_lt le lt⟩

theorem below_of_below_of_atMost (first : below left middle = true)
    (second : atMost middle right = true) : below left right = true := by
  obtain ⟨low, between, isLow, isBetween, lt⟩ := below_iff.mp first
  obtain ⟨_, high, isSame, isHigh, le⟩ := atMost_iff.mp second
  obtain rfl := Option.some.inj (isBetween.symm.trans isSame)
  exact below_iff.mpr ⟨low, high, isLow, isHigh, Int.lt_of_lt_of_le lt le⟩

theorem below_trans (first : below left middle = true) (second : below middle right = true) :
    below left right = true :=
  below_of_atMost_of_below (atMost_of_below first) second

theorem not_below_of_atMost (le : atMost left right = true) : ¬below right left = true := by
  obtain ⟨low, high, isLow, isHigh, le⟩ := atMost_iff.mp le
  simpa [below, isLow, isHigh] using le

theorem atMost_of_not_below (leftRanked : (rank? left).isSome = true)
    (rightRanked : (rank? right).isSome = true) (weaker : below left right = false) :
    atMost right left = true := by
  obtain ⟨low, isLow⟩ := Option.isSome_iff_exists.mp leftRanked
  obtain ⟨high, isHigh⟩ := Option.isSome_iff_exists.mp rightRanked
  simpa [below, atMost, isLow, isHigh] using weaker

/-- What has a place stands below one of two numbers that stand below each other, or above the
other. -/
theorem not_below_trans (ranked : (rank? middle).isSome = true)
    (first : below left middle = false) (second : below middle right = false) :
    below left right = false := by
  rw [Bool.eq_false_iff] at first ⊢
  intro stronger
  obtain ⟨low, high, isLow, isHigh, -⟩ := below_iff.mp stronger
  have weakly := atMost_of_not_below ranked (Option.isSome_of_eq_some isHigh) second
  exact first (below_of_below_of_atMost stronger weakly)

/-! ## Places and bits -/

/-- A double has a bit for the sign and the others for the size. -/
theorem toNat_toBits (value : Float) :
    value.toBits.toNat = (value.toBits &&& 0x7FFFFFFFFFFFFFFF).toNat +
      if isNegative value then 0x8000000000000000 else 0 := by
  have size : (value.toBits &&& 0x7FFFFFFFFFFFFFFF).toNat = value.toBits.toNat % 2 ^ 63 :=
    Nat.and_two_pow_sub_one_eq_mod value.toBits.toNat 63
  have sign : isNegative value = true ↔ value.toBits.toNat / 2 ^ 63 = 1 := by
    rw [isNegative, decide_eq_true_eq, ← UInt64.toNat_inj, UInt64.toNat_shiftRight,
      Nat.shiftRight_eq_div_pow]
    rfl
  have bounded : value.toBits.toNat < 2 ^ 64 := value.toBits.toNat_lt
  rw [size]
  by_cases negative : isNegative value = true
  · have top := sign.mp negative
    rw [if_pos negative]
    omega
  · have low := mt sign.mpr negative
    rw [if_neg negative]
    omega

/-- The same number: the same double, or two zeros. -/
def AreSame (left right : Float) : Prop :=
  left.toBits = right.toBits ∨ rank? left = some 0 ∧ rank? right = some 0

theorem areSame_of_rank? {place : Int} (isLeft : rank? left = some place)
    (isRight : rank? right = some place) : AreSame left right := by
  by_cases zero : place = 0
  · exact .inr ⟨zero ▸ isLeft, zero ▸ isRight⟩
  · refine .inl (UInt64.toNat_inj.mp ?_)
    simp only [rank?, Option.ite_none_left_eq_some, Option.some_inj] at isLeft isRight
    have leftBits := toNat_toBits left
    have rightBits := toNat_toBits right
    grind

theorem areSame_of_atMost (first : atMost left right = true) (second : atMost right left = true) :
    AreSame left right := by
  obtain ⟨low, high, isLow, isHigh, le⟩ := atMost_iff.mp first
  have ge : high ≤ low := by simpa [atMost, isLow, isHigh] using second
  exact areSame_of_rank? isLow (Int.le_antisymm le ge ▸ isHigh)

/-! ## The two zeros -/

/-- The two zeros are the doubles without any bit besides the sign. -/
theorem toBits_of_rank?_zero {value : Float} (zero : rank? value = some 0) :
    value.toBits = 0 ∨ value.toBits = 0x8000000000000000 := by
  have bits := toNat_toBits value
  have size : (value.toBits &&& 0x7FFFFFFFFFFFFFFF).toNat = 0 := by
    simp only [rank?, Option.ite_none_left_eq_some, Option.some_inj] at zero
    grind
  rw [size, Nat.zero_add] at bits
  split at bits
  · exact .inr (UInt64.toNat_inj.mp bits)
  · exact .inl (UInt64.toNat_inj.mp bits)

theorem isInfinite_of_rank?_zero {value : Float} (zero : rank? value = some 0) :
    isInfinite value = false := by
  rcases toBits_of_rank?_zero zero with bits | bits <;> rw [isInfinite, bits] <;> decide

theorem truncate_of_rank?_zero {value : Float} (zero : rank? value = some 0) :
    truncate value = 0 := by
  have none : (Binary.ofBits value.toBits).mantissa = 0 := by
    rcases toBits_of_rank?_zero zero with bits | bits <;> rw [bits] <;> decide
  simp [truncate, none]

theorem AreSame.isInfinite_eq (same : AreSame left right) : isInfinite left = isInfinite right := by
  rcases same with bits | ⟨isLeft, isRight⟩
  · rw [isInfinite, isInfinite, bits]
  · rw [isInfinite_of_rank?_zero isLeft, isInfinite_of_rank?_zero isRight]

theorem AreSame.truncate_eq (same : AreSame left right) : truncate left = truncate right := by
  rcases same with bits | ⟨isLeft, isRight⟩
  · rw [truncate, truncate, isNegative, isNegative, bits]
  · rw [truncate_of_rank?_zero isLeft, truncate_of_rank?_zero isRight]

end Number

end Marginalia
