import Mathlib
import Marginalia.Text.Lowercase

/-!
# Lower-casing twice

The small letters of a run of capitals lie between two bounds, and no run maps a number between
them: it lies outside of the bounds, or takes every other number and passes the small letters by.
So a small letter is not mapped again, and lower-casing a text a second time changes nothing.
-/

namespace Marginalia

namespace Text

/-- The small letter of the first capital. -/
def CaseRun.lowest (run : CaseRun) : Nat := (run.first + run.shift).toNat

/-- The small letter of the last capital. -/
def CaseRun.highest (run : CaseRun) : Nat := (run.last + run.shift).toNat

/-- Whether a run has no two neighbours among its capitals. -/
def CaseRun.isSparse (run : CaseRun) : Bool := run.step == 2 || run.first == run.last

/-- No run maps a number between two bounds, or one at an even distance from the lower bound where
only such are asked for. -/
def spares (sparse : Bool) (low high : Nat) : List CaseRun → Bool
  | [] => true
  | run :: runs =>
      if high < run.first then true
      else
        (run.last < low ||
            sparse && run.step == 2 && run.first ≤ low && (low - run.first) % 2 == 1) &&
          spares sparse low high runs

theorem lowerCode_of_spares {sparse : Bool} {low high code : Nat} {runs : List CaseRun}
    (spared : spares sparse low high runs = true) (atLeast : low ≤ code) (atMost : code ≤ high)
    (even : sparse = true → (code - low) % 2 = 0) : lowerCode runs code = code := by
  induction runs with
  | nil => rfl
  | cons run runs induct =>
      rw [lowerCode]
      split
      · rfl
      · rename_i reached
        rw [spares, if_neg (by omega)] at spared
        simp only [Bool.and_eq_true, Bool.or_eq_true, decide_eq_true_eq, beq_iff_eq] at spared
        obtain ⟨outside | ⟨⟨⟨isSparse, double⟩, begun⟩, odd⟩, later⟩ := spared
        · rw [if_neg]
          · exact induct later
          · simp only [Bool.and_eq_true, decide_eq_true_eq, not_and]
            omega
        · have isEven := even isSparse
          rw [if_neg]
          · exact induct later
          · simp only [Bool.and_eq_true, decide_eq_true_eq, not_and, double]
            omega

theorem lowerCode_cases (runs : List CaseRun) (code : Nat) :
    lowerCode runs code = code ∨
      ∃ run ∈ runs, run.first ≤ code ∧ code ≤ run.last ∧ (code - run.first) % run.step = 0 ∧
        lowerCode runs code = (code + run.shift).toNat := by
  induction runs with
  | nil => exact .inl rfl
  | cons run runs induct =>
      rw [lowerCode]
      split
      · exact .inl rfl
      · split
        · rename_i reached mapped
          simp only [Bool.and_eq_true, decide_eq_true_eq] at mapped
          exact .inr ⟨run, List.mem_cons_self, by omega, mapped.1, mapped.2, rfl⟩
        · rcases induct with same | ⟨other, isRun, mapped⟩
          · exact .inl same
          · exact .inr ⟨other, List.mem_cons_of_mem run isRun, mapped⟩

theorem spares_caseRuns :
    (caseRuns.all fun run =>
      0 ≤ run.first + run.shift && spares run.isSparse run.lowest run.highest caseRuns) = true := by
  decide +kernel

/-- A small letter has no other small letter. -/
theorem lowerCode_lowerCode (code : Nat) :
    lowerCode caseRuns (lowerCode caseRuns code) = lowerCode caseRuns code := by
  rcases lowerCode_cases caseRuns code with same | ⟨run, isRun, least, most, stepped, mapped⟩
  · rw [same, same]
  · have spared := List.all_eq_true.mp spares_caseRuns run isRun
    rw [Bool.and_eq_true, decide_eq_true_eq] at spared
    obtain ⟨positive, spared⟩ := spared
    rw [mapped]
    apply lowerCode_of_spares spared
    · rw [CaseRun.lowest]
      omega
    · rw [CaseRun.highest]
      omega
    · intro sparse
      rw [CaseRun.isSparse, Bool.or_eq_true, beq_iff_eq, beq_iff_eq] at sparse
      have distance : (code + run.shift).toNat - run.lowest = code - run.first := by
        rw [CaseRun.lowest]
        omega
      rw [distance]
      rcases sparse with double | single
      · rwa [double] at stepped
      · omega

theorem lowerChar_lowerChar (char : Char) : lowerChar (lowerChar char) = lowerChar char := by
  rw [lowerChar, lowerChar, Char.toNat_ofNat]
  split
  · rw [lowerCode_lowerCode]
  · rename_i invalid
    have null : Char.ofNat (lowerCode caseRuns char.toNat) = Char.ofNat 0 := by
      rw [Char.ofNat, dif_neg invalid]
      rfl
    rw [null]
    rfl

/-- No run maps a capital to the dotted capital I. -/
theorem highest_lt_or_lt_lowest :
    (caseRuns.all fun run => run.highest < 0x130 || 0x130 < run.lowest) = true := by
  decide +kernel

theorem lowerChar_ne_dotted {char : Char} (undotted : char ≠ '\u0130') :
    lowerChar char ≠ '\u0130' := by
  intro dotted
  have code : lowerCode caseRuns char.toNat = 0x130 := by
    have sameCode := congrArg Char.toNat dotted
    rw [lowerChar, Char.toNat_ofNat] at sameCode
    split at sameCode
    · exact sameCode
    · exact absurd sameCode (by decide)
  rcases lowerCode_cases caseRuns char.toNat with same | ⟨run, isRun, least, most, -, mapped⟩
  · rw [same] at code
    exact undotted (Char.toNat_inj.mp code)
  · have apart := List.all_eq_true.mp highest_lt_or_lt_lowest run isRun
    rw [Bool.or_eq_true, decide_eq_true_eq, decide_eq_true_eq, CaseRun.highest,
      CaseRun.lowest] at apart
    omega

/-- A character that lower-casing leaves as it is, wherever it stands. -/
def IsSmall (char : Char) : Prop :=
  lowerChar char = char ∧ char ≠ '\u03a3' ∧ char ≠ '\u0130'

theorem isSmall_lowerChar {char : Char} (undotted : char ≠ '\u0130') :
    IsSmall (lowerChar char) := by
  refine ⟨lowerChar_lowerChar char, ?_, lowerChar_ne_dotted undotted⟩
  intro sigma
  have again := lowerChar_lowerChar char
  rw [sigma] at again
  exact absurd again (by decide)

theorem isSmall_of_mem_lowerAfter {passed text : Text} :
    ∀ char ∈ lowerAfter passed text, IsSmall char := by
  induction text generalizing passed with
  | nil => simp [lowerAfter]
  | cons char rest induct =>
      rw [lowerAfter]
      simp only [List.mem_append]
      rintro small (isFirst | later)
      · split at isFirst
        · rw [List.mem_singleton] at isFirst
          split at isFirst
          · exact isFirst ▸ (by unfold IsSmall; decide)
          · exact isFirst ▸ (by unfold IsSmall; decide)
        · split at isFirst
          · simp only [List.mem_cons, List.not_mem_nil, or_false] at isFirst
            rcases isFirst with rfl | rfl
            · unfold IsSmall
              decide
            · unfold IsSmall
              decide
          · rename_i undotted
            rw [List.mem_singleton] at isFirst
            exact isFirst ▸ isSmall_lowerChar undotted
      · exact induct small later

theorem lowerAfter_of_isSmall {text : Text} (small : ∀ char ∈ text, IsSmall char)
    (passed : Text) : lowerAfter passed text = text := by
  induction text generalizing passed with
  | nil => rfl
  | cons char rest induct =>
      obtain ⟨⟨same, unlike, undotted⟩, others⟩ := List.forall_mem_cons.mp small
      rw [lowerAfter, if_neg unlike, if_neg undotted, same, induct others]
      rfl

/-- Lower-casing a text a second time changes nothing. -/
theorem lowercase_lowercase (text : Text) : lowercase (lowercase text) = lowercase text :=
  lowerAfter_of_isSmall isSmall_of_mem_lowerAfter []

end Text

end Marginalia
