import Mathlib.Algebra.Group.Nat.Defs
import Mathlib.Data.List.TakeWhile
import Mathlib.Tactic.Common
import Marginalia.Text.Numeral

/-!
# Written integers read back

An integer of at most `digitLimit` digits is read from what was written for it, and no integer that
is read has more.  The digits that are written are those of one script; the reader knows more.
-/

namespace Marginalia

namespace Text

/-- An integer whose digits are few enough to be read. -/
def IsReadable (value : Int) : Prop :=
  (Nat.toDigits 10 value.natAbs).length ≤ digitLimit

instance (value : Int) : Decidable (IsReadable value) :=
  inferInstanceAs (Decidable (_ ≤ _))

theorem isReadable_iff_natAbs_lt (value : Int) :
    IsReadable value ↔ value.natAbs < 10 ^ digitLimit :=
  Nat.length_toDigits_le_iff (by decide) (by decide)

/-- What is written is not longer than what is read. -/
theorem isWritable_iff_isReadable (value : Int) : isWritable value = true ↔ IsReadable value :=
  decide_eq_true_iff

/-! ## What is written -/

theorem isDigit_or_eq_minus_of_mem_ofInteger {value : Int} {char : Char}
    (isIn : char ∈ ofInteger value) : char.isDigit = true ∨ char = '-' := by
  have ofDigits {size : Nat} (isDigit : char ∈ Nat.toDigits 10 size) : char.isDigit = true :=
    Nat.isDigit_of_mem_toDigits (by decide) (by decide) isDigit
  unfold ofInteger at isIn
  split at isIn
  case isTrue =>
    rcases List.mem_cons.mp isIn with rfl | isIn
    · exact Or.inr rfl
    · exact Or.inl (ofDigits isIn)
  case isFalse => exact Or.inl (ofDigits isIn)

theorem ofInteger_ne_nil (value : Int) : ofInteger value ≠ [] := by
  unfold ofInteger
  split <;> simp

/-- What is written for an integer holds visible ASCII characters only. -/
theorem toNat_of_mem_ofInteger {value : Int} {char : Char} (isIn : char ∈ ofInteger value) :
    0x2D ≤ char.toNat ∧ char.toNat ≤ 0x39 ∧ char.toNat ≠ 0x2E ∧ char.toNat ≠ 0x2F := by
  rcases isDigit_or_eq_minus_of_mem_ofInteger isIn with digit | rfl
  · have bounds := Char.isDigit_iff_toNat.mp digit
    simp only [Char.reduceToNat] at bounds
    omega
  · decide

private theorem isBlankChar_eq_false_of_toNat {char : Char} (low : 0x20 < char.toNat)
    (high : char.toNat < 0x85) : isBlankChar char = false := by
  have notControl : ¬char.toNat < 0x09 ∧ ¬char.toNat ≤ 0x0D := by omega
  have notSeparator : ¬char.toNat < 0x1C ∧ ¬char.toNat ≤ 0x20 := by omega
  simp [isBlankChar, blankRanges, covers, notControl, notSeparator, high]

theorem isBlankChar_of_mem_ofInteger {value : Int} {char : Char} (isIn : char ∈ ofInteger value) :
    isBlankChar char = false := by
  have bounds := toNat_of_mem_ofInteger isIn
  exact isBlankChar_eq_false_of_toNat (by omega) (by omega)

/-! ## Reading -/

private theorem trimNumeral_of_visible {text : Text}
    (visible : ∀ char ∈ text, isBlankChar char = false) : trimNumeral text = text := by
  have kept (part : Text) (visible : ∀ char ∈ part, isBlankChar char = false) :
      part.dropWhile isNumeralBlank = part := by
    rw [List.dropWhile_eq_self_iff]
    intro nonempty
    simp [isNumeralBlank, visible _ (List.getElem_mem nonempty)]
  rw [trimNumeral, kept text visible, kept text.reverse (by simpa using visible),
    List.reverse_reverse]

private theorem digitValue?_of_isDigit {char : Char} (digit : char.isDigit = true) :
    digitValue? char = some (char.toNat - 48) := by
  have bounds := Char.isDigit_iff_toNat.mp digit
  simp only [Char.reduceToNat] at bounds
  have inFirst : (decide (0x30 ≤ char.toNat) && decide (char.toNat < 0x30 + 10)) = true := by
    simp
    omega
  have found : (digitZeros.find? fun first =>
      first ≤ char.toNat && char.toNat < first + 10) = some 0x30 :=
    List.find?_cons_of_pos inFirst
  rw [digitValue?, found]
  rfl

/-- The leading character decides, unless it is an underscore. -/
private theorem moreDigits_cons {char : Char} {rest : Text}
    (notLast : char = '_' → rest = [] → False)
    (notJoined : ∀ next more, char = '_' → rest = next :: more → False) :
    moreDigits (char :: rest) =
      match digitValue? char with
      | some digit => (moreDigits rest).map fun (digits, tail) => (digit :: digits, tail)
      | none => some ([], char :: rest) := by
  cases rest with
  | nil => cases value : digitValue? char <;> simp [moreDigits, value]
  | cons next more => cases value : digitValue? char <;> simp [moreDigits, value]

private theorem moreDigits_of_isDigit {text : Text} (digits : ∀ char ∈ text, char.isDigit = true) :
    moreDigits text = some (text.map (·.toNat - 48), []) := by
  induction text with
  | nil => rfl
  | cons char rest induct =>
      have first : char.isDigit = true := digits char (by simp)
      have notUnderscore : char ≠ '_' := by
        rintro rfl
        exact absurd first (by decide)
      rw [moreDigits_cons (fun same => absurd same notUnderscore)
        (fun _ _ same => absurd same notUnderscore)]
      rw [digitValue?_of_isDigit first, induct fun other isIn => digits other (by simp [isIn])]
      rfl

private theorem ofDigits_map_toNat (text : Text) :
    ofDigits 10 (text.map (·.toNat - 48)) = Nat.ofDigitChars 10 text 0 := by
  rw [ofDigits, List.foldl_map, Nat.ofDigitChars_eq_foldl]
  simp only [Nat.mul_comm 10]
  rfl

private theorem leadingDigits_toDigits (size : Nat) :
    leadingDigits (Nat.toDigits 10 size) =
      some ((Nat.toDigits 10 size).map (·.toNat - 48), []) := by
  have digits (char : Char) (isIn : char ∈ Nat.toDigits 10 size) : char.isDigit = true :=
    Nat.isDigit_of_mem_toDigits (by decide) (by decide) isIn
  rw [leadingDigits]
  · exact moreDigits_of_isDigit digits
  · intro rest same
    exact Nat.underscore_not_in_toDigits (n := size) (by simp [same])

private theorem splitSign_ofInteger (value : Int) :
    splitSign (ofInteger value) = (decide (value < 0), Nat.toDigits 10 value.natAbs) := by
  unfold ofInteger
  by_cases negative : value < 0
  · simp [negative, splitSign]
  · have digits (char : Char) (isIn : char ∈ Nat.toDigits 10 value.natAbs) :
        char.isDigit = true := Nat.isDigit_of_mem_toDigits (by decide) (by decide) isIn
    rw [if_neg negative, splitSign]
    · simp [negative]
    · intro rest same
      exact absurd (digits '-' (by simp [same])) (by decide)
    · intro rest same
      exact absurd (digits '+' (by simp [same])) (by decide)

/-- An integer that is not too long is read from what was written for it. -/
theorem readInteger_ofInteger {value : Int} (readable : IsReadable value) :
    readInteger (ofInteger value) = .ok value := by
  have visible : ∀ char ∈ ofInteger value, isBlankChar char = false :=
    fun _ isIn => isBlankChar_of_mem_ofInteger isIn
  have short : ¬digitLimit < (Nat.toDigits 10 value.natAbs).length := Nat.not_lt.mpr readable
  unfold readInteger
  simp only [trimNumeral_of_visible visible, splitSign_ofInteger, leadingDigits_toDigits,
    List.length_map, short, if_false, ofDigits_map_toNat, Nat.ofDigitChars_ten_toDigits]
  have complete : ¬((((Nat.toDigits 10 value.natAbs).map (·.toNat - 48)).isEmpty ||
      !([] : Text).isEmpty) = true) := by
    simp [Nat.toDigits_ne_nil]
  rw [if_neg complete]
  congr 1
  by_cases negative : value < 0
  · rw [if_pos (decide_eq_true negative)]
    omega
  · rw [if_neg (by simpa using negative)]
    omega

/-! ## What is read -/

private theorem lt_ten_of_digitValue? {char : Char} {digit : Nat}
    (isDigit : digitValue? char = some digit) : digit < 10 := by
  obtain ⟨first, found, rfl⟩ := Option.map_eq_some_iff.mp isDigit
  have bounds := List.find?_some found
  simp only [Bool.and_eq_true, decide_eq_true_eq] at bounds
  omega

private theorem lt_ten_of_moreDigits {text tail : Text} {digits : List Nat}
    (found : moreDigits text = some (digits, tail)) : ∀ digit ∈ digits, digit < 10 := by
  induction text using moreDigits.induct generalizing digits with
  | case1 => simp_all [moreDigits]
  | case2 => simp [moreDigits] at found
  | case3 char rest digit isDigit induct =>
      simp only [moreDigits, isDigit, Option.map_eq_some_iff] at found
      obtain ⟨⟨more, _⟩, inRest, same⟩ := found
      obtain ⟨rfl, rfl⟩ := Prod.mk.inj same
      exact List.forall_mem_cons.mpr ⟨lt_ten_of_digitValue? isDigit, induct inRest⟩
  | case4 char rest notDigit => simp [moreDigits, notDigit] at found
  | case5 char rest notLast notJoined digit isDigit induct =>
      simp only [moreDigits_cons notLast notJoined, isDigit, Option.map_eq_some_iff] at found
      obtain ⟨⟨more, _⟩, inRest, same⟩ := found
      obtain ⟨rfl, rfl⟩ := Prod.mk.inj same
      exact List.forall_mem_cons.mpr ⟨lt_ten_of_digitValue? isDigit, induct inRest⟩
  | case6 char rest notLast notJoined notDigit =>
      simp only [moreDigits_cons notLast notJoined, notDigit, Option.some.injEq,
        Prod.mk.injEq] at found
      simp [← found.1]

private theorem lt_ten_of_leadingDigits {text tail : Text} {digits : List Nat}
    (found : leadingDigits text = some (digits, tail)) : ∀ digit ∈ digits, digit < 10 := by
  unfold leadingDigits at found
  split at found
  · simp at found
  · exact lt_ten_of_moreDigits found

theorem ofDigits_lt (digits : List Nat) (small : ∀ digit ∈ digits, digit < 10) :
    ofDigits 10 digits < 10 ^ digits.length := by
  have bound (value : Nat) :
      digits.foldl (fun value digit => value * 10 + digit) value <
        10 ^ digits.length * (value + 1) := by
    induction digits generalizing value with
    | nil => simp
    | cons digit digits induct =>
        have first : digit < 10 := small digit (by simp)
        have rest := induct (fun other isIn => small other (by simp [isIn])) (value * 10 + digit)
        calc
          _ < 10 ^ digits.length * (value * 10 + digit + 1) := rest
          _ ≤ 10 ^ digits.length * (10 * (value + 1)) := Nat.mul_le_mul_left _ (by omega)
          _ = 10 ^ (digit :: digits).length * (value + 1) := by
            rw [List.length_cons, Nat.pow_succ, Nat.mul_assoc]
  simpa [ofDigits] using bound 0

/-- No integer that is read is too long to be read back. -/
theorem isReadable_of_readInteger {text : Text} {value : Int}
    (found : readInteger text = .ok value) : IsReadable value := by
  unfold readInteger at found
  generalize splitSign (trimNumeral text) = signed at found
  obtain ⟨negative, body⟩ := signed
  cases leading : leadingDigits body with
  | none => simp [leading] at found
  | some result =>
      obtain ⟨digits, rest⟩ := result
      simp only [leading] at found
      split at found
      case isTrue => simp at found
      case isFalse short =>
        split at found
        case isTrue => simp at found
        case isFalse =>
          have small := ofDigits_lt digits (lt_ten_of_leadingDigits leading)
          have bound : 10 ^ digits.length ≤ 10 ^ digitLimit :=
            Nat.pow_le_pow_right (by decide) (Nat.not_lt.mp short)
          rw [isReadable_iff_natAbs_lt]
          have size : value.natAbs = ofDigits 10 digits := by
            cases negative <;> simp at found <;> omega
          omega

end Text

end Marginalia
