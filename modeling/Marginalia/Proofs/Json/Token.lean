import Mathlib.Tactic.Common
import Marginalia.Json.Reader
import Marginalia.Proofs.Except

/-!
# Words, numbers and quoted texts in front of other text

A quoted text is read up to its closing quote, whatever stands behind it.  A word or a number is
read as far as it goes, so it is read again where it ended before at a character that goes on with
none.
-/

namespace Marginalia

namespace Json

/-- The characters at which a word or a number ends. -/
def isDelimiter (char : Char) : Bool :=
  isSpace char || char = ',' || char = '\x7d' || char = ']'

/-- A text that begins with a character at which words and numbers end. -/
def IsDelimited (text : Text) : Prop :=
  ∃ char ∈ text.head?, isDelimiter char = true

theorem IsDelimited.ne_nil {text : Text} (delimited : IsDelimited text) : text ≠ [] := by
  rintro rfl
  obtain ⟨char, isFirst, -⟩ := delimited
  cases isFirst

theorem IsDelimited.append {text : Text} (delimited : IsDelimited text) (more : Text) :
    IsDelimited (text ++ more) := by
  obtain ⟨char, isFirst, delimits⟩ := delimited
  refine ⟨char, ?_, delimits⟩
  rw [List.head?_append, isFirst]
  rfl

theorem IsDelimited.head?_ne {text : Text} (delimited : IsDelimited text) {char : Char}
    (other : isDelimiter char = false) : text.head? ≠ some char := by
  intro isFirst
  obtain ⟨first, alsoFirst, delimits⟩ := delimited
  obtain rfl : first = char := Option.some.inj (alsoFirst.symm.trans isFirst)
  simp [other] at delimits

/-! ## The space between tokens -/

theorem skipSpace_append_of_ne_nil {text : Text} (left : skipSpace text ≠ []) (more : Text) :
    skipSpace (text ++ more) = skipSpace text ++ more := by
  rw [skipSpace] at left
  rw [skipSpace, List.dropWhile_append, if_neg (by simpa using left), skipSpace]

theorem skipSpace_append_of_eq_nil {text : Text} (none : skipSpace text = []) (more : Text) :
    skipSpace (text ++ more) = skipSpace more := by
  rw [skipSpace] at none
  rw [skipSpace, List.dropWhile_append, none]
  rfl

/-- What stands before a delimiter ends there, also when there is space in between. -/
theorem isDelimited_of_skipSpace {text rest : Text} {char : Char}
    (left : skipSpace text = char :: rest) (delimits : isDelimiter char = true) :
    IsDelimited text := by
  cases text with
  | nil => cases left
  | cons first text =>
      refine ⟨first, rfl, ?_⟩
      by_cases space : isSpace first = true
      · simp [isDelimiter, space]
      · rw [skipSpace, List.dropWhile_cons_of_neg space] at left
        rwa [List.head_eq_of_cons_eq left]

/-! ## Quoted texts -/

/-- A character is put in front of whatever is read. -/
theorem withHead_of_ok {char : Char} {result other : Partial Text} {content rest left : Text}
    (isRead : withHead char result = .ok (content, rest))
    (again : ∀ {tail : Text}, result = .ok (tail, rest) → other = .ok (tail, left)) :
    withHead char other = .ok (content, left) := by
  obtain ⟨⟨tail, _⟩, tailRead, same⟩ := map_eq_ok_iff.mp isRead
  obtain ⟨rfl, rfl⟩ := Prod.mk.inj same
  rw [again tailRead]
  rfl

theorem readString_two_units {a b c d : Char} {high : Nat} (isHigh : hexQuad? a b c d = some high)
    (opening : Text) (e f g h next : Char) (tail : Text) :
    readString opening
        ('\\' :: 'u' :: a :: b :: c :: d :: '\\' :: 'u' :: e :: f :: g :: h :: next :: tail) =
      if 0xD800 ≤ high && high < 0xDC00 then
        match hexQuad? e f g h with
        | none => .error (.misread .hexDigits ('u' :: e :: f :: g :: h :: next :: tail))
        | some low =>
            if 0xDC00 ≤ low && low < 0xE000 then
              withHead (Char.ofNat (0x10000 + (high - 0xD800) * 0x400 + (low - 0xDC00)))
                (readString opening (next :: tail))
            else
              withHead (charOf high)
                (readString opening ('\\' :: 'u' :: e :: f :: g :: h :: next :: tail))
      else
        withHead (charOf high)
          (readString opening ('\\' :: 'u' :: e :: f :: g :: h :: next :: tail)) :=
  readString.eq_6 _ _ _ _ _ _ _ _ _ _ _ _ isHigh

theorem readString_plain {char : Char} (noQuote : char ≠ '\x22') (noEscape : char ≠ '\\')
    (printable : ¬char.toNat < 0x20) (opening rest : Text) :
    readString opening (char :: rest) = withHead char (readString opening rest) := by
  rw [readString, if_neg printable]
  · exact noQuote
  · exact fun same _ => noEscape same
  · exact fun _ _ _ _ _ same _ => noEscape same
  · exact fun _ same _ => noEscape same
  · exact fun _ _ same _ => noEscape same

/-- A quoted text does not end within an escaped unit, so where the unit stands in a longer text it
stands in what was read. -/
theorem isUnit_of_append {opening rest content left : Text}
    (isRead : readString opening rest = .ok (content, left)) {more : Text}
    {e f g h next : Char} {tail : Text}
    (isUnit : rest ++ more = '\\' :: 'u' :: e :: f :: g :: h :: next :: tail) :
    ∃ back, rest = '\\' :: 'u' :: e :: f :: g :: h :: next :: back := by
  match rest with
  | [] => cases isRead
  | [_] =>
      obtain ⟨rfl, -⟩ := List.cons_eq_cons.mp isUnit
      cases isRead
  | [_, _] | [_, _, _] | [_, _, _, _] | [_, _, _, _, _] =>
      simp only [List.cons_append, List.cons.injEq] at isUnit
      obtain ⟨rfl, rfl, -⟩ := isUnit
      cases isRead
  | [_, _, a, b, c, d] =>
      simp only [List.cons_append, List.cons.injEq] at isUnit
      obtain ⟨rfl, rfl, -⟩ := isUnit
      cases found : hexQuad? a b c d with
      | none => simp [readString, found] at isRead
      | some unit => simp [readString.eq_5 _ _ _ _ _ _ found] at isRead
  | _ :: _ :: _ :: _ :: _ :: _ :: _ :: back =>
      simp only [List.cons_append, List.cons.injEq] at isUnit
      obtain ⟨rfl, rfl, rfl, rfl, rfl, rfl, rfl, -⟩ := isUnit
      exact ⟨back, rfl⟩

theorem readString_append {opening text content rest : Text}
    (isRead : readString opening text = .ok (content, rest)) (other more : Text) :
    readString other (text ++ more) = .ok (content, rest ++ more) := by
  -- All cases that are not named are refusals.
  fun_induction readString opening text generalizing content rest
  case case2 =>
    obtain ⟨rfl, rfl⟩ := Prod.mk.inj (Except.ok.inj isRead)
    rfl
  case case7 isHigh high low isLow second induct =>
    simp only [List.cons_append, readString_two_units isHigh, if_pos high, isLow, if_pos second]
    exact withHead_of_ok isRead induct
  case case8 isHigh high low isLow second induct =>
    simp only [List.cons_append, readString_two_units isHigh, if_pos high, isLow, if_neg second]
    exact withHead_of_ok isRead induct
  case case9 isHigh high induct =>
    simp only [List.cons_append, readString_two_units isHigh, if_neg high]
    exact withHead_of_ok isRead induct
  case case10 notEmpty noUnit isCode induct =>
    simp only [List.cons_append]
    rw [readString.eq_7 _ _ _ _ _ _ _ isCode]
    · exact withHead_of_ok isRead induct
    · exact fun empty => notEmpty (List.append_eq_nil_iff.mp empty).1
    · intro e f g h next back isUnit
      obtain ⟨⟨tail, left⟩, tailRead, -⟩ := map_eq_ok_iff.mp isRead
      obtain ⟨front, isFront⟩ := isUnit_of_append tailRead isUnit
      exact noUnit e f g h next front isFront
  case case12 noUnit char isEscaped induct =>
    rw [List.cons_append, List.cons_append, readString, isEscaped]
    · exact withHead_of_ok isRead induct
    · exact fun _ _ _ _ _ same _ => noUnit same
    · exact noUnit
  case case15 char letters noQuote lone _ _ noEscape printable induct =>
    have noBackslash : char ≠ '\\' := by
      intro same
      cases letters with
      | nil => exact lone same rfl
      | cons letter letters => exact noEscape letter letters same rfl
    rw [List.cons_append, readString_plain noQuote noBackslash printable]
    exact withHead_of_ok isRead induct
  all_goals cases isRead

/-- Reading a quoted text takes characters. -/
theorem length_lt_of_readString {opening text content rest : Text}
    (isRead : readString opening text = .ok (content, rest)) : rest.length < text.length := by
  -- All cases that are not named are refusals.
  fun_induction readString opening text generalizing content rest
  case case2 =>
    obtain ⟨rfl, rfl⟩ := Prod.mk.inj (Except.ok.inj isRead)
    simp
  case case7 induct | case8 induct | case9 induct | case10 induct | case12 induct | case15 induct =>
    obtain ⟨⟨tail, left⟩, tailRead, same⟩ := map_eq_ok_iff.mp isRead
    obtain ⟨-, rfl⟩ := Prod.mk.inj same
    have shorter := induct tailRead
    simp only [List.length_cons] at shorter ⊢
    omega
  all_goals cases isRead

/-! ## Words and numbers -/

theorem ne_nil_of_word {word : Text} {value : Value} (isWord : (word, value) ∈ words) :
    word ≠ [] := by
  simp only [words, List.mem_cons, Prod.mk.injEq, List.not_mem_nil, or_false] at isWord
  rcases isWord with ⟨rfl, -⟩ | ⟨rfl, -⟩ | ⟨rfl, -⟩ | ⟨rfl, -⟩ | ⟨rfl, -⟩ | ⟨rfl, -⟩ <;> simp

theorem readScalar_word {word : Text} {value : Value} (isWord : (word, value) ∈ words)
    (rest : Text) : readScalar (word ++ rest) = .ok (value, rest) := by
  simp only [words, List.mem_cons, Prod.mk.injEq, List.not_mem_nil, or_false] at isWord
  rcases isWord with ⟨rfl, rfl⟩ | ⟨rfl, rfl⟩ | ⟨rfl, rfl⟩ | ⟨rfl, rfl⟩ | ⟨rfl, rfl⟩ | ⟨rfl, rfl⟩ <;>
    rfl

section

variable {text whole places rest : Text}

theorem digits_append (split : digits text = (whole, rest)) (left : rest ≠ []) (more : Text) :
    digits (text ++ more) = (whole, rest ++ more) := by
  obtain ⟨rfl, rfl⟩ := Prod.mk.inj split
  have parts : text.takeWhile Char.isDigit ++ text.dropWhile Char.isDigit = text :=
    List.takeWhile_append_dropWhile
  have shorter : (text.takeWhile Char.isDigit).length ≠ text.length := by
    intro same
    rw [← congrArg List.length parts, List.length_append] at same
    exact left (List.length_eq_zero_iff.mp (by omega))
  rw [digits, List.takeWhile_append, List.dropWhile_append, if_neg shorter,
    if_neg (by simpa using left)]

theorem integerPart?_of_ne_zero (noZero : text.head? ≠ some '0') :
    integerPart? text = if (digits text).1.isEmpty then none else some (digits text) := by
  rw [integerPart?]
  rintro rest rfl
  exact noZero rfl

theorem integerPart?_append (split : integerPart? text = some (whole, rest)) (left : rest ≠ [])
    (more : Text) : integerPart? (text ++ more) = some (whole, rest ++ more) := by
  by_cases zero : text.head? = some '0'
  · obtain ⟨text, rfl⟩ := List.head?_eq_some_iff.mp zero
    obtain ⟨rfl, rfl⟩ := Prod.mk.inj (Option.some.inj split)
    rfl
  · rw [integerPart?_of_ne_zero zero] at split
    split at split
    · cases split
    · rename_i figures
      have isSplit := digits_append (Option.some.inj split) left more
      rw [integerPart?_of_ne_zero, isSplit, if_neg]
      · rwa [Option.some.inj split] at figures
      · cases text with
        | nil => exact absurd rfl figures
        | cons char text => exact zero

theorem fraction_of_ne_point (noPoint : text.head? ≠ some '.') : fraction text = ([], text) := by
  rw [fraction]
  rintro rest rfl
  exact noPoint rfl

theorem fraction_append (split : fraction text = (places, rest)) (left : rest ≠ [])
    (noPoint : rest.head? ≠ some '.') (more : Text) :
    fraction (text ++ more) = (places, rest ++ more) := by
  by_cases point : text.head? = some '.'
  · obtain ⟨text, rfl⟩ := List.head?_eq_some_iff.mp point
    rw [fraction] at split
    split at split
    · obtain ⟨-, rfl⟩ := Prod.mk.inj split
      exact absurd rfl noPoint
    · rename_i figures
      have isSplit := digits_append split left more
      rw [List.cons_append, fraction, isSplit, if_neg]
      rwa [split] at figures
  · rw [fraction_of_ne_point point] at split
    obtain ⟨rfl, rfl⟩ := Prod.mk.inj split
    rw [fraction_of_ne_point]
    rwa [List.head?_append_of_ne_nil _ left]

theorem splitSign_append (nonempty : text ≠ []) (more : Text) :
    Text.splitSign (text ++ more) = ((Text.splitSign text).1, (Text.splitSign text).2 ++ more) := by
  cases text with
  | nil => exact absurd rfl nonempty
  | cons char text =>
      by_cases minus : char = '-'
      · rw [minus]
        rfl
      by_cases plus : char = '+'
      · rw [plus]
        rfl
      simp [Text.splitSign, minus, plus]

theorem exponent?_append {power : Int} (split : exponent? text = some (power, rest))
    (left : rest ≠ []) (more : Text) : exponent? (text ++ more) = some (power, rest ++ more) := by
  cases text with
  | nil => cases split
  | cons letter text =>
      by_cases isLetter : (letter = 'e' || letter = 'E') = true
      · simp only [exponent?, isLetter, if_true, Option.ite_none_left_eq_some, Option.some.injEq,
          Prod.mk.injEq] at split
        obtain ⟨figures, rfl, rfl⟩ := split
        have nonempty : text ≠ [] := by
          rintro rfl
          exact figures rfl
        have isSplit := digits_append (Prod.eta _).symm left more
        simp only [List.cons_append, exponent?, isLetter, if_true, splitSign_append nonempty,
          isSplit, if_neg figures]
      · rw [exponent?, if_neg isLetter] at split
        cases split

theorem exponent?_of_isDelimited (delimited : IsDelimited text) : exponent? text = none := by
  cases text with
  | nil => rfl
  | cons char text =>
    rw [exponent?, if_neg]
    simp only [Bool.or_eq_true, decide_eq_true_eq, not_or]
    constructor
    · rintro rfl
      exact delimited.head?_ne (by decide) rfl
    · rintro rfl
      exact delimited.head?_ne (by decide) rfl

theorem exponent?_head {power : Int} (split : exponent? text = some (power, rest)) :
    text ≠ [] ∧ text.head? ≠ some '.' := by
  cases text with
  | nil => cases split
  | cons letter text =>
      refine ⟨List.cons_ne_nil _ _, ?_⟩
      intro point
      obtain rfl : letter = '.' := Option.some.inj point
      cases split

/-- Split the sign of a number off. -/
def splitMinus : Text → Bool × Text
  | '-' :: rest => (true, rest)
  | text => (false, text)

theorem splitMinus_append (nonempty : text ≠ []) (more : Text) :
    splitMinus (text ++ more) = ((splitMinus text).1, (splitMinus text).2 ++ more) := by
  cases text with
  | nil => exact absurd rfl nonempty
  | cons char text =>
      by_cases minus : char = '-'
      · rw [minus]
        rfl
      · simp [splitMinus, minus]

/-- The parts of a number. -/
structure Numeral where
  /-- Whether a minus opens it. -/
  negative : Bool
  /-- The figures before the point. -/
  whole : Text
  /-- The figures behind the point. -/
  places : Text
  /-- The exponent. -/
  power : Option Int

/-- The number that the parts stand for. -/
def Numeral.value (numeral : Numeral) : Except Fault Value :=
  let values := fun (figures : Text) => figures.map fun char => char.toNat - 48
  match numeral.power with
  | some power =>
      let size := Text.nearestDecimal (values (numeral.whole ++ numeral.places))
        (power - numeral.places.length)
      .ok (.decimal (if numeral.negative then -size else size))
  | none =>
      if numeral.places.isEmpty then
        if Text.digitLimit < numeral.whole.length then
          .error (.numeralTooLong numeral.whole.length)
        else
          let size : Int := Text.ofDigits 10 (values numeral.whole)
          .ok (.integer (if numeral.negative then -size else size))
      else
        let size := Text.nearestDecimal (values (numeral.whole ++ numeral.places))
          (-numeral.places.length)
        .ok (.decimal (if numeral.negative then -size else size))

/-- Split the parts of a number off. -/
def numeral? (text : Text) : Option (Numeral × Text) :=
  let negative := (splitMinus text).1
  (integerPart? (splitMinus text).2).map fun (whole, rest) =>
    let (places, rest) := fraction rest
    match exponent? rest with
    | some (power, rest) => ({ negative, whole, places, power := some power }, rest)
    | none => ({ negative, whole, places, power := none }, rest)

theorem readNumber?_eq (text : Text) :
    readNumber? text =
      (numeral? text).map fun (numeral, rest) => numeral.value.map fun value => (value, rest) := by
  rw [readNumber?.eq_def, numeral?, Option.map_map]
  change Option.map _ (integerPart? (splitMinus text).2) = _
  refine congrArg (fun view => Option.map view _) (funext fun (whole, rest) => ?_)
  simp only [Function.comp_apply]
  cases exponent? (fraction rest).2 with
  | some split => rfl
  | none =>
      simp only [Numeral.value]
      split
      · split <;> rfl
      · rfl

theorem numeral?_append {numeral : Numeral} (split : numeral? text = some (numeral, rest))
    (delimited : IsDelimited rest) (more : Text) :
    numeral? (text ++ more) = some (numeral, rest ++ more) := by
  obtain ⟨⟨whole, afterWhole⟩, isWhole, made⟩ := Option.map_eq_some_iff.mp split
  have nonempty : text ≠ [] := by
    rintro rfl
    cases isWhole
  rcases isFraction : fraction afterWhole with ⟨places, afterPlaces⟩
  -- What follows is the same for both forms of a number once the places are known to end.
  have whole_append (left : afterPlaces ≠ []) :
      integerPart? ((splitMinus text).2 ++ more) = some (whole, afterWhole ++ more) := by
    apply integerPart?_append isWhole
    rintro rfl
    exact left (Prod.mk.inj isFraction).2.symm
  rw [numeral?, splitMinus_append nonempty]
  simp only [isFraction] at made
  cases isPower : exponent? afterPlaces with
  | none =>
      simp only [isPower, Prod.mk.injEq] at made
      obtain ⟨rfl, rfl⟩ := made
      have left := delimited.ne_nil
      simp only [whole_append left, Option.map_some,
        fraction_append isFraction left (delimited.head?_ne (by decide)),
        exponent?_of_isDelimited (delimited.append more)]
  | some split =>
      obtain ⟨power, afterPower⟩ := split
      simp only [isPower, Prod.mk.injEq] at made
      obtain ⟨rfl, rfl⟩ := made
      obtain ⟨left, noPoint⟩ := exponent?_head isPower
      simp only [whole_append left, Option.map_some, fraction_append isFraction left noPoint,
        exponent?_append isPower delimited.ne_nil]

theorem length_digits_le (text : Text) : (digits text).2.length ≤ text.length :=
  (List.dropWhile_suffix _).length_le

theorem length_lt_of_integerPart? (split : integerPart? text = some (whole, rest)) :
    rest.length < text.length := by
  rw [integerPart?.eq_def] at split
  split at split
  · obtain ⟨-, rfl⟩ := Prod.mk.inj (Option.some.inj split)
    simp
  · split at split
    · cases split
    · rename_i nonempty
      have isDigits : digits text = (whole, rest) := Option.some.inj split
      have parts : whole ++ rest = text := by
        obtain ⟨rfl, rfl⟩ := Prod.mk.inj isDigits
        exact List.takeWhile_append_dropWhile
      have positive : 0 < whole.length :=
        List.length_pos_of_ne_nil (by simpa [isDigits] using nonempty)
      rw [← parts, List.length_append]
      omega

theorem length_fraction_le (text : Text) : (fraction text).2.length ≤ text.length := by
  rw [fraction.eq_def]
  split
  · split
    · exact Nat.le_refl _
    · exact Nat.le_succ_of_le (length_digits_le _)
  · exact Nat.le_refl _

theorem length_splitSign_le (text : Text) : (Text.splitSign text).2.length ≤ text.length := by
  rw [Text.splitSign.eq_def]
  split <;> simp

theorem length_le_of_exponent? {power : Int} (split : exponent? text = some (power, rest)) :
    rest.length ≤ text.length := by
  cases text with
  | nil => cases split
  | cons letter text =>
      have shorter := Nat.le_trans (length_digits_le (Text.splitSign text).2)
        (length_splitSign_le text)
      rw [exponent?] at split
      split at split
      · simp only at split
        split at split
        · cases split
        · obtain ⟨-, rfl⟩ := Prod.mk.inj (Option.some.inj split)
          exact Nat.le_succ_of_le shorter
      · cases split

theorem length_splitMinus_le (text : Text) : (splitMinus text).2.length ≤ text.length := by
  rw [splitMinus.eq_def]
  split <;> simp

theorem length_lt_of_numeral? {numeral : Numeral} (split : numeral? text = some (numeral, rest)) :
    rest.length < text.length := by
  obtain ⟨⟨whole, afterWhole⟩, isWhole, made⟩ := Option.map_eq_some_iff.mp split
  have unsigned := length_splitMinus_le text
  have shorter := length_lt_of_integerPart? isWhole
  have afterPlaces := length_fraction_le afterWhole
  cases isPower : exponent? (fraction afterWhole).2 with
  | none =>
      simp only [isPower, Prod.mk.injEq] at made
      obtain ⟨-, rfl⟩ := made
      omega
  | some result =>
      obtain ⟨power, afterPower⟩ := result
      simp only [isPower, Prod.mk.injEq] at made
      obtain ⟨-, rfl⟩ := made
      have behind := length_le_of_exponent? isPower
      omega

theorem readNumber?_append {value : Value} (isRead : readNumber? text = some (.ok (value, rest)))
    (delimited : IsDelimited rest) (more : Text) :
    readNumber? (text ++ more) = some (.ok (value, rest ++ more)) := by
  rw [readNumber?_eq] at isRead ⊢
  obtain ⟨⟨numeral, left⟩, split, made⟩ := Option.map_eq_some_iff.mp isRead
  obtain ⟨_, isValue, same⟩ := map_eq_ok_iff.mp made
  obtain ⟨rfl, rfl⟩ := Prod.mk.inj same
  simp only [numeral?_append split delimited, Option.map_some, isValue]
  rfl

theorem integerPart?_eq_none (noDigit : ∀ char ∈ text.head?, char.isDigit = false) :
    integerPart? text = none := by
  have noZero : text.head? ≠ some '0' := by
    intro isZero
    exact absurd (noDigit '0' isZero) (by decide)
  rw [integerPart?_of_ne_zero noZero, if_pos]
  cases text with
  | nil => rfl
  | cons char text => simp [digits, noDigit char rfl]

/-- A text is no number where no digit opens it or follows its sign. -/
theorem readNumber?_eq_none (noDigit : ∀ char ∈ (splitMinus text).2.head?, char.isDigit = false) :
    readNumber? text = none := by
  rw [readNumber?_eq, numeral?, integerPart?_eq_none noDigit]
  rfl

theorem noDigit_of_word {word : Text} {value : Value} (isWord : (word, value) ∈ words)
    (rest : Text) : ∀ char ∈ (splitMinus (word ++ rest)).2.head?, char.isDigit = false := by
  simp only [words, List.mem_cons, Prod.mk.injEq, List.not_mem_nil, or_false] at isWord
  rcases isWord with ⟨rfl, -⟩ | ⟨rfl, -⟩ | ⟨rfl, -⟩ | ⟨rfl, -⟩ | ⟨rfl, -⟩ | ⟨rfl, -⟩ <;>
    (rintro _ ⟨⟩; rfl)

/-- The beginning of a text that a word opens is no number. -/
theorem readNumber?_eq_none_of_word {word more : Text} {value : Value}
    (isWord : (word, value) ∈ words) (same : word ++ rest = text ++ more) :
    readNumber? text = none := by
  cases text with
  | nil => rfl
  | cons first text =>
      apply readNumber?_eq_none
      intro char isFirst
      apply noDigit_of_word isWord rest
      rw [same, splitMinus_append (List.cons_ne_nil _ _), List.head?_append, isFirst]
      rfl

/-- The word that opens a text, as a value. -/
def word? (text : Text) : Option (Value × Text) :=
  words.findSome? fun (word, value) => (word.isPrefixOf? text).map (value, ·)

theorem exists_word_of_word? {result : Value × Text} (found : word? text = some result) :
    ∃ word, (word, result.1) ∈ words ∧ text = word ++ result.2 := by
  obtain ⟨⟨word, value⟩, isWord, opens⟩ := List.exists_of_findSome?_eq_some found
  obtain ⟨rest, isRest, rfl⟩ := Option.map_eq_some_iff.mp opens
  exact ⟨word, isWord, (List.isPrefixOf?_eq_some_iff_append_eq.mp isRest).symm⟩

theorem readScalar_of_word?_eq_none (noWord : word? text = none) :
    readScalar text = (readNumber? text).getD (.error (.misread .value text)) := by
  rw [word?] at noWord
  rw [readScalar, noWord]

/-- Reading a word or a number takes characters. -/
theorem length_lt_of_readScalar {value : Value} (isRead : readScalar text = .ok (value, rest)) :
    rest.length < text.length := by
  cases found : word? text with
  | some result =>
      obtain ⟨word, isWord, rfl⟩ := exists_word_of_word? found
      rw [readScalar_word isWord] at isRead
      obtain ⟨-, rfl⟩ := Prod.mk.inj (Except.ok.inj isRead)
      have visible := List.length_pos_of_ne_nil (ne_nil_of_word isWord)
      rw [List.length_append]
      omega
  | none =>
      rw [readScalar_of_word?_eq_none found, readNumber?_eq] at isRead
      cases split : numeral? text with
      | none => simp [split] at isRead
      | some result =>
          obtain ⟨numeral, left⟩ := result
          rw [split] at isRead
          obtain ⟨_, -, same⟩ := map_eq_ok_iff.mp isRead
          obtain ⟨-, rfl⟩ := Prod.mk.inj same
          exact length_lt_of_numeral? split

theorem readScalar_append {value : Value} (isRead : readScalar text = .ok (value, rest))
    (delimited : IsDelimited rest) (more : Text) :
    readScalar (text ++ more) = .ok (value, rest ++ more) := by
  cases found : word? text with
  | some result =>
      obtain ⟨word, isWord, rfl⟩ := exists_word_of_word? found
      rw [readScalar_word isWord] at isRead
      obtain ⟨rfl, rfl⟩ := Prod.mk.inj (Except.ok.inj isRead)
      rw [List.append_assoc, readScalar_word isWord]
  | none =>
      rw [readScalar_of_word?_eq_none found] at isRead
      cases isNumber : readNumber? text with
      | none => simp [isNumber] at isRead
      | some result =>
          obtain rfl : result = .ok (value, rest) := by simpa [isNumber] using isRead
          cases opened : word? (text ++ more) with
          | none =>
              rw [readScalar_of_word?_eq_none opened, readNumber?_append isNumber delimited,
                Option.getD_some]
          | some result =>
              obtain ⟨word, isWord, same⟩ := exists_word_of_word? opened
              rw [readNumber?_eq_none_of_word isWord same.symm] at isNumber
              cases isNumber

end

end Json

end Marginalia
