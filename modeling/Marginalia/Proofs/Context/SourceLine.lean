import Mathlib.Data.List.Basic
import Mathlib.Data.List.TakeWhile
import Mathlib.Tactic.Common
import Marginalia.Proofs.Context.ImportLine

/-!
# Lines that quote a source

A line that imports a name from a quoted source quotes that source and nothing else, and so does a
line that loads it in a call.  Of what stands in front of the first quote of a text only the ending
decides, so that neither the name nor the source can be taken for something else.
-/

namespace Marginalia

open Text

namespace Import

variable {name source text tail : Text}

/-- The line that imports a name from a quoted source. -/
def quotedLine (name source : Text) : Text :=
  "import ".toList ++ (name ++ (" from ".toList ++ '\x27' :: (source ++ ['\x27'])))

/-- The line that loads a quoted source under a name. -/
def loadedLine (name source : Text) : Text :=
  "const ".toList ++ (name ++ (" = require(".toList ++ '\x27' :: (source ++ ['\x27', ')'])))

/-! ## What stands before the first quote -/

/-- What stands before the first quote of a text. -/
def unquoted (text : Text) : Text :=
  text.takeWhile (!isQuote ·)

theorem isQuote_mark : isQuote '\x27' = true := rfl

theorem isQuote_of_isBlankChar {char : Char} (isBlank : isBlankChar char = true) :
    isQuote char = false := by
  rw [isQuote, Bool.or_eq_false_iff, decide_eq_false_iff_not, decide_eq_false_iff_not]
  constructor
  · rintro rfl
    exact absurd isBlank (by decide)
  · rintro rfl
    exact absurd isBlank (by decide)

theorem isQuote_of_isWordChar {char : Char} (isWord : isWordChar char = true) :
    isQuote char = false := by
  rw [isQuote, Bool.or_eq_false_iff, decide_eq_false_iff_not, decide_eq_false_iff_not]
  constructor
  · rintro rfl
    exact absurd isWord (by decide)
  · rintro rfl
    exact absurd isWord (by decide)

/-- A text that can stand between quotes. -/
def IsPlain (text : Text) : Prop :=
  ∀ char ∈ text, isQuote char = false

instance decidableIsPlain (text : Text) : Decidable (IsPlain text) :=
  List.decidableBAll (fun char => isQuote char = false) text

theorem IsPlain.append {front back : Text} (plain : IsPlain front) (isPlain : IsPlain back) :
    IsPlain (front ++ back) :=
  List.forall_mem_append.mpr ⟨plain, isPlain⟩

theorem IsPlain.of_subset {part : Text} (plain : IsPlain text) (isPart : part ⊆ text) :
    IsPlain part :=
  fun char isIn => plain char (isPart isIn)

/-- A word between texts without quotes makes a text without quotes. -/
theorem isPlain_around {front back : Text} (isWord : IsWord name) (plain : IsPlain front)
    (isPlain : IsPlain back) : IsPlain (front ++ (name ++ back)) := by
  have plainName : IsPlain name := fun char isIn => isQuote_of_isWordChar (isWord.2 char isIn)
  exact plain.append (plainName.append isPlain)

theorem unquoted_append_cons {front : Text} (plain : IsPlain front)
    {opening : Char} (isOpening : isQuote opening = true) (back : Text) :
    unquoted (front ++ opening :: back) = front := by
  rw [unquoted, List.takeWhile_append_of_pos (by simpa [IsPlain] using plain),
    List.takeWhile_cons_of_neg (by simp [isOpening]), List.append_nil]

/-- A quotation is a quote, what it says, and another quote. -/
theorem quotation?_eq_some (found : quotation? text = some (source, tail)) :
    ∃ opening closing, isQuote opening = true ∧ isQuote closing = true ∧
      text = opening :: (source ++ closing :: tail) := by
  cases text with
  | nil => contradiction
  | cons opening rest =>
      rw [quotation?] at found
      split at found
      case isFalse => contradiction
      case isTrue isOpening =>
        dsimp only at found
        split at found
        case h_1 => contradiction
        case h_2 closing behind ends =>
          split at found
          · contradiction
          · obtain ⟨rfl, rfl⟩ := Prod.mk.inj (Option.some.inj found)
            refine ⟨opening, closing, isOpening, ?_, ?_⟩
            · have stops := List.head?_dropWhile_not (fun char => !isQuote char) rest
              rw [ends] at stops
              simpa using stops
            · rw [← ends, List.takeWhile_append_dropWhile]

/-- The blanks that are skipped are at least one. -/
theorem skipBlanks?_eq_some {rest : Text} (skipped : skipBlanks? text = some rest) :
    ∃ gap, gap ≠ [] ∧ (∀ char ∈ gap, isBlankChar char = true) ∧ text = gap ++ rest := by
  rw [skipBlanks?] at skipped
  split at skipped
  · contradiction
  · rename_i some
    obtain rfl := Option.some.inj skipped
    refine ⟨text.takeWhile isBlankChar, ?_, fun char isIn => List.mem_takeWhile_imp isIn, ?_⟩
    · rintro none
      exact some (by rw [blanks, none, List.length_nil])
    · rw [trimLeft, List.takeWhile_append_dropWhile]

/-- Where a quotation stands behind a word for importing, blanks stand between the two, and all
of this is in front of the first of at least two quotes. -/
theorem sourceHere?_eq_some (found : sourceHere? text = some (source, tail)) :
    (trimRight (unquoted text) = "from".toList ∨ trimRight (unquoted text) = "import".toList) ∧
      (∃ last ∈ (unquoted text).getLast?, isBlankChar last = true) ∧
      1 < text.countP isQuote := by
  obtain ⟨rest, word, isWord, isText, quoted⟩ : ∃ rest word,
      (word = "from".toList ∨ word = "import".toList) ∧ text = word ++ rest ∧
        (skipBlanks? rest >>= quotation?) = some (source, tail) := by
    rw [sourceHere?] at found
    split at found
    · rename_i rest isFrom
      exact ⟨rest, _, .inl rfl, (List.isPrefixOf?_eq_some_iff_append_eq.mp isFrom).symm, found⟩
    · obtain ⟨rest, isImport, quoted⟩ := Option.bind_eq_some_iff.mp found
      exact ⟨rest, _, .inr rfl, (List.isPrefixOf?_eq_some_iff_append_eq.mp isImport).symm, quoted⟩
  obtain ⟨behind, skipped, isQuotation⟩ := Option.bind_eq_some_iff.mp quoted
  obtain ⟨gap, nonempty, areBlank, rfl⟩ := skipBlanks?_eq_some skipped
  obtain ⟨opening, closing, isOpening, isClosing, rfl⟩ := quotation?_eq_some isQuotation
  have plainWord : IsPlain word := by
    rcases isWord with rfl | rfl <;> decide
  have isUnquoted : unquoted text = word ++ gap := by
    rw [isText, ← List.append_assoc]
    refine unquoted_append_cons (plainWord.append ?_) isOpening _
    exact fun char isIn => isQuote_of_isBlankChar (areBlank char isIn)
  have noGap : trimRight gap = [] :=
    (trimRight_eq_nil_iff gap).mpr (List.all_eq_true.mpr areBlank)
  have trimmed : trimRight (unquoted text) = word := by
    have visible : ∃ char ∈ word.getLast?, isBlankChar char = false := by
      rcases isWord with rfl | rfl
      · exact ⟨'m', rfl, by decide⟩
      · exact ⟨'t', rfl, by decide⟩
    rw [isUnquoted, trimRight_append visible, noGap, List.append_nil]
  obtain ⟨last, isLast⟩ := Option.ne_none_iff_exists'.mp (mt List.getLast?_eq_none_iff.mp nonempty)
  refine ⟨trimmed ▸ isWord, ⟨last, ?_, areBlank last (List.mem_of_getLast? isLast)⟩, ?_⟩
  · rw [isUnquoted, List.getLast?_append, isLast]
    rfl
  · rw [isText]
    simp only [List.countP_append, List.countP_cons, isOpening, isClosing, if_true]
    omega

/-- Where a call loads a quotation, its word stands in front of the first of at least two
quotes. -/
theorem loadedHere?_eq_some (found : loadedHere? text = some (source, tail)) :
    trimRight (unquoted text) = "require(".toList ∧ 1 < text.countP isQuote := by
  obtain ⟨rest, isCall, found⟩ := Option.bind_eq_some_iff.mp found
  obtain ⟨⟨quoted, behind⟩, isQuotation, -⟩ := Option.bind_eq_some_iff.mp found
  obtain ⟨opening, closing, isOpening, isClosing, split⟩ := quotation?_eq_some isQuotation
  obtain rfl := List.isPrefixOf?_eq_some_iff_append_eq.mp isCall
  have isRest : rest = rest.takeWhile isBlankChar ++ opening :: (quoted ++ closing :: behind) := by
    rw [← split, trimLeft, List.takeWhile_append_dropWhile]
  have areBlank : ∀ char ∈ rest.takeWhile isBlankChar, isBlankChar char = true :=
    fun char isIn => List.mem_takeWhile_imp isIn
  have isUnquoted : unquoted ("require(".toList ++ rest) =
      "require(".toList ++ rest.takeWhile isBlankChar := by
    rw [isRest, ← List.append_assoc, ← isRest]
    have plainWord : IsPlain "require(".toList := by decide
    refine unquoted_append_cons (plainWord.append ?_) isOpening _
    exact fun char isIn => isQuote_of_isBlankChar (areBlank char isIn)
  have noGap : trimRight (rest.takeWhile isBlankChar) = [] :=
    (trimRight_eq_nil_iff _).mpr (List.all_eq_true.mpr areBlank)
  constructor
  · rw [isUnquoted, trimRight_append ⟨'(', rfl, by decide⟩, noGap, List.append_nil]
  · rw [isRest]
    simp only [List.countP_append, List.countP_cons, isOpening, isClosing, if_true]
    omega

/-! ## Scanning -/

section

variable {here? : Text → Option (Text × Text)}

/-- Where nothing is found in front, what is found is found behind. -/
theorem scan_append {front : Text} (back : Text)
    (nowhere : ∀ start, start ≠ [] → start <:+ front → here? (start ++ back) = none) :
    scan here? 0 (front ++ back) = scan here? 0 back := by
  induction front with
  | nil => rfl
  | cons char front induct =>
      have notHere := nowhere (char :: front) (List.cons_ne_nil char front) List.suffix_rfl
      rw [List.cons_append] at notHere ⊢
      simp only [scan, notHere]
      exact induct fun start nonempty isEnding =>
        nowhere start nonempty (isEnding.trans (List.suffix_cons char front))

theorem scan_length (text : Text) : scan here? text.length text = [] := by
  induction text with
  | nil => rfl
  | cons char text induct => exact induct

/-- Where something is found that reaches to the end of a text, nothing else is found. -/
theorem scan_of_here (nonempty : text ≠ []) (isHere : here? text = some (source, [])) :
    scan here? 0 text = [source] := by
  obtain ⟨char, rest, rfl⟩ := List.exists_cons_of_ne_nil nonempty
  simp only [scan, isHere, List.length_nil, Nat.sub_zero, scan_length]

/-- Nothing is found where what is looked for has more quotes than are left. -/
theorem scan_of_countP_le (quotes : ∀ text found, here? text = some found → 1 < text.countP isQuote)
    (few : text.countP isQuote ≤ 1) : scan here? 0 text = [] := by
  have passed : scan here? 0 (text ++ []) = scan here? 0 [] := by
    refine scan_append [] fun start _ isEnding => ?_
    rw [List.append_nil, Option.eq_none_iff_forall_ne_some]
    intro found isFound
    have atMost : start.countP isQuote ≤ text.countP isQuote := isEnding.sublist.countP_le
    exact absurd (quotes start found isFound) (by omega)
  rwa [List.append_nil] at passed

/-- Nothing is found in a text of two quotes where nothing is found in front of the first one. -/
theorem scan_eq_nil {front back : Text}
    (quotes : ∀ text found, here? text = some found → 1 < text.countP isQuote)
    (nowhere : ∀ start, start <:+ front → here? (start ++ '\x27' :: back) = none)
    (few : back.countP isQuote ≤ 1) : scan here? 0 (front ++ '\x27' :: back) = [] := by
  rw [List.append_cons, scan_append back]
  · exact scan_of_countP_le quotes few
  · intro start nonempty isEnding
    rcases List.suffix_concat_iff.mp isEnding with none | ⟨start, rfl, isBefore⟩
    · exact absurd none nonempty
    · rw [← List.append_cons]
      exact nowhere start isBefore

end

/-! ## What the lines quote -/

theorem quotation?_quote (nonempty : source ≠ []) (plain : IsPlain source)
    (tail : Text) : quotation? ('\x27' :: (source ++ '\x27' :: tail)) = some (source, tail) := by
  have taken : (source ++ '\x27' :: tail).takeWhile (!isQuote ·) = source :=
    unquoted_append_cons plain isQuote_mark tail
  have left : (source ++ '\x27' :: tail).dropWhile (!isQuote ·) = '\x27' :: tail := by
    rw [List.dropWhile_append_of_pos (by simpa [IsPlain] using plain)]
    rfl
  simp [quotation?, taken, left, isQuote_mark, nonempty]

theorem countP_isQuote_of_plain (plain : IsPlain source) :
    source.countP isQuote = 0 :=
  List.countP_eq_zero.mpr (by simpa [IsPlain] using plain)

section

variable (isWord : IsWord name) (plain : IsPlain source)

include isWord plain

theorem quotedSources_quotedLine (nonempty : source ≠ []) :
    quotedSources (quotedLine name source) = [source] := by
  have isLine : quotedLine name source = ("import ".toList ++ (name ++ [' '])) ++
      ("from".toList ++ ' ' :: '\x27' :: (source ++ ['\x27'])) := by
    rw [List.append_assoc, List.append_assoc]
    rfl
  have plainFront : IsPlain ("import ".toList ++ (name ++ [' '])) :=
    isPlain_around isWord (by decide) (by decide)
  have isHere : sourceHere? ("from".toList ++ ' ' :: '\x27' :: (source ++ ['\x27'])) =
      some (source, []) := by
    have gap : skipBlanks? (' ' :: '\x27' :: (source ++ ['\x27'])) =
        some ('\x27' :: (source ++ ['\x27'])) := skipBlanks?_space ⟨'\x27', rfl, rfl⟩
    have quoted := quotation?_quote nonempty plain []
    simp [sourceHere?, List.isPrefixOf?, gap, quoted]
  have nowhere : ∀ start, start ≠ [] → start <:+ "import ".toList ++ (name ++ [' ']) →
      sourceHere? (start ++ ("from".toList ++ ' ' :: '\x27' :: (source ++ ['\x27']))) = none := by
    intro start some isEnding
    rw [Option.eq_none_iff_forall_ne_some]
    rintro ⟨found, tail⟩ isFound
    have plainStart : IsPlain (start ++ ("from".toList ++ [' '])) :=
      (plainFront.of_subset isEnding.subset).append (by decide)
    have isUnquoted := unquoted_append_cons plainStart isQuote_mark (source ++ ['\x27'])
    have visible : ∃ char ∈ (start ++ "from".toList).getLast?, isBlankChar char = false :=
      ⟨'m', by rw [List.getLast?_append]; rfl, by decide⟩
    have trimmed : trimRight (start ++ ("from".toList ++ [' '])) = start ++ "from".toList := by
      rw [← List.append_assoc, trimRight_append visible]
      simp [trimRight, show isBlankChar ' ' = true from rfl]
    rw [List.append_assoc, List.append_assoc] at isUnquoted
    obtain ⟨isWord, -, -⟩ := sourceHere?_eq_some isFound
    rw [List.cons_append, List.nil_append] at isUnquoted
    rw [isUnquoted, trimmed] at isWord
    rcases isWord with isFrom | isImport
    · exact some (List.append_left_eq_self.mp isFrom)
    · exact absurd ⟨start, isImport⟩ (by decide : ¬"from".toList <:+ "import".toList)
  rw [quotedSources, isLine, scan_append _ nowhere, scan_of_here (by simp) isHere]

theorem loadedSources_quotedLine : loadedSources (quotedLine name source) = [] := by
  have isLine : quotedLine name source =
      ("import ".toList ++ (name ++ " from ".toList)) ++ '\x27' :: (source ++ ['\x27']) := by
    rw [List.append_assoc, List.append_assoc]
    rfl
  have noBracket : '(' ∉ "import ".toList ++ (name ++ " from ".toList) := by
    have noMark : '(' ∉ name := isWord.notMem (by decide)
    simp [noMark]
  have plainFront : IsPlain ("import ".toList ++ (name ++ " from ".toList)) :=
    isPlain_around isWord (by decide) (by decide)
  rw [loadedSources, isLine]
  refine scan_eq_nil (fun _ _ isFound => (loadedHere?_eq_some isFound).2) ?_ ?_
  · intro start isEnding
    rw [Option.eq_none_iff_forall_ne_some]
    rintro ⟨found, tail⟩ isFound
    have isUnquoted := unquoted_append_cons (plainFront.of_subset isEnding.subset)
      isQuote_mark (source ++ ['\x27'])
    have isCall := (loadedHere?_eq_some isFound).1
    rw [isUnquoted] at isCall
    have isIn : '(' ∈ trimRight start := isCall ▸ by decide
    exact noBracket (isEnding.subset ((trimRight_prefix_self start).subset isIn))
  · simp [countP_isQuote_of_plain plain, isQuote_mark]

theorem quotedSources_loadedLine : quotedSources (loadedLine name source) = [] := by
  have isLine : loadedLine name source =
      ("const ".toList ++ (name ++ " = require(".toList)) ++
        '\x27' :: (source ++ ['\x27', ')']) := by
    rw [List.append_assoc, List.append_assoc]
    rfl
  have plainFront : IsPlain ("const ".toList ++ (name ++ " = require(".toList)) :=
    isPlain_around isWord (by decide) (by decide)
  rw [quotedSources, isLine]
  refine scan_eq_nil (fun _ _ isFound => (sourceHere?_eq_some isFound).2.2) ?_ ?_
  · intro start isEnding
    rw [Option.eq_none_iff_forall_ne_some]
    rintro ⟨found, tail⟩ isFound
    have isUnquoted := unquoted_append_cons (plainFront.of_subset isEnding.subset)
      isQuote_mark (source ++ ['\x27', ')'])
    obtain ⟨-, ⟨last, isLast, isBlank⟩, -⟩ := sourceHere?_eq_some isFound
    rw [isUnquoted] at isLast
    have isBracket : last = '(' := by
      obtain ⟨before, whole⟩ := isEnding
      have ending := congrArg List.getLast? whole
      rw [List.getLast?_append, isLast, List.getLast?_append, List.getLast?_append] at ending
      exact Option.some.inj ending
    exact absurd isBlank (isBracket ▸ by decide)
  · have closing : ['\x27', ')'].countP isQuote ≤ 1 := by decide
    rwa [List.countP_append, countP_isQuote_of_plain plain, Nat.zero_add]

theorem loadedSources_loadedLine (nonempty : source ≠ []) :
    loadedSources (loadedLine name source) = [source] := by
  have isLine : loadedLine name source = ("const ".toList ++ (name ++ " = ".toList)) ++
      ("require(".toList ++ '\x27' :: (source ++ ['\x27', ')'])) := by
    rw [List.append_assoc, List.append_assoc]
    rfl
  have plainFront : IsPlain ("const ".toList ++ (name ++ " = ".toList)) :=
    isPlain_around isWord (by decide) (by decide)
  have isHere : loadedHere? ("require(".toList ++ '\x27' :: (source ++ ['\x27', ')'])) =
      some (source, []) := by
    have visible : trimLeft ('\x27' :: (source ++ ['\x27', ')'])) =
        '\x27' :: (source ++ ['\x27', ')']) := trimLeft_of_head? ⟨'\x27', rfl, rfl⟩
    have quoted := quotation?_quote nonempty plain [')']
    have closed : trimLeft [')'] = [')'] := rfl
    simp [loadedHere?, List.isPrefixOf?, visible, quoted, closed]
  have nowhere : ∀ start, start ≠ [] → start <:+ "const ".toList ++ (name ++ " = ".toList) →
      loadedHere? (start ++ ("require(".toList ++ '\x27' :: (source ++ ['\x27', ')']))) = none := by
    intro start some isEnding
    rw [Option.eq_none_iff_forall_ne_some]
    rintro ⟨found, tail⟩ isFound
    have plainStart : IsPlain (start ++ "require(".toList) :=
      (plainFront.of_subset isEnding.subset).append (by decide)
    have isUnquoted := unquoted_append_cons plainStart isQuote_mark
      (source ++ ['\x27', ')'])
    have trimmed : trimRight (start ++ "require(".toList) = start ++ "require(".toList :=
      (trimRight_append_of_ne_nil (by simp) start).mpr rfl
    have isCall := (loadedHere?_eq_some isFound).1
    rw [← List.append_assoc, isUnquoted, trimmed] at isCall
    exact some (List.append_left_eq_self.mp isCall)
  rw [loadedSources, isLine, scan_append _ nowhere, scan_of_here (by simp) isHere]

/-- A line that imports from a quoted source is read as that. -/
theorem ofLine_quotedLine (nonempty : source ≠ []) :
    ofLine (quotedLine name source) = .quoted [source] := by
  have trimmed : trimLeft (quotedLine name source) = quotedLine name source :=
    trimLeft_of_head? ⟨'i', rfl, rfl⟩
  have noModule : fromModule? (quotedLine name source) = none := by
    rw [fromModule?, trimmed]
    rfl
  simp [ofLine, noModule, quotedSources_quotedLine isWord plain nonempty,
    loadedSources_quotedLine isWord plain]

/-- A line that loads a quoted source is read as that. -/
theorem ofLine_loadedLine (nonempty : source ≠ []) :
    ofLine (loadedLine name source) = .quoted [source] := by
  have trimmed : trimLeft (loadedLine name source) = loadedLine name source :=
    trimLeft_of_head? ⟨'c', rfl, rfl⟩
  have noModule : fromModule? (loadedLine name source) = none := by
    rw [fromModule?, trimmed]
    rfl
  have noWhole : module? (loadedLine name source) = none := by
    rw [module?, trimmed]
    rfl
  simp [ofLine, noModule, noWhole, quotedSources_loadedLine isWord plain,
    loadedSources_loadedLine isWord plain nonempty]

end

end Import

end Marginalia
