import Marginalia.Text.Basic

/-!
# Lines

A line ends at a line feed, a carriage return, the pair of both, a vertical tab, a form feed, one
of three information separators, the next-line character, or a Unicode line or paragraph
separator.  A boundary at the very end opens no further line.
-/

namespace Marginalia

namespace Text

/-- A character that ends a line. -/
def isBoundary (char : Char) : Bool :=
  char = '\n' || char = '\r' || char = '\x0b' || char = '\x0c' || char = '\x1c' ||
    char = '\x1d' || char = '\x1e' || char = '\u0085' || char = '\u2028' || char = '\u2029'

/-- The lines of a text, without the characters that end them. -/
def lines : Text → List Text
  | [] => []
  | '\r' :: '\n' :: rest => [] :: lines rest
  | char :: rest => if isBoundary char then [] :: lines rest else consHead char (lines rest)

@[simp]
theorem lines_nil : lines [] = [] := by
  simp [lines]

@[simp]
theorem lines_lineFeed (rest : Text) : lines ('\n' :: rest) = [] :: lines rest := by
  simp [lines, isBoundary]

/-- A character that ends no line stands in front of the first line. -/
theorem lines_cons {char : Char} (inside : isBoundary char = false) (rest : Text) :
    lines (char :: rest) = consHead char (lines rest) := by
  have notReturn : char ≠ '\r' := by
    rintro rfl
    simp [isBoundary] at inside
  rw [lines]
  · simp [inside]
  · intro more same
    exact absurd same notReturn

/-- A line feed after a text without boundary characters ends a line. -/
theorem lines_append_lineFeed {line : Text} (inside : ∀ char ∈ line, isBoundary char = false)
    (rest : Text) : lines (line ++ '\n' :: rest) = line :: lines rest := by
  induction line with
  | nil => simp
  | cons char line induct =>
      rw [List.cons_append, lines_cons (inside char (by simp)),
        induct fun other isIn => inside other (by simp [isIn])]
      rfl

/-- Lines without boundary characters are read as they were written, whatever follows. -/
theorem lines_unlines_append {written : List Text}
    (inside : ∀ line ∈ written, ∀ char ∈ line, isBoundary char = false) (rest : Text) :
    lines (unlines written ++ rest) = written ++ lines rest := by
  induction written with
  | nil => simp
  | cons line written induct =>
      rw [unlines_cons, List.append_assoc, List.cons_append,
        lines_append_lineFeed (inside line (by simp)),
        induct fun other isIn => inside other (by simp [isIn]), List.cons_append]

theorem lines_unlines {written : List Text}
    (inside : ∀ line ∈ written, ∀ char ∈ line, isBoundary char = false) :
    lines (unlines written) = written := by
  simpa using lines_unlines_append inside []

/-- No line holds a character that ends one. -/
theorem isBoundary_of_mem_lines (text : Text) :
    ∀ line ∈ lines text, ∀ char ∈ line, isBoundary char = false := by
  induction text using lines.induct with
  | case1 => simp
  | case2 rest induct => simpa [lines] using induct
  | case3 char rest notPair boundary induct =>
      rw [lines, if_pos boundary]
      · simpa using induct
      · exact notPair
  | case4 char rest notPair inside induct =>
      have inside : isBoundary char = false := by simpa using inside
      rw [lines_cons inside]
      exact forall_mem_consHead inside induct

theorem lines_eq_nil_iff (text : Text) : lines text = [] ↔ text = [] := by
  induction text using lines.induct with
  | case1 => simp
  | case2 rest _ => simp [lines]
  | case3 char rest notPair boundary _ =>
      rw [lines, if_pos boundary]
      · simp
      · exact notPair
  | case4 char rest _ inside _ =>
      rw [lines_cons (by simpa using inside)]
      simp [consHead_ne_nil]

/-- What ends in a line feed is cut without regard to what follows. -/
theorem lines_append_lineFeed_append (front back : Text) :
    lines (front ++ '\n' :: back) = lines (front ++ ['\n']) ++ lines back := by
  induction front using lines.induct with
  | case1 => simp
  | case2 rest induct => simpa [lines] using induct
  | case3 char rest notPair boundary induct =>
      -- A carriage return at the end of the front is paired with the line feed behind it.
      by_cases paired : char = '\r' ∧ rest = []
      · obtain ⟨rfl, rfl⟩ := paired
        simp [lines]
      · have unpaired (tail more : Text) (isReturn : char = '\r')
            (isFeed : rest ++ '\n' :: tail = '\n' :: more) : False := by
          cases rest with
          | nil => exact paired ⟨isReturn, rfl⟩
          | cons next rest =>
              rw [List.cons_append, List.cons.injEq] at isFeed
              exact notPair rest isReturn (by rw [isFeed.1])
        rw [List.cons_append, List.cons_append, lines, lines, if_pos boundary, if_pos boundary,
          induct, List.cons_append]
        · exact unpaired []
        · exact unpaired back
  | case4 char rest _ inside induct =>
      have inside : isBoundary char = false := by simpa using inside
      have nonempty : lines (rest ++ ['\n']) ≠ [] := by simp [lines_eq_nil_iff]
      rw [List.cons_append, List.cons_append, lines_cons inside, lines_cons inside, induct,
        consHead_append nonempty]

/-- So is a text that is empty. -/
theorem lines_append {front : Text} (ended : ∀ last ∈ front.getLast?, last = '\n') (back : Text) :
    lines (front ++ back) = lines front ++ lines back := by
  cases final : front.getLast? with
  | none =>
      obtain rfl := List.getLast?_eq_none_iff.mp final
      simp
  | some last =>
      obtain rfl := ended last final
      obtain ⟨body, rfl⟩ := List.getLast?_eq_some_iff.mp final
      rw [List.append_assoc, List.singleton_append, lines_append_lineFeed_append]

/-- Reading a file in text mode turns both a carriage return and the pair of a carriage return and
a line feed into a line feed. -/
def normalizeNewlines : Text → Text
  | [] => []
  | '\r' :: '\n' :: rest => '\n' :: normalizeNewlines rest
  | char :: rest => (if char = '\r' then '\n' else char) :: normalizeNewlines rest

end Text

end Marginalia
