/-!
# Text

Text is a list of characters, so that every reading and writing function below is a recursion on
its input.  The operations here cut text at a separator, look for a needle, and glue pieces: the
pieces of a text, glued with the separator they were cut at, are the text again.
-/

namespace Marginalia

/-- A text, character by character. -/
abbrev Text := List Char

namespace Text

/-- Whether a text stands before another when code points decide. -/
def isBefore (left right : Text) : Bool :=
  left.lex right fun former latter => former.toNat < latter.toNat

/-- Put a character in front of the first of several pieces. -/
def consHead (char : Char) : List Text → List Text
  | [] => [[char]]
  | piece :: pieces => (char :: piece) :: pieces

/-- What holds of a character and of all characters of some pieces holds when the character is put
in front. -/
theorem forall_mem_consHead {holds : Char → Prop} {char : Char} {pieces : List Text}
    (first : holds char) (others : ∀ piece ∈ pieces, ∀ other ∈ piece, holds other) :
    ∀ piece ∈ consHead char pieces, ∀ other ∈ piece, holds other := by
  cases pieces with
  | nil => simpa [consHead] using first
  | cons piece pieces =>
      simp only [consHead, List.mem_cons, forall_eq_or_imp] at others ⊢
      exact ⟨⟨first, others.1⟩, others.2⟩

theorem consHead_ne_nil (char : Char) (pieces : List Text) : consHead char pieces ≠ [] := by
  cases pieces <;> simp [consHead]

theorem consHead_append {char : Char} {front : List Text} (nonempty : front ≠ [])
    (back : List Text) : consHead char (front ++ back) = consHead char front ++ back := by
  cases front with
  | nil => exact absurd rfl nonempty
  | cons piece front => rfl

/-- The pieces between the occurrences of a separating character; never an empty list. -/
def pieces (separator : Char) : Text → List Text
  | [] => [[]]
  | char :: rest =>
      if char = separator then [] :: pieces separator rest
      else consHead char (pieces separator rest)

theorem pieces_ne_nil (separator : Char) (text : Text) : pieces separator text ≠ [] := by
  cases text with
  | nil => simp [pieces]
  | cons char rest =>
      unfold pieces
      split
      · simp
      · cases pieces separator rest <;> simp [consHead]

/-- No piece holds the character at which it was cut. -/
theorem notMem_of_mem_pieces (separator : Char) (text piece : Text)
    (isPiece : piece ∈ pieces separator text) : separator ∉ piece := by
  induction text generalizing piece with
  | nil =>
      simp [pieces] at isPiece
      simp [isPiece]
  | cons char rest induct =>
      unfold pieces at isPiece
      split at isPiece
      case isTrue =>
        rcases List.mem_cons.mp isPiece with rfl | inRest
        · simp
        · exact induct piece inRest
      case isFalse different =>
        match found : pieces separator rest, isPiece with
        | [], isPiece => exact absurd found (pieces_ne_nil separator rest)
        | first :: more, isPiece =>
            rcases List.mem_cons.mp isPiece with rfl | inMore
            · have fresh := induct first (by simp [found])
              simpa [Ne.symm different] using fresh
            · exact induct piece (by simp [found, inMore])

/-- What stands before the first occurrence of a character; everything when it does not occur. -/
def before (separator : Char) (text : Text) : Text :=
  text.takeWhile (· ≠ separator)

/-- What stands after the first occurrence of a character; nothing when it does not occur. -/
def after (separator : Char) (text : Text) : Text :=
  (text.dropWhile (· ≠ separator)).drop 1

/-- What stands before a character that occurs, the character, and what stands after it make up the
text. -/
theorem before_append_after {separator : Char} {text : Text} (occurs : separator ∈ text) :
    before separator text ++ separator :: after separator text = text := by
  induction text with
  | nil => simp at occurs
  | cons char rest induct =>
      by_cases same : char = separator
      · simp [before, after, same]
      · have inRest : separator ∈ rest := by simpa [Ne.symm same] using occurs
        simpa [before, after, same] using induct inRest

theorem before_of_notMem {separator : Char} {text : Text} (absent : separator ∉ text) :
    before separator text = text := by
  induction text with
  | nil => rfl
  | cons char rest induct =>
      obtain ⟨different, absent⟩ := not_or.mp (mt List.mem_cons.mpr absent)
      simpa [before, Ne.symm different] using induct absent

theorem after_of_notMem {separator : Char} {text : Text} (absent : separator ∉ text) :
    after separator text = [] := by
  induction text with
  | nil => rfl
  | cons char rest induct =>
      obtain ⟨different, absent⟩ := not_or.mp (mt List.mem_cons.mpr absent)
      simpa [after, Ne.symm different] using induct absent

/-- Only the first occurrence of the character matters. -/
theorem before_append {separator : Char} {front : Text} (absent : separator ∉ front)
    (back : Text) : before separator (front ++ separator :: back) = front := by
  induction front with
  | nil => simp [before]
  | cons char front induct =>
      obtain ⟨different, absent⟩ := not_or.mp (mt List.mem_cons.mpr absent)
      simpa [before, Ne.symm different] using induct absent

theorem after_append {separator : Char} {front : Text} (absent : separator ∉ front)
    (back : Text) : after separator (front ++ separator :: back) = back := by
  induction front with
  | nil => simp [after]
  | cons char front induct =>
      obtain ⟨different, absent⟩ := not_or.mp (mt List.mem_cons.mpr absent)
      simpa [after, Ne.symm different] using induct absent

/-- The longest ending without the given character. -/
def afterLast (separator : Char) (text : Text) : Text :=
  (text.reverse.takeWhile (· ≠ separator)).reverse

/-- Whether the needle stands somewhere in the text. -/
def occursIn (needle : Text) : Text → Bool
  | [] => needle.isEmpty
  | char :: rest => needle.isPrefixOf (char :: rest) || occursIn needle rest

/-- Leave out the needle wherever it occurs, from the left and without overlap.  While `skip` is
positive, characters of a found needle are being passed over. -/
def eraseFrom (needle : Text) (skip : Nat) : Text → Text
  | [] => []
  | char :: rest =>
      match skip with
      | skip + 1 => eraseFrom needle skip rest
      | 0 =>
          if !needle.isEmpty && needle.isPrefixOf (char :: rest) then
            eraseFrom needle (needle.length - 1) rest
          else
            char :: eraseFrom needle 0 rest

/-- The text without the occurrences of the needle. -/
def eraseAll (needle text : Text) : Text :=
  eraseFrom needle 0 text

/-- Glue pieces with a separating text between neighbours. -/
def glue (separator : Text) : List Text → Text
  | [] => []
  | [piece] => piece
  | piece :: next :: pieces => piece ++ separator ++ glue separator (next :: pieces)

/-- Each piece followed by a line feed. -/
def unlines (lines : List Text) : Text :=
  lines.flatMap (· ++ ['\n'])

@[simp]
theorem unlines_nil : unlines [] = [] := rfl

@[simp]
theorem unlines_cons (line : Text) (lines : List Text) :
    unlines (line :: lines) = line ++ '\n' :: unlines lines := by
  simp [unlines]

@[simp]
theorem unlines_append (front back : List Text) :
    unlines (front ++ back) = unlines front ++ unlines back := by
  simp [unlines]

/-- Pad on the left up to the given width. -/
def padLeft (width : Nat) (filler : Char) (text : Text) : Text :=
  List.replicate (width - text.length) filler ++ text

end Text

end Marginalia
