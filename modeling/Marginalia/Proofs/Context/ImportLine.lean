import Mathlib.Data.List.Basic
import Mathlib.Data.List.TakeWhile
import Mathlib.Tactic.Common
import Marginalia.Context.Import
import Marginalia.Proofs.Text.Blank
import Marginalia.Proofs.Text.Pieces
import Marginalia.Proofs.Text.Word

/-!
# Lines that import

A line that is written as an import of names from a module is read as that.
-/

namespace Marginalia

open Text

namespace Import

variable {module names name : Text}

/-- The line that imports names from a module. -/
def fromLine (module names : Text) : Text :=
  "from ".toList ++ (module ++ (" import ".toList ++ names))

theorem isBlankChar_of_isModuleChar {char : Char} (isModule : isModuleChar char = true) :
    isBlankChar char = false := by
  rw [isModuleChar, Bool.or_eq_true, decide_eq_true_eq] at isModule
  rcases isModule with isWord | rfl
  · exact isBlankChar_of_isWordChar isWord
  · decide

theorem trimLeft_of_head? {text : Text} (visible : ∃ char ∈ text.head?, isBlankChar char = false) :
    trimLeft text = text := by
  simpa using trimLeft_append visible []

/-- One blank is skipped in front of what is visible. -/
theorem skipBlanks?_space {text : Text} (visible : ∃ char ∈ text.head?, isBlankChar char = false) :
    skipBlanks? (' ' :: text) = some text := by
  have counted : blanks (' ' :: text) ≠ 0 := by
    simp [blanks, show isBlankChar ' ' = true from rfl]
  have skipped : trimLeft (' ' :: text) = trimLeft text := rfl
  rw [skipBlanks?, if_neg counted, skipped, trimLeft_of_head? visible]

/-- Names are read as they stand behind the word for importing. -/
theorem namesAfter?_space (areNames : ∀ char ∈ names, isNamesChar char = true)
    (visible : ∃ char ∈ names.head?, isBlankChar char = false) :
    namesAfter? (' ' :: names) = some names := by
  obtain ⟨first, rest, rfl⟩ : ∃ first rest, names = first :: rest := by
    obtain ⟨first, isFirst, -⟩ := visible
    exact ⟨first, _, (List.head?_eq_some_iff.mp isFirst).choose_spec⟩
  have notBracket : first ≠ '(' := by
    rintro rfl
    exact absurd (areNames '(' List.mem_cons_self) (by decide)
  have taken : (first :: rest).takeWhile isNamesChar = first :: rest :=
    List.takeWhile_eq_self_iff.mpr areNames
  rw [namesAfter?, skipBlanks?_space visible]
  simp only [Option.bind_eq_bind, Option.bind_some]
  split
  · rename_i opened
    exact absurd (List.cons.inj opened).1 notBracket
  · simp [taken]

/-- A line that imports names from a module is read as that. -/
theorem fromModule?_fromLine (nonempty : module ≠ [])
    (isModule : ∀ char ∈ module, isModuleChar char = true)
    (areNames : ∀ char ∈ names, isNamesChar char = true)
    (visible : ∃ char ∈ names.head?, isBlankChar char = false) :
    fromModule? (fromLine module names) = some (module, splitNames names) := by
  have afterWord : "from".toList.isPrefixOf? (trimLeft (fromLine module names)) =
      some (' ' :: (module ++ (" import ".toList ++ names))) :=
    List.isPrefixOf?_eq_some_iff_append_eq.mpr (trimLeft_of_head? ⟨'f', rfl, rfl⟩).symm
  have atModule : skipBlanks? (' ' :: (module ++ (" import ".toList ++ names))) =
      some (module ++ (" import ".toList ++ names)) := by
    obtain ⟨first, rest, rfl⟩ := List.exists_cons_of_ne_nil nonempty
    exact skipBlanks?_space
      ⟨first, rfl, isBlankChar_of_isModuleChar (isModule first List.mem_cons_self)⟩
  have stop : isModuleChar ' ' = false := by decide
  have taken : (module ++ (" import ".toList ++ names)).takeWhile isModuleChar = module := by
    rw [List.takeWhile_append_of_pos isModule]
    simp [stop]
  have left : (module ++ (" import ".toList ++ names)).dropWhile isModuleChar =
      " import ".toList ++ names := by
    rw [List.dropWhile_append_of_pos isModule]
    simp [stop]
  have atImport : skipBlanks? (" import ".toList ++ names) = some ("import ".toList ++ names) :=
    skipBlanks?_space ⟨'i', rfl, rfl⟩
  have afterImport : "import".toList.isPrefixOf? ("import ".toList ++ names) =
      some (' ' :: names) :=
    List.isPrefixOf?_eq_some_iff_append_eq.mpr rfl
  simp only [fromModule?, afterWord, atModule, taken, left, atImport, afterImport,
    namesAfter?_space areNames visible, Option.bind_eq_bind, Option.bind_some]

/-- What holds no comma and is trimmed is the only name of a list. -/
theorem splitNames_of_trim (nonempty : name ≠ []) (noComma : ',' ∉ name)
    (trimmed : trim name = name) : splitNames name = [name] := by
  rw [splitNames, pieces_of_notMem noComma, List.map_singleton, trimmed,
    List.filter_eq_self.mpr (by simpa using nonempty)]

/-- A word by itself is the only name of a list. -/
theorem splitNames_of_isWord (isWord : IsWord name) : splitNames name = [name] := by
  refine splitNames_of_trim isWord.1 (isWord.notMem (by decide)) ((trim_eq_self_iff name).mpr ?_)
  exact ⟨fun char isFirst => isBlankChar_of_isWordChar (isWord.2 char (List.mem_of_head? isFirst)),
    fun char isLast => isBlankChar_of_isWordChar (isWord.2 char (List.mem_of_getLast? isLast))⟩

end Import

end Marginalia
