import Mathlib.Tactic.Common
import Marginalia.Proofs.Diff.Addressing
import Marginalia.Proofs.Diff.Chunking

/-!
# Asking chunks

A chunk has one entry for each of its hunks, and only the first entry under a path is asked.  A
chunk may therefore hide a line that a later entry of it shows.  Entry by entry the chunks show what
the diff shows, as long as one file at most is known under the path.
-/

namespace Marginalia

open Text

namespace Diff

variable {diff other : Diff} {path : Text} {line : Option Int} {file : FileChange}

/-- Only the file that is found under a path is asked. -/
theorem shows_congr (same : diff.fileAt? path = other.fileAt? path) :
    shows (some diff) (some path) line = shows (some other) (some path) line := by
  simp only [shows, misplacement?, same]

theorem fileAt?_singleton (known : file.isAt path = true) :
    (⟨[file]⟩ : Diff).fileAt? path = some file :=
  List.find?_cons_of_pos known

theorem shows_singleton_iff :
    shows (some ⟨[file]⟩) (some path) line = true ↔
      isBlank path = false ∧ file.isAt path = true ∧ file.isDeleted = false ∧
        ∃ number, line = some number ∧ 0 < number ∧
          ∃ hunk ∈ file.hunks, hunk.covers number = true := by
  rw [shows, Option.isNone_iff_eq_none, misplacement?_eq_none_iff]
  constructor
  · rintro ⟨visible, number, isLine, positive, found, survives, covered⟩
    obtain ⟨isFound, remains⟩ := (survivorAt?_eq_some_iff _ _ _).mp survives
    obtain ⟨isFile, known⟩ := mem_files_of_fileAt? isFound
    obtain rfl := List.mem_singleton.mp isFile
    exact ⟨visible, known, remains, number, isLine, positive, covered⟩
  · rintro ⟨visible, known, remains, number, isLine, positive, covered⟩
    have survives := (survivorAt?_eq_some_iff _ _ _).mpr ⟨fileAt?_singleton known, remains⟩
    exact ⟨visible, number, isLine, positive, file, survives, covered⟩

/-- A file shows what its hunks show one by one. -/
theorem shows_singleton_iff_only :
    shows (some ⟨[file]⟩) (some path) line = true ↔
      ∃ hunk ∈ file.hunks, shows (some ⟨[file.only hunk]⟩) (some path) line = true := by
  simp only [shows_singleton_iff]
  constructor
  · rintro ⟨visible, known, remains, number, isLine, positive, hunk, isHunk, covers⟩
    exact ⟨hunk, isHunk, visible, known, remains, number, isLine, positive, hunk,
      List.mem_singleton_self hunk, covers⟩
  · rintro ⟨hunk, isHunk, visible, known, remains, number, isLine, positive, only, isOnly, covers⟩
    obtain rfl := List.mem_singleton.mp isOnly
    exact ⟨visible, known, remains, number, isLine, positive, only, isHunk, covers⟩

/-! ## Entries -/

theorem exists_entry_of_shows (shown : shows (some diff) (some path) line = true) :
    ∃ entry ∈ diff.files, shows (some ⟨[entry]⟩) (some path) line = true := by
  have placed := shown
  rw [shows, Option.isNone_iff_eq_none, misplacement?_eq_none_iff] at placed
  obtain ⟨-, -, -, -, entry, survives, -⟩ := placed
  have found := fileAt?_of_survivorAt? survives
  obtain ⟨isEntry, known⟩ := mem_files_of_fileAt? found
  refine ⟨entry, isEntry, ?_⟩
  rwa [← shows_congr (found.trans (fileAt?_singleton known).symm)]

/-- The only file that is known under a path is found there. -/
theorem fileAt?_of_countP_le_one (atMostOne : diff.files.countP (·.isAt path) ≤ 1)
    (isFile : file ∈ diff.files) (known : file.isAt path = true) :
    diff.fileAt? path = some file := by
  have isKnown : file ∈ diff.files.filter (·.isAt path) := List.mem_filter.mpr ⟨isFile, known⟩
  rw [List.countP_eq_length_filter] at atMostOne
  rw [fileAt?, ← List.head?_filter]
  cases isFilter : diff.files.filter (·.isAt path) with
  | nil => simp [isFilter] at isKnown
  | cons first others =>
      rw [isFilter, List.length_cons] at atMostOne
      obtain rfl : others = [] := List.eq_nil_of_length_eq_zero (by omega)
      rw [isFilter, List.mem_singleton] at isKnown
      rw [isKnown, List.head?_cons]

theorem shows_iff_exists_entry (atMostOne : diff.files.countP (·.isAt path) ≤ 1) :
    shows (some diff) (some path) line = true ↔
      ∃ entry ∈ diff.files, shows (some ⟨[entry]⟩) (some path) line = true := by
  refine ⟨exists_entry_of_shows, ?_⟩
  rintro ⟨entry, isEntry, shown⟩
  have known : entry.isAt path = true := (shows_singleton_iff.mp shown).2.1
  have found := fileAt?_of_countP_le_one atMostOne isEntry known
  rwa [shows_congr (found.trans (fileAt?_singleton known).symm)]

/-- The pieces of a diff show one by one what its files show one by one. -/
theorem exists_piece_shows_iff :
    (∃ piece ∈ diff.pieces, shows (some ⟨[piece]⟩) (some path) line = true) ↔
      ∃ file ∈ diff.files, shows (some ⟨[file]⟩) (some path) line = true := by
  constructor
  · rintro ⟨piece, isPiece, shown⟩
    obtain ⟨file, isFile, isOnly⟩ := List.mem_flatMap.mp isPiece
    obtain ⟨hunk, isHunk, rfl⟩ := List.mem_map.mp isOnly
    exact ⟨file, isFile, shows_singleton_iff_only.mpr ⟨hunk, isHunk, shown⟩⟩
  · rintro ⟨file, isFile, shown⟩
    obtain ⟨hunk, isHunk, onlyShown⟩ := shows_singleton_iff_only.mp shown
    have isPiece : file.only hunk ∈ diff.pieces :=
      List.mem_flatMap.mpr ⟨file, isFile, List.mem_map_of_mem isHunk⟩
    exact ⟨file.only hunk, isPiece, onlyShown⟩

/-! ## Chunks -/

theorem mem_pieces_iff_exists_chunk {budget : Budget} {entry : FileChange} :
    entry ∈ diff.pieces ↔ ∃ chunk ∈ chunks budget diff, entry ∈ chunk.files := by
  rw [← flatMap_files_chunks budget, List.mem_flatMap]

/-- Where one file at most is known under a path, no chunk shows a line of it that the diff does not
show, and every line that the diff shows is shown by an entry of a chunk, asked alone. -/
theorem chunks_show_same_lines (diff : Diff) {most : Nat} (positive : 1 ≤ most) (path : Text)
    (atMostOne : diff.files.countP (·.isAt path) ≤ 1) (line : Option Int) :
    Budget.ofInteger most = .ok (.atMost most) ∧
      ((∃ chunk ∈ chunks (.atMost most) diff, shows (some chunk) (some path) line = true) →
        shows (some diff) (some path) line = true) ∧
      (shows (some diff) (some path) line = true ↔
        ∃ chunk ∈ chunks (.atMost most) diff, ∃ entry ∈ chunk.files,
          shows (some ⟨[entry]⟩) (some path) line = true) := by
  have entries : shows (some diff) (some path) line = true ↔
      ∃ chunk ∈ chunks (.atMost most) diff, ∃ entry ∈ chunk.files,
        shows (some ⟨[entry]⟩) (some path) line = true := by
    rw [shows_iff_exists_entry atMostOne, ← exists_piece_shows_iff]
    constructor
    · rintro ⟨piece, isPiece, shown⟩
      obtain ⟨chunk, isChunk, isEntry⟩ := mem_pieces_iff_exists_chunk.mp isPiece
      exact ⟨chunk, isChunk, piece, isEntry, shown⟩
    · rintro ⟨chunk, isChunk, entry, isEntry, shown⟩
      exact ⟨entry, mem_pieces_iff_exists_chunk.mpr ⟨chunk, isChunk, isEntry⟩, shown⟩
  refine ⟨Budget.ofInteger_of_positive positive, ?_, entries⟩
  rintro ⟨chunk, isChunk, shown⟩
  exact entries.mpr ⟨chunk, isChunk, exists_entry_of_shows shown⟩

/-- Two hunks of one file, behind a file that was deleted. -/
def twoHunks : Diff where
  files :=
    [{ oldPath := some ['g'], newPath := some devNull, hunks := [blankLines 0] },
      { oldPath := some ['e'], newPath := some ['f']
        hunks := [blankLines 1, { blankLines 1 with newStart := 7 }] }]

theorem chunks_show_same_lines_twoHunks :
    (1 ≤ 2 ∧ twoHunks.files.countP (·.isAt ['f']) ≤ 1) ∧
      (∀ chunk ∈ chunks (.atMost 2) twoHunks, shows (some chunk) (some ['f']) (some 7) = false) ∧
      ∃ chunk ∈ chunks (.atMost 2) twoHunks, ∃ entry ∈ chunk.files,
        shows (some ⟨[entry]⟩) (some ['f']) (some 7) = true := by
  have positive : 1 ≤ 2 := by decide
  have atMostOne : twoHunks.files.countP (·.isAt ['f']) ≤ 1 := by decide
  have shown : shows (some twoHunks) (some ['f']) (some 7) = true := by decide
  have same := chunks_show_same_lines twoHunks positive ['f'] atMostOne (some 7)
  exact ⟨⟨positive, atMostOne⟩, by decide, same.2.2.mp shown⟩

end Diff

end Marginalia
