import Mathlib.Data.List.Chain
import Mathlib.Tactic.Common
import Marginalia.Diff.Chunk

/-!
# Cutting diffs into chunks

Chunks are filled from the front, and one is closed only before a piece that no longer fits.  What
is known of a chunk while it is filled is that filling it again from nothing does not cut it: that
holds of a single piece, and a piece that fits keeps it.
-/

namespace Marginalia

namespace Diff

variable {budget : Budget} {filled pieces : List FileChange} {piece : FileChange}

/-- A piece does not fit into a chunk: the chunk holds a line already, and with the piece it holds
more than the budget admits. -/
def Overflows (budget : Budget) (filled : List FileChange) (piece : FileChange) : Prop :=
  0 < (⟨filled⟩ : Diff).lineCount ∧
    budget.admits ((⟨filled⟩ : Diff).lineCount + piece.lineCount) = false

theorem not_overflows_nil (budget : Budget) (piece : FileChange) : ¬Overflows budget [] piece := by
  simp [Overflows]

theorem fill_cons_of_overflows (overflows : Overflows budget filled piece) :
    fill budget filled (piece :: pieces) = ⟨filled⟩ :: fill budget [piece] pieces := by
  simp [fill, overflows.1, overflows.2]

theorem fill_cons_of_not_overflows (fits : ¬Overflows budget filled piece) :
    fill budget filled (piece :: pieces) = fill budget (filled ++ [piece]) pieces := by
  rw [fill, if_neg]
  simpa [Overflows] using fits

/-- The first chunk goes on from what it already has. -/
theorem exists_fill_eq_cons (budget : Budget) (pieces : List FileChange) (nonempty : filled ≠ []) :
    ∃ more chunks, fill budget filled pieces = ⟨filled ++ more⟩ :: chunks := by
  induction pieces generalizing filled with
  | nil => exact ⟨[], [], by simp [fill, nonempty]⟩
  | cons piece pieces induct =>
      by_cases overflows : Overflows budget filled piece
      · exact ⟨[], fill budget [piece] pieces, by simp [fill_cons_of_overflows overflows]⟩
      · have notEmpty : filled ++ [piece] ≠ [] := by simp
        obtain ⟨more, chunks, same⟩ := induct notEmpty
        exact ⟨piece :: more, chunks, by simp [fill_cons_of_not_overflows overflows, same]⟩

/-- The first piece of a chunk does not fit into the chunk before it. -/
def IsForcedCut (budget : Budget) (chunk next : Diff) : Prop :=
  ∃ piece rest, next.files = piece :: rest ∧ Overflows budget chunk.files piece

theorem isChain_fill (budget : Budget) (filled pieces : List FileChange) :
    (fill budget filled pieces).IsChain (IsForcedCut budget) := by
  induction pieces generalizing filled with
  | nil => cases filled <;> simp [fill]
  | cons piece pieces induct =>
      by_cases overflows : Overflows budget filled piece
      · obtain ⟨more, chunks, next⟩ :=
          exists_fill_eq_cons budget pieces (List.cons_ne_nil piece [])
        have later := induct [piece]
        rw [fill_cons_of_overflows overflows]
        rw [next] at later ⊢
        exact List.isChain_cons_cons.mpr ⟨⟨piece, more, rfl, overflows⟩, later⟩
      · rw [fill_cons_of_not_overflows overflows]
        exact induct (filled ++ [piece])

/-- Filling some pieces from nothing makes no cut in them. -/
def StaysWhole (budget : Budget) (filled : List FileChange) : Prop :=
  ∀ pieces, fill budget [] (filled ++ pieces) = fill budget filled pieces

theorem staysWhole_append (whole : StaysWhole budget filled)
    (fits : ¬Overflows budget filled piece) : StaysWhole budget (filled ++ [piece]) := by
  intro pieces
  calc
    fill budget [] (filled ++ [piece] ++ pieces) = fill budget filled (piece :: pieces) := by
      simpa using whole (piece :: pieces)
    _ = fill budget (filled ++ [piece]) pieces := fill_cons_of_not_overflows fits

theorem staysWhole_nil (budget : Budget) : StaysWhole budget [] := fun _ => rfl

theorem staysWhole_singleton (budget : Budget) (piece : FileChange) : StaysWhole budget [piece] :=
  staysWhole_append (staysWhole_nil budget) (not_overflows_nil budget piece)

/-- No chunk is cut when it is filled again. -/
theorem staysWhole_of_mem_fill (whole : StaysWhole budget filled) {chunk : Diff}
    (isChunk : chunk ∈ fill budget filled pieces) : StaysWhole budget chunk.files := by
  induction pieces generalizing filled with
  | nil =>
      have same : chunk = ⟨filled⟩ := by
        cases filled <;> simp_all [fill]
      exact same ▸ whole
  | cons piece pieces induct =>
      by_cases overflows : Overflows budget filled piece
      · rw [fill_cons_of_overflows overflows] at isChunk
        rcases List.mem_cons.mp isChunk with rfl | later
        · exact whole
        · exact induct (staysWhole_singleton budget piece) later
      · rw [fill_cons_of_not_overflows overflows] at isChunk
        exact induct (staysWhole_append whole overflows) isChunk

/-! ## Pieces -/

/-- Every file has one hunk. -/
def IsInPieces (diff : Diff) : Prop :=
  ∀ file ∈ diff.files, ∃ hunk, file.hunks = [hunk]

theorem isInPieces_of_mem_chunks {diff chunk : Diff} (isChunk : chunk ∈ chunks budget diff) :
    chunk.IsInPieces := by
  intro file isFile
  have isPiece : file ∈ diff.pieces := by
    rw [← flatMap_files_chunks budget]
    exact List.mem_flatMap.mpr ⟨chunk, isChunk, isFile⟩
  obtain ⟨whole, -, isOnly⟩ := List.mem_flatMap.mp isPiece
  obtain ⟨hunk, -, rfl⟩ := List.mem_map.mp isOnly
  exact ⟨hunk, rfl⟩

/-- Nothing is to be taken apart where every file has one hunk. -/
theorem pieces_of_isInPieces {diff : Diff} (inPieces : diff.IsInPieces) :
    diff.pieces = diff.files := by
  have alone : ∀ file ∈ diff.files, file.hunks.map file.only = [file] := by
    rintro ⟨oldPath, newPath, hunks⟩ isFile
    obtain ⟨hunk, rfl⟩ := inPieces _ isFile
    rfl
  rw [pieces, List.flatMap_congr alone]
  simp

theorem hunkCount_pos_of_isInPieces {diff : Diff} (inPieces : diff.IsInPieces)
    (nonempty : diff.files ≠ []) : 0 < diff.hunkCount := by
  obtain ⟨file, isFile⟩ := List.exists_mem_of_ne_nil _ nonempty
  obtain ⟨hunk, single⟩ := inPieces file isFile
  rw [Nat.pos_iff_ne_zero, Ne, ← isEmpty_iff_hunkCount_eq_zero]
  intro empty
  simpa [single] using List.all_eq_true.mp empty file isFile

/-- A chunk is not cut when it is cut into chunks again. -/
theorem chunks_of_mem_chunks {diff chunk : Diff} (isChunk : chunk ∈ chunks budget diff) :
    chunks budget chunk = [chunk] := by
  have nonempty : chunk.files ≠ [] := files_ne_nil_of_mem_fill _ _ _ chunk isChunk
  have whole : StaysWhole budget chunk.files :=
    staysWhole_of_mem_fill (staysWhole_nil budget) isChunk
  calc
    chunks budget chunk = fill budget [] chunk.files := by
      rw [chunks, pieces_of_isInPieces (isInPieces_of_mem_chunks isChunk)]
    _ = fill budget chunk.files [] := by simpa using whole []
    _ = [chunk] := by simp [fill, nonempty]

/-- Where chunks are cut, the chunk holds a line, and the first hunk of the next one would exceed
the number of lines that are asked for. -/
theorem isChain_chunks_atMost (most : Nat) (diff : Diff) :
    (chunks (.atMost most) diff).IsChain fun chunk next =>
      0 < chunk.lineCount ∧ ∃ file hunk rest, next.files = file :: rest ∧ file.hunks = [hunk] ∧
        most < chunk.lineCount + hunk.lineCount := by
  have forced := isChain_fill (.atMost most) [] diff.pieces
  refine List.IsChain.imp_of_mem_imp ?_ forced
  rintro chunk next - isNext ⟨file, rest, first, filled, exceeds⟩
  obtain ⟨hunk, single⟩ := isInPieces_of_mem_chunks isNext file (by simp [first])
  refine ⟨filled, file, hunk, rest, first, single, ?_⟩
  simpa [Budget.admits, FileChange.lineCount, single] using exceeds

/-- Cutting a diff into chunks of a positive number of lines keeps every hunk, with the paths of its
file and in order, makes no chunk without a hunk, cuts only where the next hunk does not fit, and
does not cut a chunk again. -/
theorem chunks_divide_hunks (diff : Diff) {most : Int} (positive : 1 ≤ most) :
    ∃ budget, Budget.ofInteger most = .ok budget ∧
      (chunks budget diff).flatMap Diff.files =
        diff.files.flatMap (fun file => file.hunks.map fun hunk =>
          { oldPath := file.oldPath, newPath := file.newPath, hunks := [hunk] }) ∧
      (∀ chunk ∈ chunks budget diff, 0 < chunk.hunkCount) ∧
      (chunks budget diff).IsChain (fun chunk next =>
        0 < chunk.lineCount ∧ ∃ file hunk rest, next.files = file :: rest ∧ file.hunks = [hunk] ∧
          most < chunk.lineCount + hunk.lineCount) ∧
      ∀ chunk ∈ chunks budget diff, chunks budget chunk = [chunk] := by
  have accepted : Budget.ofInteger most = .ok (.atMost most.toNat) := by
    rw [Budget.ofInteger, if_neg (by omega)]
  refine ⟨.atMost most.toNat, accepted, flatMap_files_chunks _ diff, ?_, ?_, ?_⟩
  · intro chunk isChunk
    exact hunkCount_pos_of_isInPieces (isInPieces_of_mem_chunks isChunk)
      (files_ne_nil_of_mem_fill _ _ _ chunk isChunk)
  · refine (isChain_chunks_atMost most.toNat diff).imp ?_
    rintro chunk next ⟨filled, file, hunk, rest, first, single, exceeds⟩
    exact ⟨filled, file, hunk, rest, first, single, by omega⟩
  · intro chunk isChunk
    exact chunks_of_mem_chunks isChunk

/-- New lines at the top of a file, with nothing said in them. -/
def blankLines (count : Nat) : Hunk where
  oldStart := 0
  oldCount := 0
  newStart := 1
  newCount := count
  lines := List.replicate count ⟨.added, []⟩

/-- Hunks larger than two lines, of no lines and of two, and a file without hunks between them. -/
def uneven : Diff :=
  ⟨[{ oldPath := some ['a'], newPath := some ['a'], hunks := [blankLines 0, blankLines 3] },
    { oldPath := some ['b'], newPath := some devNull },
    { oldPath := some ['c'], newPath := some ['d']
      hunks := [blankLines 0, blankLines 1, blankLines 1, blankLines 2] }]⟩

theorem chunks_divide_hunks_uneven :
    (1 : Int) ≤ 2 ∧ ∃ budget, Budget.ofInteger 2 = .ok budget ∧
      (chunks budget uneven).map (fun chunk => chunk.files.map FileChange.lineCount) =
        [[0, 3], [0, 1, 1], [2]] ∧
      ∀ chunk ∈ chunks budget uneven, chunks budget chunk = [chunk] := by
  have positive : (1 : Int) ≤ 2 := by decide
  obtain ⟨budget, accepted, -, -, -, whole⟩ := chunks_divide_hunks uneven positive
  obtain rfl : .atMost 2 = budget := Except.ok.inj accepted
  exact ⟨positive, .atMost 2, accepted, by decide, whole⟩

end Diff

end Marginalia
