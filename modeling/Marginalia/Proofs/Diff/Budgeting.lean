import Mathlib.Data.List.Chain
import Mathlib.Tactic.Common
import Marginalia.Diff.Reader
import Marginalia.Proofs.Diff.Chunking

/-!
# Chunks over the budget

A chunk is over the budget only by its last hunk, and all hunks before that one are without lines.
Whether there are any depends on the sizes of the hunks alone: hunks without lines are not separated
from a larger one behind them when they are the first hunks of all, or stand right behind a hunk
that is over the budget itself.
-/

namespace Marginalia

namespace Diff

variable {most : Nat} {filled pieces : List FileChange}

/-- The last piece exceeds a number of lines, and no other piece has a line. -/
def IsOverfull (most : Nat) (filled : List FileChange) : Prop :=
  ∃ empty large, filled = empty ++ [large] ∧ (∀ piece ∈ empty, piece.lineCount = 0) ∧
    most < large.lineCount

theorem lineCount_eq_zero_iff :
    (⟨filled⟩ : Diff).lineCount = 0 ↔ ∀ piece ∈ filled, piece.lineCount = 0 := by
  simp [lineCount, total_eq_zero_iff]

theorem lineCount_concat (filled : List FileChange) (piece : FileChange) :
    (⟨filled ++ [piece]⟩ : Diff).lineCount = (⟨filled⟩ : Diff).lineCount + piece.lineCount := by
  simp [lineCount]

theorem overflows_atMost_iff {piece : FileChange} :
    Overflows (.atMost most) filled piece ↔
      0 < (⟨filled⟩ : Diff).lineCount ∧ most < (⟨filled⟩ : Diff).lineCount + piece.lineCount := by
  simp [Overflows, Budget.admits]

theorem IsOverfull.lt_lineCount (overfull : IsOverfull most filled) :
    most < (⟨filled⟩ : Diff).lineCount := by
  obtain ⟨empty, large, rfl, -, exceeds⟩ := overfull
  rw [lineCount_concat]
  omega

theorem le_or_isOverfull_concat {piece : FileChange}
    (fits : ¬Overflows (.atMost most) filled piece) :
    (⟨filled ++ [piece]⟩ : Diff).lineCount ≤ most ∨ IsOverfull most (filled ++ [piece]) := by
  rw [overflows_atMost_iff] at fits
  rw [lineCount_concat]
  by_cases within : (⟨filled⟩ : Diff).lineCount + piece.lineCount ≤ most
  · exact .inl within
  · have noLines : (⟨filled⟩ : Diff).lineCount = 0 := by omega
    exact .inr ⟨filled, piece, rfl, lineCount_eq_zero_iff.mp noLines, by omega⟩

theorem le_or_isOverfull_of_mem_fill
    (sound : (⟨filled⟩ : Diff).lineCount ≤ most ∨ IsOverfull most filled) {chunk : Diff}
    (isChunk : chunk ∈ fill (.atMost most) filled pieces) :
    chunk.lineCount ≤ most ∨ IsOverfull most chunk.files := by
  induction pieces generalizing filled with
  | nil =>
      have same : chunk = ⟨filled⟩ := by
        cases filled <;> simp_all [fill]
      exact same ▸ sound
  | cons piece pieces induct =>
      by_cases overflows : Overflows (.atMost most) filled piece
      · rw [fill_cons_of_overflows overflows] at isChunk
        rcases List.mem_cons.mp isChunk with rfl | later
        · exact sound
        · exact induct (le_or_isOverfull_concat (not_overflows_nil _ piece)) later
      · rw [fill_cons_of_not_overflows overflows] at isChunk
        exact induct (le_or_isOverfull_concat overflows) isChunk

theorem le_or_isOverfull_of_mem_chunks {diff chunk : Diff}
    (isChunk : chunk ∈ chunks (.atMost most) diff) :
    chunk.lineCount ≤ most ∨ IsOverfull most chunk.files :=
  le_or_isOverfull_of_mem_fill (.inl (Nat.zero_le most)) isChunk

/-! ## Starting afresh -/

/-- A chunk that is over the budget is closed before whatever comes next. -/
theorem fill_of_lt_lineCount (exceeds : most < (⟨filled⟩ : Diff).lineCount)
    (pieces : List FileChange) :
    fill (.atMost most) filled pieces = ⟨filled⟩ :: fill (.atMost most) [] pieces := by
  cases pieces with
  | nil =>
      have nonempty : filled ≠ [] := by
        rintro rfl
        simp at exceeds
      simp [fill, nonempty]
  | cons piece pieces =>
      have overflows : Overflows (.atMost most) filled piece := by
        rw [overflows_atMost_iff]
        omega
      rw [fill_cons_of_overflows overflows,
        fill_cons_of_not_overflows (not_overflows_nil _ piece), List.nil_append]

theorem exists_fill_append (budget : Budget) (filled front rest : List FileChange) :
    ∃ closed pending, fill budget filled (front ++ rest) = closed ++ fill budget pending rest := by
  induction front generalizing filled with
  | nil => exact ⟨[], filled, rfl⟩
  | cons piece front induct =>
      by_cases overflows : Overflows budget filled piece
      · obtain ⟨closed, pending, same⟩ := induct [piece]
        refine ⟨⟨filled⟩ :: closed, pending, ?_⟩
        rw [List.cons_append, fill_cons_of_overflows overflows, same, List.cons_append]
      · obtain ⟨closed, pending, same⟩ := induct (filled ++ [piece])
        refine ⟨closed, pending, ?_⟩
        rw [List.cons_append, fill_cons_of_not_overflows overflows, same]

/-- After a piece that is over the budget, filling goes on as from the beginning. -/
theorem exists_fill_cons_of_large {large : FileChange} (exceeds : most < large.lineCount)
    (filled rest : List FileChange) :
    ∃ closed, fill (.atMost most) filled (large :: rest) =
      closed ++ fill (.atMost most) [] rest := by
  have beyond (before : List FileChange) : most < (⟨before ++ [large]⟩ : Diff).lineCount := by
    rw [lineCount_concat]
    omega
  have alone : most < (⟨[large]⟩ : Diff).lineCount := beyond []
  by_cases overflows : Overflows (.atMost most) filled large
  · refine ⟨[⟨filled⟩, ⟨[large]⟩], ?_⟩
    rw [fill_cons_of_overflows overflows, fill_of_lt_lineCount alone]
    rfl
  · refine ⟨[⟨filled ++ [large]⟩], ?_⟩
    rw [fill_cons_of_not_overflows overflows, fill_of_lt_lineCount (beyond filled)]
    rfl

/-- Pieces without lines do not close a chunk, so what comes behind them comes into their chunk. -/
theorem fill_of_noLines {empty : List FileChange} (noLines : ∀ piece ∈ empty, piece.lineCount = 0)
    (unfilled : (⟨filled⟩ : Diff).lineCount = 0) (pieces : List FileChange) :
    fill (.atMost most) filled (empty ++ pieces) =
      fill (.atMost most) (filled ++ empty) pieces := by
  induction empty generalizing filled with
  | nil => simp
  | cons piece empty induct =>
      rw [List.forall_mem_cons] at noLines
      have fits : ¬Overflows (.atMost most) filled piece := by
        rw [overflows_atMost_iff]
        omega
      have stillUnfilled : (⟨filled ++ [piece]⟩ : Diff).lineCount = 0 := by
        rw [lineCount_concat]
        omega
      rw [List.cons_append, fill_cons_of_not_overflows fits, induct noLines.2 stillUnfilled,
        List.append_assoc, List.singleton_append]

/-! ## What comes before a large hunk -/

/-- Among some sizes, one that exceeds a number comes right behind noughts, which come first or
right behind another one that exceeds the number. -/
def ExceedsBehindNoughts (most : Nat) (sizes : List Nat) : Prop :=
  ∃ front noughts large back,
    sizes = front ++ List.replicate (noughts + 1) 0 ++ large :: back ∧ most < large ∧
      ∀ last ∈ front.getLast?, most < last

/-- The sizes of all hunks, in order. -/
def hunkSizes (diff : Diff) : List Nat :=
  diff.files.flatMap fun file => file.hunks.map Hunk.lineCount

theorem map_lineCount_pieces (diff : Diff) :
    diff.pieces.map FileChange.lineCount = diff.hunkSizes := by
  simp [pieces, hunkSizes, List.map_flatMap, Function.comp_def]

theorem hunkCount_of_isInPieces {diff : Diff} (inPieces : diff.IsInPieces) :
    diff.hunkCount = diff.files.length := by
  have single : ∀ file ∈ diff.files, file.hunks.length = 1 := by
    intro file isFile
    obtain ⟨hunk, same⟩ := inPieces file isFile
    rw [same, List.length_singleton]
  obtain ⟨files⟩ := diff
  induction files with
  | nil => rfl
  | cons file files induct =>
      rw [List.forall_mem_cons] at single
      have later := induct (fun other isOther => inPieces other (List.mem_cons_of_mem file isOther))
        single.2
      rw [hunkCount] at later ⊢
      rw [List.map_cons, total_cons, later, single.1, List.length_cons, Nat.add_comm]

theorem exists_isOverfull_chunk {diff : Diff} (behind : ExceedsBehindNoughts most diff.hunkSizes) :
    ∃ empty large, ⟨empty ++ [large]⟩ ∈ chunks (.atMost most) diff ∧ empty ≠ [] ∧
      most < large.lineCount := by
  obtain ⟨frontSizes, noughts, largeSize, backSizes, sizes, exceeds, started⟩ := behind
  rw [← map_lineCount_pieces, List.append_assoc, List.map_eq_append_iff] at sizes
  obtain ⟨front, rest, isFront, rfl, sizes⟩ := sizes
  rw [List.map_eq_append_iff] at sizes
  obtain ⟨empty, rest, rfl, areNoughts, sizes⟩ := sizes
  rw [List.map_eq_cons_iff] at sizes
  obtain ⟨large, back, rfl, rfl, -⟩ := sizes
  have noLines : ∀ piece ∈ empty, piece.lineCount = 0 := by
    intro piece isPiece
    have isSize : piece.lineCount ∈ empty.map FileChange.lineCount := List.mem_map_of_mem isPiece
    rw [areNoughts] at isSize
    exact List.eq_of_mem_replicate isSize
  have nonempty : empty ≠ [] := by
    rintro rfl
    simp at areNoughts
  have afresh : ∃ closed, fill (.atMost most) [] (front ++ (empty ++ large :: back)) =
      closed ++ fill (.atMost most) [] (empty ++ large :: back) := by
    rcases List.eq_nil_or_concat front with rfl | ⟨init, last, rfl⟩
    · exact ⟨[], rfl⟩
    · have largeLast : most < last.lineCount := by
        apply started
        simp
      obtain ⟨closed, pending, first⟩ := exists_fill_append (.atMost most) [] init
        (last :: (empty ++ large :: back))
      obtain ⟨more, second⟩ := exists_fill_cons_of_large largeLast pending (empty ++ large :: back)
      refine ⟨closed ++ more, ?_⟩
      rw [List.concat_eq_append, List.append_assoc, List.singleton_append, first, second,
        List.append_assoc]
  obtain ⟨closed, split⟩ := afresh
  have fits : ¬Overflows (.atMost most) empty large := by
    have unfilled := lineCount_eq_zero_iff.mpr noLines
    rw [overflows_atMost_iff]
    omega
  have beyond : most < (⟨empty ++ [large]⟩ : Diff).lineCount :=
    IsOverfull.lt_lineCount ⟨empty, large, rfl, noLines, exceeds⟩
  refine ⟨empty, large, ?_, nonempty, exceeds⟩
  rw [chunks, isFront, split, fill_of_noLines noLines lineCount_nil, List.nil_append,
    fill_cons_of_not_overflows fits, fill_of_lt_lineCount beyond]
  simp

/-- The hunks before an overfull chunk are none, or end in one that exceeds the budget. -/
theorem lt_lineCount_of_getLast?_before {diff chunk : Diff} {before after : List Diff}
    (split : chunks (.atMost most) diff = before ++ chunk :: after) {piece : FileChange}
    {rest : List FileChange} (opens : chunk.files = piece :: rest) (noLines : piece.lineCount = 0) :
    ∀ last ∈ (before.flatMap Diff.files).getLast?, most < last.lineCount := by
  rcases List.eq_nil_or_concat before with rfl | ⟨init, former, rfl⟩
  · simp
  · have forced := isChain_fill (.atMost most) [] diff.pieces
    rw [← chunks, split, List.concat_eq_append, List.append_assoc, List.singleton_append] at forced
    obtain ⟨first, others, sameFiles, overflows⟩ :=
      (List.isChain_cons_cons.mp (List.isChain_append.mp forced).2.1).1
    obtain ⟨rfl, rfl⟩ := List.cons.inj (opens.symm.trans sameFiles)
    rw [overflows_atMost_iff, noLines] at overflows
    have isFormer : former ∈ chunks (.atMost most) diff := by simp [split]
    rcases le_or_isOverfull_of_mem_chunks isFormer with within | ⟨empty, large, shape, -, exceeds⟩
    · exact absurd overflows.2 (Nat.not_lt.mpr within)
    · simpa [shape] using exceeds

theorem exceedsBehindNoughts_of_mem_chunks {diff : Diff} {empty : List FileChange}
    {large : FileChange} (isChunk : ⟨empty ++ [large]⟩ ∈ chunks (.atMost most) diff)
    (nonempty : empty ≠ []) (noLines : ∀ piece ∈ empty, piece.lineCount = 0)
    (exceeds : most < large.lineCount) : ExceedsBehindNoughts most diff.hunkSizes := by
  obtain ⟨before, after, split⟩ := List.append_of_mem isChunk
  obtain ⟨piece, others, rfl⟩ := List.exists_cons_of_ne_nil nonempty
  have started := lt_lineCount_of_getLast?_before split (List.cons_append) (noLines piece (by simp))
  have areNoughts : (piece :: others).map FileChange.lineCount =
      List.replicate (others.length + 1) 0 :=
    List.eq_replicate_iff.mpr ⟨by simp, by simpa using noLines⟩
  refine ⟨(before.flatMap Diff.files).map FileChange.lineCount, others.length, large.lineCount,
    (after.flatMap Diff.files).map FileChange.lineCount, ?_, exceeds, ?_⟩
  · rw [← map_lineCount_pieces, ← flatMap_files_chunks (.atMost most), split, ← areNoughts]
    simp
  · simpa using started

theorem within_or_single_iff (most : Nat) (diff : Diff) :
    (∀ chunk ∈ chunks (.atMost most) diff, chunk.lineCount ≤ most ∨ chunk.hunkCount = 1) ↔
      ¬ExceedsBehindNoughts most diff.hunkSizes := by
  constructor
  · intro bounded behind
    obtain ⟨empty, large, isChunk, nonempty, exceeds⟩ := exists_isOverfull_chunk behind
    have length := hunkCount_of_isInPieces (isInPieces_of_mem_chunks isChunk)
    have positive := List.length_pos_of_ne_nil nonempty
    have beyond := lineCount_concat empty large
    rw [List.length_append, List.length_singleton] at length
    rcases bounded _ isChunk with within | single
    · omega
    · omega
  · intro apart chunk isChunk
    rcases le_or_isOverfull_of_mem_chunks isChunk with
      within | ⟨empty, large, shape, noLines, exceeds⟩
    · exact .inl within
    · obtain ⟨files⟩ := chunk
      obtain rfl : files = empty ++ [large] := shape
      have alone : empty = [] := by
        by_contra nonempty
        exact apart (exceedsBehindNoughts_of_mem_chunks isChunk nonempty noLines exceeds)
      right
      rw [hunkCount_of_isInPieces (isInPieces_of_mem_chunks isChunk), alone]
      rfl

theorem lineCount_le_of_mem {diff : Diff} {file : FileChange} (isFile : file ∈ diff.files) :
    file.lineCount ≤ diff.lineCount := by
  obtain ⟨files⟩ := diff
  obtain ⟨front, back, rfl⟩ := List.append_of_mem isFile
  rw [lineCount_append]
  simp only [lineCount, List.map_cons, total_cons]
  omega

/-- To stay within the budget but for a single hunk is to have no company for a hunk that exceeds
it. -/
theorem within_or_single_iff_alone {diff chunk : Diff}
    (isChunk : chunk ∈ chunks (.atMost most) diff) :
    (chunk.lineCount ≤ most ∨ chunk.hunkCount = 1) ↔
      ∀ file ∈ chunk.files, most < file.lineCount → chunk.files = [file] := by
  rw [hunkCount_of_isInPieces (isInPieces_of_mem_chunks isChunk)]
  constructor
  · rintro bounded file isFile exceeds
    have least := lineCount_le_of_mem isFile
    obtain ⟨only, same⟩ : ∃ only, chunk.files = [only] :=
      List.length_eq_one_iff.mp (bounded.resolve_left (by omega))
    rw [same, List.mem_singleton] at isFile
    rw [same, isFile]
  · intro alone
    rcases le_or_isOverfull_of_mem_chunks isChunk with within | ⟨empty, large, shape, -, exceeds⟩
    · exact .inl within
    · right
      rw [alone large (by simp [shape]) exceeds, List.length_singleton]

/-- A chunk stays within the budget, or is a hunk that exceeds it behind hunks without lines.  Such
hunks are never in front of it, in any chunk, exactly when no hunk that exceeds the budget comes
right behind hunks without lines that come first or right behind another one that exceeds it. -/
theorem within_budget_or_single_iff (diff : Diff) {most : Nat} (positive : 1 ≤ most) :
    Budget.ofInteger most = .ok (.atMost most) ∧
      (∀ chunk ∈ chunks (.atMost most) diff,
        chunk.lineCount ≤ most ∨ ∃ empty large, chunk.files = empty ++ [large] ∧
          (∀ file ∈ empty, file.lineCount = 0) ∧ most < large.lineCount) ∧
      ((∀ chunk ∈ chunks (.atMost most) diff,
          chunk.lineCount ≤ most ∨ chunk.hunkCount = 1) ↔
        ¬ExceedsBehindNoughts most diff.hunkSizes) ∧
      ((∀ chunk ∈ chunks (.atMost most) diff, ∀ file ∈ chunk.files,
          most < file.lineCount → chunk.files = [file]) ↔
        ¬ExceedsBehindNoughts most diff.hunkSizes) := by
  refine ⟨Budget.ofInteger_of_positive positive, ?_, within_or_single_iff most diff, ?_⟩
  · intro chunk isChunk
    exact le_or_isOverfull_of_mem_chunks isChunk
  · rw [← within_or_single_iff]
    exact forall₂_congr fun chunk isChunk => (within_or_single_iff_alone isChunk).symm

theorem within_budget_or_single_iff_uneven :
    1 ≤ 3 ∧ ¬ExceedsBehindNoughts 3 uneven.hunkSizes ∧
      ∀ chunk ∈ chunks (.atMost 3) uneven, chunk.lineCount ≤ 3 ∨ chunk.hunkCount = 1 := by
  have positive : 1 ≤ 3 := by decide
  obtain ⟨-, -, bounded, -⟩ := within_budget_or_single_iff uneven positive
  have holds : ∀ chunk ∈ chunks (.atMost 3) uneven, chunk.lineCount ≤ 3 ∨ chunk.hunkCount = 1 := by
    decide
  exact ⟨positive, bounded.mp holds, holds⟩

/-- A hunk without lines in front of one of two lines, where chunks are to have a single line. -/
theorem exists_chunk_over_budget :
    ∃ (text : Text) (diff : Diff), read text = .ok diff ∧
      ∃ chunk ∈ chunks (.atMost 1) diff, 1 < chunk.lineCount ∧ chunk.hunkCount ≠ 1 := by
  refine ⟨"--- a/f\n+++ b/f\n@@ -0,0 +0,0 @@\n@@ -0,0 +1,2 @@\n+a\n+b\n".toList, _, rfl, ?_⟩
  decide

end Diff

end Marginalia
