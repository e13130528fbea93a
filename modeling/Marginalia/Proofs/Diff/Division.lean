import Mathlib.Data.List.Induction
import Mathlib.Tactic.Common
import Marginalia.Proofs.Diff.Budgeting

/-!
# As few chunks as possible

However the hunks of a diff are divided into consecutive groups that keep to the budget, filling
chunks from the front stays ahead of the division.  While it goes through one of the groups it
closes one chunk at most: what is left of the group behind the cut fits into a chunk as a whole.
-/

namespace Marginalia

namespace Diff

variable {most : Nat}

/-! ## Divisions -/

/-- The hunks of all files, in order. -/
def hunkSequence (diff : Diff) : List Hunk :=
  diff.files.flatMap (·.hunks)

/-- A division of hunks into consecutive groups, none of them empty, each of which keeps to a number
of lines or is a single hunk. -/
structure IsDivision (most : Nat) (hunks : List Hunk) (groups : List (List Hunk)) : Prop where
  joined : groups.flatten = hunks
  nonempty : ∀ group ∈ groups, group ≠ []
  bounded : ∀ group ∈ groups, total (group.map Hunk.lineCount) ≤ most ∨ group.length = 1

theorem length_hunkSequence (diff : Diff) : diff.hunkSequence.length = diff.hunkCount := by
  obtain ⟨files⟩ := diff
  induction files with
  | nil => rfl
  | cons file files induct =>
      simp only [hunkSequence, hunkCount] at induct ⊢
      rw [List.flatMap_cons, List.length_append, induct, List.map_cons, total_cons]

theorem total_lineCount_hunkSequence (diff : Diff) :
    total (diff.hunkSequence.map Hunk.lineCount) = diff.lineCount := by
  obtain ⟨files⟩ := diff
  induction files with
  | nil => rfl
  | cons file files induct =>
      simp only [hunkSequence, lineCount] at induct ⊢
      rw [List.flatMap_cons, List.map_append, total_append, induct, List.map_cons, total_cons,
        FileChange.lineCount]

theorem map_lineCount_hunkSequence (diff : Diff) :
    diff.hunkSequence.map Hunk.lineCount = diff.pieces.map FileChange.lineCount := by
  rw [map_lineCount_pieces, hunkSequence, hunkSizes, List.map_flatMap]

theorem flatMap_hunks_pieces (diff : Diff) :
    diff.pieces.flatMap (·.hunks) = diff.hunkSequence := by
  rw [pieces, hunkSequence, List.flatMap_assoc]
  refine List.flatMap_congr fun file _ => ?_
  rw [List.flatMap_map]
  exact List.flatMap_singleton' file.hunks

/-- The hunks of the chunks are the hunks of the diff, in order. -/
theorem flatten_hunkSequence_chunks (budget : Budget) (diff : Diff) :
    ((chunks budget diff).map hunkSequence).flatten = diff.hunkSequence :=
  calc
    ((chunks budget diff).map hunkSequence).flatten = (chunks budget diff).flatMap hunkSequence :=
      rfl
    _ = ((chunks budget diff).flatMap Diff.files).flatMap (·.hunks) := List.flatMap_assoc.symm
    _ = diff.hunkSequence := by rw [flatMap_files_chunks, flatMap_hunks_pieces]

/-- Chunks that keep to the budget, or are single hunks, are a division. -/
theorem isDivision_chunks {diff : Diff}
    (bounded : ∀ chunk ∈ chunks (.atMost most) diff, chunk.lineCount ≤ most ∨ chunk.hunkCount = 1) :
    IsDivision most diff.hunkSequence ((chunks (.atMost most) diff).map hunkSequence) where
  joined := flatten_hunkSequence_chunks _ diff
  nonempty := by
    intro group isGroup empty
    obtain ⟨chunk, isChunk, rfl⟩ := List.mem_map.mp isGroup
    have positive := hunkCount_pos_of_isInPieces (isInPieces_of_mem_chunks isChunk)
      (files_ne_nil_of_mem_fill _ _ _ chunk isChunk)
    rw [← length_hunkSequence, empty] at positive
    exact Nat.lt_irrefl 0 positive
  bounded := by
    intro group isGroup
    obtain ⟨chunk, isChunk, rfl⟩ := List.mem_map.mp isGroup
    rw [total_lineCount_hunkSequence, length_hunkSequence]
    exact bounded chunk isChunk

/-! ## Staying ahead -/

/-- Pieces that may stand in one group. -/
def Fits (most : Nat) (group : List FileChange) : Prop :=
  (⟨group⟩ : Diff).lineCount ≤ most ∨ group.length ≤ 1

theorem Fits.tail {piece : FileChange} {group : List FileChange}
    (fits : Fits most (piece :: group)) : Fits most group := by
  rcases fits with within | short
  · have split := lineCount_append [piece] group
    rw [List.singleton_append] at split
    exact .inl (by omega)
  · rw [List.length_cons] at short
    exact .inr (by omega)

theorem staysWhole_of_le {group : List FileChange} (within : (⟨group⟩ : Diff).lineCount ≤ most) :
    StaysWhole (.atMost most) group := by
  induction group using List.reverseRecOn with
  | nil => exact staysWhole_nil _
  | append_singleton group piece induct =>
      rw [lineCount_concat] at within
      have fits : ¬Overflows (.atMost most) group piece := by
        rw [overflows_atMost_iff]
        omega
      exact staysWhole_append (induct (by omega)) fits

theorem Fits.staysWhole {group : List FileChange} (fits : Fits most group) :
    StaysWhole (.atMost most) group := by
  rcases fits with within | short
  · exact staysWhole_of_le within
  · cases group with
    | nil => exact staysWhole_nil _
    | cons piece group =>
        obtain rfl : group = [] := by
          rw [List.length_cons] at short
          exact List.eq_nil_of_length_eq_zero (by omega)
        exact staysWhole_singleton _ piece

/-- Filling chunks with the pieces of one group closes one chunk at most. -/
theorem exists_fill_append_of_fits {group : List FileChange} (fits : Fits most group)
    (filled rest : List FileChange) :
    ∃ closed pending, closed.length ≤ 1 ∧
      fill (.atMost most) filled (group ++ rest) = closed ++ fill (.atMost most) pending rest := by
  induction group generalizing filled with
  | nil => exact ⟨[], filled, Nat.zero_le 1, rfl⟩
  | cons piece group induct =>
      by_cases overflows : Overflows (.atMost most) filled piece
      · -- What is left of the group fits, so the chunk that is opened here is not closed in it.
        refine ⟨[⟨filled⟩], piece :: group, Nat.le_refl 1, ?_⟩
        have afresh : fill (.atMost most) [] (piece :: group ++ rest) =
            fill (.atMost most) [piece] (group ++ rest) :=
          fill_cons_of_not_overflows (not_overflows_nil _ piece)
        calc
          fill (.atMost most) filled (piece :: group ++ rest) =
              ⟨filled⟩ :: fill (.atMost most) [piece] (group ++ rest) :=
            fill_cons_of_overflows overflows
          _ = ⟨filled⟩ :: fill (.atMost most) (piece :: group) rest := by
            rw [← afresh, fits.staysWhole rest]
      · obtain ⟨closed, pending, once, same⟩ := induct fits.tail (filled ++ [piece])
        refine ⟨closed, pending, once, ?_⟩
        rw [List.cons_append, fill_cons_of_not_overflows overflows, same]

theorem length_fill_le_succ {groups : List (List FileChange)}
    (fit : ∀ group ∈ groups, Fits most group) (filled : List FileChange) :
    (fill (.atMost most) filled groups.flatten).length ≤ groups.length + 1 := by
  induction groups generalizing filled with
  | nil => cases filled <;> simp [fill]
  | cons group groups induct =>
      obtain ⟨first, others⟩ := List.forall_mem_cons.mp fit
      obtain ⟨closed, pending, once, same⟩ :=
        exists_fill_append_of_fits first filled groups.flatten
      have later := induct others pending
      rw [List.flatten_cons, same, List.length_append, List.length_cons]
      omega

/-- No groups that fit are fewer than the chunks: the first group is not cut, and every other one
closes one chunk at most. -/
theorem length_fill_le {groups : List (List FileChange)} (fit : ∀ group ∈ groups, Fits most group) :
    (fill (.atMost most) [] groups.flatten).length ≤ groups.length := by
  cases groups with
  | nil => exact Nat.le_refl 0
  | cons group groups =>
      obtain ⟨first, others⟩ := List.forall_mem_cons.mp fit
      rw [List.flatten_cons, first.staysWhole, List.length_cons]
      exact length_fill_le_succ others group

/-! ## Fewest chunks -/

theorem fits_of_sizes {group : List Hunk} {part : List FileChange}
    (same : part.map FileChange.lineCount = group.map Hunk.lineCount)
    (bounded : total (group.map Hunk.lineCount) ≤ most ∨ group.length = 1) : Fits most part := by
  have length := congrArg List.length same
  rw [List.length_map, List.length_map] at length
  rcases bounded with within | single
  · left
    rwa [← same] at within
  · exact .inr (by omega)

/-- Pieces can be grouped as the hunks of a division are. -/
theorem exists_parts_of_bounded {groups : List (List Hunk)} {pieces : List FileChange}
    (bounded : ∀ group ∈ groups, total (group.map Hunk.lineCount) ≤ most ∨ group.length = 1)
    (sizes : pieces.map FileChange.lineCount = groups.flatten.map Hunk.lineCount) :
    ∃ parts : List (List FileChange), parts.flatten = pieces ∧ parts.length = groups.length ∧
      ∀ part ∈ parts, Fits most part := by
  induction groups generalizing pieces with
  | nil =>
      obtain rfl : pieces = [] := List.map_eq_nil_iff.mp sizes
      exact ⟨[], rfl, rfl, by simp⟩
  | cons group groups induct =>
      obtain ⟨first, others⟩ := List.forall_mem_cons.mp bounded
      rw [List.flatten_cons, List.map_append, List.map_eq_append_iff] at sizes
      obtain ⟨part, rest, rfl, here, later⟩ := sizes
      obtain ⟨parts, rfl, length, fit⟩ := induct others later
      refine ⟨part :: parts, rfl, congrArg (· + 1) length, ?_⟩
      exact List.forall_mem_cons.mpr ⟨fits_of_sizes here first, fit⟩

/-- However the hunks of a diff are divided into groups that keep to a number of lines or are single
hunks, there are at least as many groups as chunks.  Where all chunks keep to the number or are
single hunks, they are such a division themselves. -/
theorem chunks_fewest (diff : Diff) {most : Nat} (positive : 1 ≤ most) :
    Budget.ofInteger most = .ok (.atMost most) ∧
      (∀ groups, IsDivision most diff.hunkSequence groups →
        (chunks (.atMost most) diff).length ≤ groups.length) ∧
      ((∀ chunk ∈ chunks (.atMost most) diff, chunk.lineCount ≤ most ∨ chunk.hunkCount = 1) →
        IsDivision most diff.hunkSequence ((chunks (.atMost most) diff).map hunkSequence)) := by
  refine ⟨Budget.ofInteger_of_positive positive, ?_, isDivision_chunks⟩
  intro groups division
  have sizes : diff.pieces.map FileChange.lineCount = groups.flatten.map Hunk.lineCount := by
    rw [division.joined, map_lineCount_hunkSequence]
  obtain ⟨parts, joined, length, fit⟩ := exists_parts_of_bounded division.bounded sizes
  rw [← length, chunks, ← joined]
  exact length_fill_le fit

/-- The hunks of the uneven diff, the large one alone. -/
def unevenGroups : List (List Hunk) :=
  [[blankLines 0], [blankLines 3], [blankLines 0, blankLines 1, blankLines 1], [blankLines 2]]

theorem chunks_fewest_uneven :
    1 ≤ 2 ∧ IsDivision 2 uneven.hunkSequence unevenGroups ∧
      (chunks (.atMost 2) uneven).length ≤ unevenGroups.length ∧
      IsDivision 3 uneven.hunkSequence ((chunks (.atMost 3) uneven).map hunkSequence) := by
  have division : IsDivision 2 uneven.hunkSequence unevenGroups := ⟨rfl, by decide, by decide⟩
  have bounded : ∀ chunk ∈ chunks (.atMost 3) uneven,
      chunk.lineCount ≤ 3 ∨ chunk.hunkCount = 1 := by decide
  have two : 1 ≤ 2 := by decide
  have three : 1 ≤ 3 := by decide
  exact ⟨two, division, (chunks_fewest uneven two).2.1 _ division,
    (chunks_fewest uneven three).2.2 bounded⟩

end Diff

end Marginalia
