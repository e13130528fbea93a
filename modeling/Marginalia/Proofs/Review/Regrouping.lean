import Mathlib.Tactic.Common
import Marginalia.Proofs.Except
import Marginalia.Proofs.Review.Merging
import Marginalia.Proofs.Text.Blank
import Marginalia.Proofs.Text.SpacedWords

/-!
# Merging in groups

Reviews can be merged in groups, and the merged reviews of the groups once more.  Of the summaries
only the blanks between words depend on the grouping: what is seen of a merged review, its findings
and the words of its summary, is what is seen of its parts, one after the other.
-/

namespace Marginalia

/-- The words of a summary; what is no text has none. -/
def Value.summaryWords : Value → List Text
  | .text content => Text.spacedWords content
  | _ => []

namespace Review

section

variable {review : Review} {summary : Option Text}

/-- A summary is spoken as it is, or has no words. -/
theorem spokenSummary_cases (isSpoken : review.spokenSummary = .ok summary) :
    (∃ content, review.summary = .text content ∧ Text.isBlank content = false ∧
        summary = some content) ∨
      review.summary.summaryWords = [] ∧ summary = none := by
  rw [spokenSummary] at isSpoken
  cases kind : review.summary with
  | text content =>
      rw [kind] at isSpoken
      obtain rfl := Except.ok.inj isSpoken
      cases blank : Text.isBlank content with
      | false => exact .inl ⟨content, rfl, blank, rfl⟩
      | true => exact .inr ⟨(Text.spacedWords_eq_nil_iff content).mpr blank, rfl⟩
  | _ =>
      rw [kind] at isSpoken
      dsimp only at isSpoken
      split at isSpoken
      · cases isSpoken
      · exact .inr ⟨rfl, (Except.ok.inj isSpoken).symm⟩

theorem flatMap_spacedWords_of_spokenSummary (isSpoken : review.spokenSummary = .ok summary) :
    summary.toList.flatMap Text.spacedWords = review.summary.summaryWords := by
  rcases spokenSummary_cases isSpoken with ⟨content, isText, -, rfl⟩ | ⟨silent, rfl⟩
  · rw [isText, Option.toList_some, List.flatMap_singleton]
    rfl
  · rw [silent]
    rfl

theorem isSome_iff_of_spokenSummary (isSpoken : review.spokenSummary = .ok summary) :
    summary.isSome = true ↔ review.summary.summaryWords ≠ [] := by
  rcases spokenSummary_cases isSpoken with ⟨content, isText, visible, rfl⟩ | ⟨silent, rfl⟩
  · simp [isText, Value.summaryWords, Text.spacedWords_eq_nil_iff, visible]
  · simp [silent]

/-- A review has content when it has a finding, or a word in its summary. -/
theorem exists_hasContent_eq (spoken : review.summary.IsSummary) :
    ∃ content, review.hasContent = .ok content ∧
      (content = true ↔
        review.issues ≠ [] ∨ review.notes ≠ [] ∨ review.summary.summaryWords ≠ []) := by
  obtain ⟨summary, isSpoken⟩ := (exists_spokenSummary_iff review).mpr spoken
  rw [hasContent, isSpoken]
  split
  · rename_i none
    obtain ⟨noIssues, noNotes⟩ := Nat.add_eq_zero_iff.mp none
    refine ⟨summary.isSome, rfl, ?_⟩
    rw [isSome_iff_of_spokenSummary isSpoken, List.length_eq_zero_iff.mp noIssues,
      List.length_eq_zero_iff.mp noNotes]
    simp
  · rename_i some
    have found : review.issues ≠ [] ∨ review.notes ≠ [] := by
      rw [itemCount] at some
      rw [← List.length_pos_iff, ← List.length_pos_iff]
      omega
    exact ⟨true, rfl, iff_of_true rfl (found.imp_right .inl)⟩

end

section

variable {parts : List (Option Review)} {merged : Review}

/-- The merged summary is missing, or a text that is neither blank nor begins or ends in a blank. -/
theorem joinSummaries_cases (summaries : List Text) :
    joinSummaries summaries = .null ∧ summaries.flatMap Text.spacedWords = [] ∨
      ∃ content, joinSummaries summaries = .text content ∧ Text.isBlank content = false ∧
        Text.trim content = content ∧
        Text.spacedWords content = summaries.flatMap Text.spacedWords := by
  have sameWords : Text.spacedWords (Text.trim (Text.glue [' '] summaries)) =
      summaries.flatMap Text.spacedWords := by
    rw [Text.spacedWords_trim, Text.spacedWords_glue (by decide)]
  rw [joinSummaries]
  split
  · rename_i empty
    refine .inl ⟨rfl, ?_⟩
    rw [← sameWords, List.isEmpty_iff.mp empty, Text.spacedWords_nil]
  · rename_i some
    refine .inr ⟨_, rfl, ?_, Text.trim_trim _, sameWords⟩
    rw [← Bool.not_eq_true, ← Text.trim_eq_nil_iff, Text.trim_trim]
    simpa using some

/-- What is seen of a merged review is what is seen of its parts, one after the other. -/
def Gathers {Item : Type} (view : Review → List Item) : Prop :=
  ∀ {parts merged}, merge parts = .ok merged → view merged = (parts.filterMap id).flatMap view

theorem gathers_issues : Gathers issues := fun isMerged => (findings_of_merge isMerged).1

theorem gathers_notes : Gathers notes := fun isMerged => (findings_of_merge isMerged).2.1

theorem summary_of_merge (isMerged : merge parts = .ok merged) :
    ∃ summaries, merged.summary = joinSummaries summaries ∧
      summaries.flatMap Text.spacedWords =
        (parts.filterMap id).flatMap fun part => part.summary.summaryWords := by
  obtain ⟨spoken, areSpoken, last⟩ := bind_eq_ok_iff.mp isMerged
  obtain rfl := Except.ok.inj last
  refine ⟨spoken.filterMap id, rfl, ?_⟩
  rw [← flatMap_eq_of_mapM_eq_ok areSpoken fun _ _ => flatMap_spacedWords_of_spokenSummary,
    List.filterMap_eq_flatMap_toList, List.flatMap_assoc]
  rfl

/-- A merged summary is missing exactly when it has no words, and otherwise it neither begins nor
ends in a blank. -/
theorem isTrimmed_summary_of_merge (isMerged : merge parts = .ok merged) :
    merged.summary = .null ∧ merged.summary.summaryWords = [] ∨
      ∃ content, merged.summary = .text content ∧ Text.isBlank content = false ∧
        Text.trim content = content := by
  obtain ⟨summaries, joined, -⟩ := summary_of_merge isMerged
  rw [joined]
  rcases joinSummaries_cases summaries with ⟨null, -⟩ | ⟨content, isText, visible, trimmed, -⟩
  · exact .inl ⟨null, by rw [null]; rfl⟩
  · exact .inr ⟨content, isText, visible, trimmed⟩

theorem gathers_summaryWords : Gathers fun review => review.summary.summaryWords := by
  intro parts merged isMerged
  obtain ⟨summaries, joined, sameWords⟩ := summary_of_merge isMerged
  change merged.summary.summaryWords = _
  rw [joined, ← sameWords]
  rcases joinSummaries_cases summaries with ⟨null, silent⟩ | ⟨content, isText, -, -, words⟩
  · rw [null, silent]
    rfl
  · rw [isText, ← words]
    rfl

theorem Gathers.flatMap_of_mapM {Item : Type} {view : Review → List Item} (gathers : Gathers view)
    {groups : List (List (Option Review))} {mergedGroups : List Review}
    (areMerged : groups.mapM merge = .ok mergedGroups) :
    mergedGroups.flatMap view = (groups.flatten.filterMap id).flatMap view := by
  rw [flatMap_eq_of_mapM_eq_ok areMerged fun _ _ => gathers, List.filterMap_flatten,
    List.flatten_eq_flatMap, List.flatMap_assoc, List.flatMap_map]
  rfl

/-- What is gathered by merging is gathered by merging in groups. -/
theorem Gathers.regrouped {Item : Type} {view : Review → List Item} (gathers : Gathers view)
    {groups : List (List (Option Review))} {mergedGroups : List Review} {regrouped : Review}
    (isMerged : merge groups.flatten = .ok merged)
    (areMerged : groups.mapM merge = .ok mergedGroups)
    (isRegrouped : merge (mergedGroups.map some) = .ok regrouped) :
    view regrouped = view merged := by
  rw [gathers isMerged, gathers isRegrouped, filterMap_id_map_some,
    gathers.flatMap_of_mapM areMerged]

theorem summary_eq_null_iff_of_merge (isMerged : merge parts = .ok merged) :
    merged.summary = .null ↔ merged.summary.summaryWords = [] := by
  rcases isTrimmed_summary_of_merge isMerged with ⟨null, silent⟩ | ⟨content, isText, visible, -⟩
  · exact iff_of_true null silent
  · simp [isText, Value.summaryWords, Text.spacedWords_eq_nil_iff, visible]

/-- A merged review has content exactly when one of its parts has. -/
theorem exists_hasContent_of_merge (isMerged : merge parts = .ok merged) :
    ∃ content, merged.hasContent = .ok content ∧
      (content = true ↔ ∃ part, some part ∈ parts ∧ part.hasContent = .ok true) := by
  obtain ⟨content, isContent, hasAny⟩ := exists_hasContent_eq (findings_of_merge isMerged).2.2
  refine ⟨content, isContent, hasAny.trans ?_⟩
  have ofPart (part : Review) : some part ∈ parts ∧ part.hasContent = .ok true ↔
      part ∈ parts.filterMap id ∧
        (part.issues ≠ [] ∨ part.notes ≠ [] ∨ part.summary.summaryWords ≠ []) := by
    rw [List.mem_filterMap]
    simp only [id_eq, exists_eq_right]
    refine and_congr_right fun isPart => ?_
    have spoken := (exists_merge_iff parts).mp ⟨merged, isMerged⟩ part (by simpa using isPart)
    obtain ⟨own, isOwn, hasOwn⟩ := exists_hasContent_eq spoken
    rw [isOwn, Except.ok.injEq, hasOwn]
  have words : merged.summary.summaryWords = _ := gathers_summaryWords isMerged
  rw [gathers_issues isMerged, gathers_notes isMerged, words]
  simp only [ofPart, ne_eq, List.flatMap_eq_nil_iff, not_forall, and_or_left, exists_or,
    exists_prop]

end

/-- Merging reviews in groups of any sizes, and then the merged reviews of the groups, gives the
findings, the words of the summary and the lack of a summary that merging them at once gives.  A
merged summary is trimmed and says something, and there is something in a merged review exactly when
there is in one of its parts. -/
theorem merge_in_groups (groups : List (List (Option Review)))
    (spoken : ∀ part, some part ∈ groups.flatten →
      part.summary = .null ∨ ∃ content, part.summary = .text content) :
    ∃ merged mergedGroups regrouped,
      merge groups.flatten = .ok merged ∧ groups.mapM merge = .ok mergedGroups ∧
      merge (mergedGroups.map some) = .ok regrouped ∧
      regrouped.issues = merged.issues ∧ regrouped.notes = merged.notes ∧
      regrouped.summary.summaryWords = merged.summary.summaryWords ∧
      (regrouped.summary = .null ↔ merged.summary = .null) ∧
      (merged.summary = .null ∨
        ∃ content, merged.summary = .text content ∧ Text.isBlank content = false ∧
          (∀ char ∈ content.head?, Text.isBlankChar char = false) ∧
          ∀ char ∈ content.getLast?, Text.isBlankChar char = false) ∧
      ∃ content, merged.hasContent = .ok content ∧
        (content = true ↔ ∃ part, some part ∈ groups.flatten ∧ part.hasContent = .ok true) := by
  have speakable : ∀ part, some part ∈ groups.flatten → part.summary.IsSummary :=
    fun part isPart => Value.isSummary_of_null_or_text (spoken part isPart)
  have mergeable {parts : List (Option Review)}
      (summaries : ∀ part, some part ∈ parts → part.summary.IsSummary) :
      ∃ merged, merge parts = .ok merged :=
    (exists_merge_iff parts).mpr fun part isPart => summaries part (by simpa using isPart)
  obtain ⟨merged, isMerged⟩ := mergeable speakable
  obtain ⟨mergedGroups, areMerged⟩ := exists_mapM_eq_ok_iff.mpr fun group isGroup =>
    mergeable fun part isPart => speakable part (List.mem_flatten.mpr ⟨group, isGroup, isPart⟩)
  obtain ⟨regrouped, isRegrouped⟩ : ∃ regrouped, merge (mergedGroups.map some) = .ok regrouped := by
    refine mergeable fun part isPart => ?_
    obtain ⟨group, -, isOne⟩ := (mem_iff_of_mapM_eq_ok areMerged part).mp (by simpa using isPart)
    exact (findings_of_merge isOne).2.2
  have sameWords : regrouped.summary.summaryWords = merged.summary.summaryWords :=
    gathers_summaryWords.regrouped isMerged areMerged isRegrouped
  refine ⟨merged, mergedGroups, regrouped, isMerged, areMerged, isRegrouped,
    gathers_issues.regrouped isMerged areMerged isRegrouped,
    gathers_notes.regrouped isMerged areMerged isRegrouped, sameWords, ?_, ?_,
    exists_hasContent_of_merge isMerged⟩
  · rw [summary_eq_null_iff_of_merge isMerged, summary_eq_null_iff_of_merge isRegrouped, sameWords]
  · refine (isTrimmed_summary_of_merge isMerged).imp And.left ?_
    rintro ⟨content, isText, visible, trimmed⟩
    exact ⟨content, isText, visible, (Text.trim_eq_self_iff content).mp trimmed⟩

/-- Three groups, of which one is empty, with a missing review, a blank summary and padded ones. -/
def padded : List (List (Option Review)) :=
  [[some { summary := .text ['a', ' '] }, none], [],
    [some { summary := .text [' '], notes := [{ file := ['f'], line := none }] },
      some { summary := .text [' ', 'b'] }]]

theorem merge_in_groups_padded :
    (∀ part, some part ∈ padded.flatten →
        part.summary = .null ∨ ∃ content, part.summary = .text content) ∧
      ∃ merged mergedGroups regrouped,
        merge padded.flatten = .ok merged ∧ padded.mapM merge = .ok mergedGroups ∧
        merge (mergedGroups.map some) = .ok regrouped ∧ regrouped.notes = merged.notes ∧
        regrouped.summary.summaryWords = merged.summary.summaryWords ∧
        merged.summary = .text "a   b".toList ∧ regrouped.summary = .text "a b".toList := by
  have spoken : ∀ part, some part ∈ padded.flatten →
      part.summary = .null ∨ ∃ content, part.summary = .text content := by
    intro part isPart
    simp only [padded, List.flatten_cons, List.flatten_nil, List.mem_append, List.mem_cons,
      Option.some.injEq, reduceCtorEq, List.not_mem_nil, or_false, false_or] at isPart
    rcases isPart with rfl | rfl | rfl
    · exact .inr ⟨_, rfl⟩
    · exact .inr ⟨_, rfl⟩
    · exact .inr ⟨_, rfl⟩
  obtain ⟨merged, mergedGroups, regrouped, isMerged, areMerged, isRegrouped, -, notes, words, -⟩ :=
    merge_in_groups padded spoken
  refine ⟨spoken, merged, mergedGroups, regrouped, isMerged, areMerged, isRegrouped, notes, words,
    ?_, ?_⟩
  · obtain rfl := Except.ok.inj isMerged
    rfl
  · obtain rfl := Except.ok.inj areMerged
    obtain rfl := Except.ok.inj isRegrouped
    rfl

end Review

end Marginalia
