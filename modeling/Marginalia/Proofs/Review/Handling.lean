import Mathlib.Tactic.Common
import Marginalia.Proofs.Review.Merging
import Marginalia.Review.Reader

/-!
# Handling what was read

Reading makes texts, lines and scores of the fields of all findings, but leaves the summary as it
came.  The steps after it take a summary for a text, so they handle what was read exactly when no
document has something else there that does not count as nothing.
-/

namespace Marginalia

namespace Review

theorem exists_statistics_iff (review : Review) :
    (∃ statistics, review.statistics = .ok statistics) ↔ review.summary.IsSummary := by
  rw [statistics, exists_bind_pure_eq_ok_iff, exists_spokenSummary_iff]

theorem exists_hasContent_of_isSummary {review : Review} (spoken : review.summary.IsSummary) :
    ∃ content, review.hasContent = .ok content := by
  obtain ⟨summary, isSummary⟩ := (exists_spokenSummary_iff review).mpr spoken
  rw [hasContent, isSummary]
  split
  · exact ⟨_, rfl⟩
  · exact ⟨_, rfl⟩

/-- What a review that was read is made of. -/
theorem ofValue_eq_ok_iff {value : Value} {review : Review} :
    ofValue value = .ok review ↔
      ∃ entries issueItems noteItems, value = .mapping entries ∧
        findings "issues".toList (Value.field? "issues".toList entries) = .ok issueItems ∧
        readAll Issue.ofValue issueItems = .ok review.issues ∧
        findings "notes".toList
          (firstField? ["non_blocking_notes", "nonBlockingNotes", "notes"] entries) =
            .ok noteItems ∧
        readAll Note.ofValue noteItems = .ok review.notes ∧
        review.summary = (Value.field? "summary".toList entries).getD .null := by
  constructor
  · intro isRead
    cases value with
    | mapping entries =>
        obtain ⟨issueItems, areIssues, made⟩ := bind_eq_ok_iff.mp isRead
        obtain ⟨issues, issuesRead, made⟩ := bind_eq_ok_iff.mp made
        obtain ⟨noteItems, areNotes, made⟩ := bind_eq_ok_iff.mp made
        obtain ⟨notes, notesRead, last⟩ := bind_eq_ok_iff.mp made
        obtain rfl := Except.ok.inj last
        exact ⟨entries, issueItems, noteItems, rfl, areIssues, issuesRead, areNotes, notesRead, rfl⟩
    | _ => cases isRead
  · rintro ⟨entries, issueItems, noteItems, rfl, areIssues, issuesRead, areNotes, notesRead, same⟩
    rw [ofValue]
    apply bind_eq_ok_iff.mpr ⟨issueItems, areIssues, ?_⟩
    apply bind_eq_ok_iff.mpr ⟨review.issues, issuesRead, ?_⟩
    apply bind_eq_ok_iff.mpr ⟨noteItems, areNotes, ?_⟩
    apply bind_eq_ok_iff.mpr ⟨review.notes, notesRead, ?_⟩
    rw [← same]
    rfl

/-- The summary of what was read is the one of the document. -/
theorem summary_of_read {raw : Option Text} {review : Review} (isRead : read raw = .ok review) :
    ∃ entries, document raw = .ok (.mapping entries) ∧
      review.summary = (Value.field? "summary".toList entries).getD .null := by
  obtain ⟨value, isDocument, made⟩ := bind_eq_ok_iff.mp isRead
  obtain ⟨entries, issueItems, noteItems, rfl, -, -, -, -, same⟩ := ofValue_eq_ok_iff.mp made
  exact ⟨entries, isDocument, same⟩

/-- What a text holds under the summary can be taken for one. -/
def HasSummary (raw : Text) : Prop :=
  ∀ entries, document (some raw) = .ok (.mapping entries) →
    ((Value.field? "summary".toList entries).getD .null).IsSummary

instance (raw : Text) : Decidable (HasSummary raw) :=
  match isDocument : document (some raw) with
  | .ok (.mapping entries) =>
      decidable_of_iff ((Value.field? "summary".toList entries).getD .null).IsSummary
        (by simp [HasSummary, isDocument])
  | .ok .null | .ok (.bool _) | .ok (.integer _) | .ok (.decimal _) | .ok (.text _)
  | .ok (.list _) | .error _ => isTrue (by simp [HasSummary, isDocument])

theorem hasSummary_iff {raw : Text} {review : Review} (isRead : read (some raw) = .ok review) :
    HasSummary raw ↔ review.summary.IsSummary := by
  obtain ⟨entries, isDocument, summary⟩ := summary_of_read isRead
  rw [HasSummary, summary]
  constructor
  · intro holds
    exact holds entries isDocument
  · intro isSummary others isOther
    obtain rfl : entries = others := by simpa [isDocument] using isOther
    exact isSummary

theorem exists_merge_iff_hasSummary {raws : List Text} {parts : List Review}
    (areRead : raws.mapM (fun raw => read (some raw)) = .ok parts) :
    (∃ merged, merge (parts.map some) = .ok merged) ↔ ∀ raw ∈ raws, HasSummary raw := by
  rw [exists_merge_iff, filterMap_id_map_some]
  constructor
  · intro spoken raw isRaw
    obtain ⟨part, isRead⟩ := exists_mapM_eq_ok_iff.mp ⟨parts, areRead⟩ raw isRaw
    have isPart := (mem_iff_of_mapM_eq_ok areRead part).mpr ⟨raw, isRaw, isRead⟩
    exact (hasSummary_iff isRead).mpr (spoken part isPart)
  · intro hold part isPart
    obtain ⟨raw, isRaw, isRead⟩ := (mem_iff_of_mapM_eq_ok areRead part).mp isPart
    exact (hasSummary_iff isRead).mp (hold raw isRaw)

/-- Reviews that were read can be merged, told of and placed exactly when none of the texts has a
summary that is something else than a text; then no finding of theirs is lost. -/
theorem handled_iff_hasSummary (diff : Option Diff) {raws : List Text} {parts : List Review}
    (areRead : raws.mapM (fun raw => read (some raw)) = .ok parts) :
    (∃ merged, merge (parts.map some) = .ok merged ∧
        (∃ statistics, merged.statistics = .ok statistics) ∧
        (∃ content, merged.hasContent = .ok content) ∧
        (merged.place diff).total = total (parts.map itemCount)) ↔
      ∀ raw ∈ raws, HasSummary raw := by
  rw [← exists_merge_iff_hasSummary areRead]
  constructor
  · rintro ⟨merged, isMerged, -⟩
    exact ⟨merged, isMerged⟩
  · rintro ⟨merged, isMerged⟩
    obtain ⟨-, -, spoken⟩ := findings_of_merge isMerged
    refine ⟨merged, isMerged, (exists_statistics_iff merged).mpr spoken,
      exists_hasContent_of_isSummary spoken, ?_⟩
    rw [total_place, itemCount_of_merge isMerged, filterMap_id_map_some]

/-- Two answers, of which one has an issue and a summary and the other a note. -/
def twoAnswers : List Text :=
  ["\x7b\"summary\":\"a\",\"issues\":[\x7b\"file\":\"f\",\"line\":1\x7d]\x7d".toList,
    "\x7b\"notes\":[\x7b\"file\":\"f\",\"line\":2\x7d]\x7d".toList]

theorem handled_iff_hasSummary_twoAnswers :
    ∃ parts, twoAnswers.mapM (fun raw => read (some raw)) = .ok parts ∧
      (∀ raw ∈ twoAnswers, HasSummary raw) ∧
        ∃ merged, merge (parts.map some) = .ok merged ∧
          (∃ statistics, merged.statistics = .ok statistics) ∧
          (∃ content, merged.hasContent = .ok content) ∧
          (merged.place (some (oneLine 1))).total = total (parts.map itemCount) := by
  have readable : ∀ raw ∈ twoAnswers, ∃ part, read (some raw) = .ok part := by decide +kernel
  have hold : ∀ raw ∈ twoAnswers, HasSummary raw := by decide +kernel
  obtain ⟨parts, areRead⟩ := exists_mapM_eq_ok_iff.mpr readable
  exact ⟨parts, areRead, hold, (handled_iff_hasSummary (some (oneLine 1)) areRead).mpr hold⟩

/-- A summary that is a number is read, and cannot be merged. -/
theorem exists_read_not_merged :
    ∃ (raw : Text) (part : Review), read (some raw) = .ok part ∧
      ¬∃ merged, merge [some part] = .ok merged := by
  have unspoken : ¬HasSummary "\x7b\"summary\":5\x7d".toList := by decide +kernel
  obtain ⟨part, isRead⟩ : ∃ part, read (some "\x7b\"summary\":5\x7d".toList) = .ok part := by
    decide +kernel
  refine ⟨_, part, isRead, ?_⟩
  rw [exists_merge_iff]
  intro spoken
  exact unspoken ((hasSummary_iff isRead).mpr (spoken part (by simp)))

end Review

end Marginalia
