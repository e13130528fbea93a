import Mathlib.Data.List.Perm.Basic
import Mathlib.Tactic.Common
import Marginalia.Number.Total
import Marginalia.Proofs.Except
import Marginalia.Proofs.Review.Anchoring
import Marginalia.Review.Merge
import Marginalia.Review.Placement

/-!
# Merging and placing

It makes no difference to where findings go whether the reviews of chunks are merged first and then
placed, or placed one by one: a finding is placed by itself, and merging keeps all findings in
order.  Only the diagnostics are told in another order, since those on the issues of all parts come
before those on any note.
-/

namespace Marginalia

/-- A value that can be taken for a summary: a text, or what counts as nothing. -/
def Value.IsSummary (value : Value) : Prop :=
  value.isTruthy = true → ∃ content, value = .text content

theorem Value.isSummary_null : Value.null.IsSummary := by
  simp [IsSummary, isTruthy]

theorem Value.isSummary_text (content : Text) : (Value.text content).IsSummary :=
  fun _ => ⟨content, rfl⟩

theorem Value.isSummary_of_null_or_text {value : Value}
    (either : value = .null ∨ ∃ content, value = .text content) : value.IsSummary := by
  rcases either with rfl | ⟨content, rfl⟩
  · exact isSummary_null
  · exact isSummary_text content

theorem Value.isSummary_iff (value : Value) :
    value.IsSummary ↔ value.isTruthy = false ∨ value.kind = .text := by
  cases value <;> simp [IsSummary, kind]

instance (value : Value) : Decidable value.IsSummary :=
  decidable_of_iff _ value.isSummary_iff.symm

namespace Review

theorem exists_spokenSummary_iff (review : Review) :
    (∃ summary, review.spokenSummary = .ok summary) ↔ review.summary.IsSummary := by
  rw [spokenSummary, Value.IsSummary]
  cases review.summary with
  | text content => exact iff_of_true ⟨_, rfl⟩ fun _ => ⟨content, rfl⟩
  | _ =>
      dsimp only
      split
      · rename_i truthy
        simp [truthy]
      · rename_i nothing
        exact iff_of_true ⟨none, rfl⟩ fun truthy => absurd truthy nothing

theorem isSummary_joinSummaries (summaries : List Text) : (joinSummaries summaries).IsSummary := by
  rw [joinSummaries]
  split
  · exact Value.isSummary_null
  · exact Value.isSummary_text _

/-- Merging succeeds exactly when every part has a summary that can be taken for one. -/
theorem exists_merge_iff (parts : List (Option Review)) :
    (∃ merged, merge parts = .ok merged) ↔
      ∀ part ∈ parts.filterMap id, part.summary.IsSummary := by
  rw [merge, exists_bind_pure_eq_ok_iff, exists_mapM_eq_ok_iff]
  simp only [exists_spokenSummary_iff]

theorem filterMap_id_map_some (parts : List Review) : (parts.map some).filterMap id = parts := by
  rw [List.filterMap_map, Function.id_comp, List.filterMap_some]

section

variable {parts : List (Option Review)} {merged : Review}

/-- What is merged has the findings of all parts in order, and a summary. -/
theorem findings_of_merge (isMerged : merge parts = .ok merged) :
    merged.issues = (parts.filterMap id).flatMap (·.issues) ∧
      merged.notes = (parts.filterMap id).flatMap (·.notes) ∧ merged.summary.IsSummary := by
  obtain ⟨summaries, -, last⟩ := bind_eq_ok_iff.mp isMerged
  obtain rfl := Except.ok.inj last
  exact ⟨rfl, rfl, isSummary_joinSummaries _⟩

theorem itemCount_of_merge (isMerged : merge parts = .ok merged) :
    merged.itemCount = total ((parts.filterMap id).map itemCount) := by
  obtain ⟨issues, notes, -⟩ := findings_of_merge isMerged
  rw [itemCount, issues, notes]
  induction parts.filterMap id with
  | nil => rfl
  | cons part present induct =>
      rw [List.map_cons, total_cons, ← induct, itemCount, List.flatMap_cons, List.flatMap_cons,
        List.length_append, List.length_append]
      omega

/-- The issues of all parts are told of before the notes of any. -/
theorem diagnostics_place_of_merge (diff : Option Diff) (isMerged : merge parts = .ok merged) :
    (merged.place diff).diagnostics =
      ((parts.filterMap id).flatMap fun part => part.issues.filterMap (Issue.diagnostic? diff)) ++
        (parts.filterMap id).flatMap fun part => part.notes.filterMap (Note.diagnostic? diff) := by
  obtain ⟨issues, notes, -⟩ := findings_of_merge isMerged
  rw [place, issues, notes, List.filterMap_flatMap, List.filterMap_flatMap]

end

/-- Placing merged reviews gives, inline and in the fallback, what placing each of them gives, and
tells the same of it. -/
theorem place_merge (diff : Option Diff) {parts : List (Option Review)}
    (spoken : ∀ part, some part ∈ parts →
      part.summary = .null ∨ ∃ content, part.summary = .text content) :
    ∃ merged, merge parts = .ok merged ∧
      (merged.place diff).inline.issues =
        (parts.filterMap id).flatMap (fun part => (part.place diff).inline.issues) ∧
      (merged.place diff).inline.notes =
        (parts.filterMap id).flatMap (fun part => (part.place diff).inline.notes) ∧
      (merged.place diff).fallback.issues =
        (parts.filterMap id).flatMap (fun part => (part.place diff).fallback.issues) ∧
      (merged.place diff).fallback.notes =
        (parts.filterMap id).flatMap (fun part => (part.place diff).fallback.notes) ∧
      (merged.place diff).diagnostics.Perm
        ((parts.filterMap id).flatMap fun part => (part.place diff).diagnostics) := by
  have speakable : ∀ part ∈ parts.filterMap id, part.summary.IsSummary := by
    intro part isPart
    have given : some part ∈ parts := by simpa using isPart
    rcases spoken part given with null | ⟨content, text⟩
    · exact null ▸ Value.isSummary_null
    · exact text ▸ Value.isSummary_text content
  obtain ⟨merged, isMerged⟩ := (exists_merge_iff parts).mpr speakable
  obtain ⟨issues, notes, -⟩ := findings_of_merge isMerged
  refine ⟨merged, isMerged, ?_, ?_, ?_, ?_, ?_⟩
  · rw [place, issues]
    exact List.filter_flatMap
  · rw [place, notes]
    exact List.filter_flatMap
  · rw [place, issues]
    exact List.filter_flatMap
  · rw [place, notes]
    exact List.filter_flatMap
  · rw [diagnostics_place_of_merge diff isMerged]
    exact List.flatMap_append_perm _ _ _

/-- The reviews of three chunks, of which one is missing; of the findings only those at line 1 of
the file `f` can carry a remark. -/
def threeParts : List (Option Review) :=
  [some
    { summary := .text ['a']
      issues := [{ file := ['f'], line := some 1 }, { file := ['f'], line := some 2 }]
      notes := [{ file := ['f'], line := some 3 }] },
    none,
    some
    { issues := [{ file := ['g'], line := none }]
      notes := [{ file := ['f'], line := some 1 }] }]

theorem place_merge_threeParts :
    (∀ part, some part ∈ threeParts →
        part.summary = .null ∨ ∃ content, part.summary = .text content) ∧
      ∃ merged, merge threeParts = .ok merged ∧
        (merged.place (some (oneLine 1))).inline.issues =
          (threeParts.filterMap id).flatMap
            (fun part => (part.place (some (oneLine 1))).inline.issues) ∧
        (merged.place (some (oneLine 1))).inline.notes =
          (threeParts.filterMap id).flatMap
            (fun part => (part.place (some (oneLine 1))).inline.notes) ∧
        (merged.place (some (oneLine 1))).fallback.issues =
          (threeParts.filterMap id).flatMap
            (fun part => (part.place (some (oneLine 1))).fallback.issues) ∧
        (merged.place (some (oneLine 1))).fallback.notes =
          (threeParts.filterMap id).flatMap
            (fun part => (part.place (some (oneLine 1))).fallback.notes) ∧
        (merged.place (some (oneLine 1))).diagnostics.Perm
          ((threeParts.filterMap id).flatMap
            fun part => (part.place (some (oneLine 1))).diagnostics) ∧
        (merged.place (some (oneLine 1))).diagnostics ≠
          (threeParts.filterMap id).flatMap
            fun part => (part.place (some (oneLine 1))).diagnostics := by
  have spoken : ∀ part, some part ∈ threeParts →
      part.summary = .null ∨ ∃ content, part.summary = .text content := by
    intro part isPart
    simp only [threeParts, List.mem_cons, Option.some.injEq, List.not_mem_nil, or_false,
      reduceCtorEq, false_or] at isPart
    rcases isPart with rfl | rfl
    · exact .inr ⟨['a'], rfl⟩
    · exact .inl rfl
  obtain ⟨merged, isMerged, inlineIssues, inlineNotes, otherIssues, otherNotes, told⟩ :=
    place_merge (some (oneLine 1)) spoken
  refine ⟨spoken, merged, isMerged, inlineIssues, inlineNotes, otherIssues, otherNotes, told, ?_⟩
  rw [diagnostics_place_of_merge _ isMerged]
  decide +kernel

end Review

end Marginalia
