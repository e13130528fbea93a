import Mathlib.Data.List.Nodup
import Mathlib.Data.List.Perm.Subperm
import Mathlib.Tactic.Common
import Marginalia.Proofs.Context.Selection
import Marginalia.Proofs.Tally

/-!
# Figures that add up

The figures of a retrieval count its matches, and figures that are added up count the matches of all
retrievals together.  What is left of these matches when they are reduced to one for each path
cannot be more, and is less exactly when two of the retrievals have found the same file.
-/

namespace Marginalia

section

variable {Amount : Type} [Scale Amount]

/-- Figures that count the given matches. -/
structure Figures.AreOf (figures : Figures) (found : List (Match Amount)) : Prop where
  /-- All matches. -/
  total : figures.total = found.length
  /-- Those that are sure enough to be pointed out. -/
  high : figures.high = found.countP Match.isHigh
  /-- Those for each reason. -/
  reasons : figures.reasons = Table.tally (found.map (·.reason))

namespace Retrieval

theorem areOf_ofNamed (name : Text) (candidates : List (Match Amount)) :
    (ofNamed name candidates).figures.AreOf (ofNamed name candidates).found :=
  ⟨rfl, rfl, rfl⟩

/-- Figures that are added up count all matches in a row. -/
theorem areOf_mergedFigures {retrievals : List (Retrieval Amount)}
    (counted : ∀ retrieval ∈ retrievals, retrieval.figures.AreOf retrieval.found) :
    (mergedFigures retrievals).AreOf (retrievals.flatMap (·.found)) := by
  induction retrievals using List.reverseRecOn with
  | nil => exact ⟨rfl, rfl, rfl⟩
  | append_singleton retrievals last induct =>
      have before := induct fun retrieval isRetrieval => counted retrieval (by simp [isRetrieval])
      have isCounted := counted last (by simp)
      have found : (retrievals ++ [last]).flatMap (·.found) =
          retrievals.flatMap (·.found) ++ last.found := by simp
      have total : (mergedFigures (retrievals ++ [last])).total =
          (mergedFigures retrievals).total + last.figures.total := by
        simp [mergedFigures, Figures.totalOf]
      have high : (mergedFigures (retrievals ++ [last])).high =
          (mergedFigures retrievals).high + last.figures.high := by
        simp [mergedFigures, Figures.highOf]
      have reasons : (mergedFigures (retrievals ++ [last])).reasons =
          Table.addAll last.figures.reasons (mergedFigures retrievals).reasons := by
        simp [mergedFigures]
      rw [found]
      refine ⟨?_, ?_, ?_⟩
      · rw [total, before.total, isCounted.total, List.length_append, Int.natCast_add]
      · rw [high, before.high, isCounted.high, List.countP_append, Int.natCast_add]
      · rw [reasons, before.reasons, isCounted.reasons, Table.addAll_tally, List.map_append]

end Retrieval

namespace Match

theorem nodup_path_distinct (candidates : List (Match Amount)) :
    ((distinct candidates).map (·.path)).Nodup :=
  map_path_distinct candidates ▸ nodup_eraseDups _

/-- Nothing is left out exactly when no path comes up twice. -/
theorem length_distinct_eq_iff (candidates : List (Match Amount)) :
    (distinct candidates).length = candidates.length ↔ (candidates.map (·.path)).Nodup := by
  constructor
  · intro sameLength
    have perm := (subperm_distinct candidates).perm_of_length_le (Nat.le_of_eq sameLength.symm)
    exact (perm.map _).nodup_iff.mp (nodup_path_distinct candidates)
  · intro apart
    have paths := map_path_distinct candidates
    rw [eraseDups_of_nodup apart] at paths
    simpa using congrArg List.length paths

end Match

end

namespace Retrieval

/-- What a named strategy returned for some change. -/
def IsRetrieved (retrieval : Retrieval Float) : Prop :=
  ∃ (Call : Type) (strategy : Strategy Call) (bundle : Bundle),
    Text.isBlank strategy.name = false ∧
      (strategy.retrieve bundle).outcome = .returned retrieval

/-- The figures of what a named strategy returns fit and count its matches, which are for different
files. -/
theorem IsRetrieved.isAccounted {retrieval : Retrieval Float} (retrieved : retrieval.IsRetrieved) :
    retrieval.figures.Fit ∧ retrieval.figures.AreOf retrieval.found ∧
      (retrieval.found.map (·.path)).Nodup := by
  obtain ⟨Call, strategy, bundle, named, returned⟩ := retrieved
  rw [Strategy.retrieve_of_named named] at returned
  cases ending : (strategy.look bundle).outcome with
  | returned candidates =>
      obtain rfl : ofNamed strategy.name candidates = retrieval := by
        simpa [ending, Outcome.map] using returned
      exact ⟨fit_ofNamed named candidates, areOf_ofNamed strategy.name candidates,
        Match.nodup_path_distinct candidates⟩
  | failed failure => simp [ending, Outcome.map] at returned
  | hanging => simp [ending, Outcome.map] at returned

/-- The figures of a merged retrieval against what the retrievals have found that it is merged
from. -/
structure AddsUp (retrievals : List (Retrieval Float)) (merged : Retrieval Float) : Prop where
  /-- The matches of all retrievals are counted. -/
  total_eq : merged.figures.total = total (retrievals.map (·.found.length))
  /-- As many reasons are given as there are matches. -/
  total_eq_reasons : merged.figures.total = total (merged.figures.reasons.map (·.2))
  /-- Each reason is given as often as the retrievals have given it. -/
  reason_eq : ∀ reason, (Table.get? reason merged.figures.reasons).getD 0 =
    total (retrievals.map fun retrieval => (retrieval.foundFor reason).length)
  /-- The matches of all retrievals are counted that are sure enough to be pointed out. -/
  high_eq : merged.figures.high = total (retrievals.map (·.highlights.length))
  high_le_total : merged.figures.high ≤ merged.figures.total
  found_le_total : merged.found.length ≤ merged.figures.total
  highlights_le_high : merged.highlights.length ≤ merged.figures.high
  /-- No match is lost exactly when no two retrievals have found the same file. -/
  found_eq_total_iff : merged.found.length = merged.figures.total ↔
    retrievals.Pairwise fun former latter =>
      ∀ path, path ∈ former.found.map (·.path) → path ∉ latter.found.map (·.path)

theorem length_flatMap_eq_total {Item : Type} (view : Retrieval Float → List Item)
    (retrievals : List (Retrieval Float)) :
    (retrievals.flatMap view).length = total (retrievals.map fun one => (view one).length) := by
  induction retrievals with
  | nil => rfl
  | cons retrieval retrievals induct =>
      rw [List.flatMap_cons, List.length_append, induct, List.map_cons, total_cons]

/-- Matches that pass a test are counted retrieval by retrieval. -/
theorem countP_flatMap_found (passes : Match Float → Bool) (retrievals : List (Retrieval Float)) :
    (retrievals.flatMap (·.found)).countP passes =
      total (retrievals.map fun retrieval => (retrieval.found.filter passes).length) := by
  rw [List.countP_eq_length_filter, List.filter_flatMap, length_flatMap_eq_total]

theorem addsUp_of_areOf {retrievals : List (Retrieval Float)} {merged : Retrieval Float}
    (areOf : merged.figures.AreOf (retrievals.flatMap (·.found)))
    (isFound : merged.found = Match.distinct (retrievals.flatMap (·.found)))
    (apart : ∀ retrieval ∈ retrievals, (retrieval.found.map (·.path)).Nodup) :
    AddsUp retrievals merged where
  total_eq := by rw [areOf.total, length_flatMap_eq_total]
  total_eq_reasons := by rw [areOf.total, areOf.reasons, Table.total_tally, List.length_map]
  reason_eq reason := by
    have counted : (Table.get? reason merged.figures.reasons).getD 0 =
        ((retrievals.flatMap (·.found)).map (·.reason)).count reason := by
      rw [areOf.reasons, Table.get?_tally]
      split
      · rfl
      · next absent => exact (List.count_eq_zero_of_not_mem absent).symm
    have tested : ((retrievals.flatMap (·.found)).map (·.reason)).count reason =
        (retrievals.flatMap (·.found)).countP (·.reason = reason) := by
      rw [List.count, List.countP_map]
      exact List.countP_congr fun found _ => by simp
    rw [counted, tested, countP_flatMap_found]
    rfl
  high_eq := by
    rw [areOf.high, countP_flatMap_found]
    rfl
  high_le_total := by
    rw [areOf.high, areOf.total]
    exact Int.ofNat_le.mpr List.countP_le_length
  found_le_total := by
    rw [areOf.total, isFound]
    exact Int.ofNat_le.mpr (Match.subperm_distinct _).length_le
  highlights_le_high := by
    rw [areOf.high, highlights, isFound, ← List.countP_eq_length_filter]
    exact Int.ofNat_le.mpr ((Match.subperm_distinct _).countP_le _)
  found_eq_total_iff := by
    rw [areOf.total, isFound, Int.ofNat_inj, Match.length_distinct_eq_iff, List.map_flatMap,
      List.nodup_flatMap, and_iff_right apart]
    rfl

/-- What named strategies return can be merged, and the figures of what it is merged to add up. -/
theorem exists_merge_addsUp {retrievals : List (Retrieval Float)} (nonempty : retrievals ≠ [])
    (retrieved : ∀ retrieval ∈ retrievals, retrieval.IsRetrieved) :
    ∃ merged, merge retrievals = .ok merged ∧ AddsUp retrievals merged := by
  have merged := merge_of_fit nonempty fun retrieval isRetrieval =>
    (retrieved retrieval isRetrieval).isAccounted.1
  have areOf := areOf_mergedFigures fun retrieval isRetrieval =>
    (retrieved retrieval isRetrieval).isAccounted.2.1
  have apart : ∀ retrieval ∈ retrievals, (retrieval.found.map (·.path)).Nodup :=
    fun retrieval isRetrieval => (retrieved retrieval isRetrieval).isAccounted.2.2
  exact ⟨_, merged, addsUp_of_areOf areOf rfl apart⟩

/-- What two searches make of candidates with files that come again. -/
def retrieved : List (Retrieval Float) :=
  tied.map (ofNamed ['x'])

theorem exists_merge_addsUp_tied :
    (retrieved ≠ [] ∧ ∀ retrieval ∈ retrieved, retrieval.IsRetrieved) ∧
      ∃ merged, merge retrieved = .ok merged ∧
        merged.figures.total = 5 ∧ merged.figures.high = 2 ∧ merged.found.length < 5 := by
  have nonempty : retrieved ≠ [] := by simp [retrieved, tied]
  have areRetrieved : ∀ retrieval ∈ retrieved, retrieval.IsRetrieved := by
    intro retrieval isRetrieval
    obtain ⟨part, -, rfl⟩ := List.mem_map.mp isRetrieval
    exact ⟨Empty, returning ['x'] part, { diff := {} }, rfl, by
      rw [Strategy.retrieve_of_named rfl]
      rfl⟩
  obtain ⟨merged, isMerged, addsUp⟩ := exists_merge_addsUp nonempty areRetrieved
  have total : merged.figures.total = 5 := addsUp.total_eq.trans (by decide +kernel)
  have high : merged.figures.high = 2 := addsUp.high_eq.trans (by decide +kernel)
  -- Both searches have found the same file, so that a match is left out.
  have shared : ¬retrieved.Pairwise fun former latter =>
      ∀ path, path ∈ former.found.map (·.path) → path ∉ latter.found.map (·.path) := by
    intro apart
    have both := List.rel_of_pairwise_cons apart (List.mem_singleton_self _)
    exact both ['a'] (by decide +kernel) (by decide +kernel)
  have different := mt addsUp.found_eq_total_iff.mp shared
  have atMost := addsUp.found_le_total
  exact ⟨⟨nonempty, areRetrieved⟩, merged, isMerged, total, high, by omega⟩

end Retrieval

end Marginalia
