import Mathlib.Data.List.Forall2
import Mathlib.Tactic.Common
import Marginalia.Context.Strategy
import Marginalia.Proofs.Context.Distinct

/-!
# Merging retrievals

The figures of what a named strategy finds pass their own check, and so do the figures of several
such retrievals taken together: looking and merging never fail on their own account.  The matches of
the merged retrieval are those that would be kept of all candidates at once.
-/

namespace Marginalia

/-- The characters of every piece are in the glued text. -/
theorem Text.mem_glue {pieces : List Text} {piece : Text} (separator : Text) {char : Char}
    (isPiece : piece ∈ pieces) (isIn : char ∈ piece) : char ∈ Text.glue separator pieces := by
  induction pieces with
  | nil => simp at isPiece
  | cons first pieces induct =>
      cases pieces with
      | nil =>
          obtain rfl := List.mem_singleton.mp isPiece
          exact isIn
      | cons next pieces =>
          rw [Text.glue, List.mem_append, List.mem_append]
          rcases List.mem_cons.mp isPiece with rfl | later
          · exact .inl (.inl isIn)
          · exact .inr (induct later)

theorem Text.isBlank_glue {separator : Text} {pieces : List Text} {piece : Text}
    (isPiece : piece ∈ pieces) (visible : Text.isBlank piece = false) :
    Text.isBlank (Text.glue separator pieces) = false := by
  obtain ⟨char, isIn, isVisible⟩ := List.all_eq_false.mp visible
  exact List.all_eq_false.mpr ⟨char, Text.mem_glue separator isPiece isIn, isVisible⟩

/-! ## Figures -/

/-- Figures that pass their own check. -/
structure Figures.Fit (figures : Figures) : Prop where
  /-- Somebody looked. -/
  named : Text.isBlank figures.name = false
  /-- No count is negative. -/
  nonnegative : 0 ≤ figures.high
  /-- No more matches are pointed out than there are. -/
  bounded : figures.high ≤ figures.total

theorem Figures.make_of_fit {figures : Figures} (fit : figures.Fit) :
    make figures.name figures.total figures.high figures.reasons = .ok figures := by
  have nonnegative := fit.nonnegative
  have bounded := fit.bounded
  rw [make, fit.named, if_neg Bool.false_ne_true, if_neg (by simp; omega), if_neg (by omega)]

namespace Figures

/-- The matches of several retrievals, counted together. -/
def totalOf (figures : List Figures) (before : Int) : Int :=
  figures.foldl (fun total figures => total + figures.total) before

/-- The matches of several retrievals that are pointed out, counted together. -/
def highOf (figures : List Figures) (before : Int) : Int :=
  figures.foldl (fun high figures => high + figures.high) before

/-- Adding up figures that fit keeps the counts in their order. -/
theorem highOf_le_totalOf {figures : List Figures} (fit : ∀ part ∈ figures, part.Fit)
    {high total : Int} (nonnegative : 0 ≤ high) (bounded : high ≤ total) :
    0 ≤ highOf figures high ∧ highOf figures high ≤ totalOf figures total := by
  induction figures generalizing high total with
  | nil => exact ⟨nonnegative, bounded⟩
  | cons part figures induct =>
      obtain ⟨first, others⟩ := List.forall_mem_cons.mp fit
      exact induct others (Int.add_nonneg nonnegative first.nonnegative)
        (Int.add_le_add bounded first.bounded)

end Figures

section

variable {Amount : Type} [Scale Amount]

namespace Retrieval

/-- What a named search makes of its candidates. -/
def ofNamed (name : Text) (candidates : List (Match Amount)) : Retrieval Amount where
  found := Match.distinct candidates
  figures :=
    { name
      total := (Match.distinct candidates).length
      high := (Match.distinct candidates).countP Match.isHigh
      reasons := Table.tally ((Match.distinct candidates).map (·.reason)) }

theorem fit_ofNamed {name : Text} (named : Text.isBlank name = false)
    (candidates : List (Match Amount)) : (ofNamed name candidates).figures.Fit where
  named := named
  nonnegative := Int.natCast_nonneg _
  bounded := Int.ofNat_le.mpr List.countP_le_length

theorem ofCandidates_of_named {name : Text} (named : Text.isBlank name = false)
    (candidates : List (Match Amount)) :
    ofCandidates name candidates = .ok (ofNamed name candidates) := by
  have made := Figures.make_of_fit (fit_ofNamed named candidates)
  rw [ofCandidates, Figures.ofMatches]
  exact congrArg (Except.map _) made

/-- The figures of several retrievals, added up. -/
def mergedFigures (retrievals : List (Retrieval Amount)) : Figures where
  name := Text.glue ['+'] ((retrievals.map (·.figures)).map (·.name))
  total := Figures.totalOf (retrievals.map (·.figures)) 0
  high := Figures.highOf (retrievals.map (·.figures)) 0
  reasons := (retrievals.map (·.figures)).foldl
    (fun table figures => Table.addAll figures.reasons table) []

omit [Scale Amount] in
theorem fit_mergedFigures {retrievals : List (Retrieval Amount)} (nonempty : retrievals ≠ [])
    (fit : ∀ retrieval ∈ retrievals, retrieval.figures.Fit) :
    (mergedFigures retrievals).Fit := by
  obtain ⟨first, isFirst⟩ := List.exists_mem_of_ne_nil retrievals nonempty
  have isName : first.figures.name ∈ (retrievals.map (·.figures)).map (·.name) := by
    simpa using ⟨first, isFirst, rfl⟩
  have counts := Figures.highOf_le_totalOf (List.forall_mem_map.mpr fit) (Int.le_refl 0)
    (Int.le_refl 0)
  exact ⟨Text.isBlank_glue isName (fit first isFirst).named, counts.1, counts.2⟩

/-- Merging at least one retrieval whose figures fit does not fail. -/
theorem merge_of_fit {retrievals : List (Retrieval Amount)} (nonempty : retrievals ≠ [])
    (fit : ∀ retrieval ∈ retrievals, retrieval.figures.Fit) :
    merge retrievals =
      .ok { found := Match.distinct (retrievals.flatMap (·.found))
            figures := mergedFigures retrievals } := by
  have made := Figures.make_of_fit (fit_mergedFigures nonempty fit)
  exact congrArg (Except.map _) made

end Retrieval

end

/-! ## Strategies -/

/-- A named strategy calls, lasts and ends as its search does, and makes a retrieval of what that
returns. -/
theorem Strategy.retrieve_of_named {Call : Type} {strategy : Strategy Call}
    (named : Text.isBlank strategy.name = false) (bundle : Bundle) :
    strategy.retrieve bundle =
      { strategy.look bundle with
        outcome := (strategy.look bundle).outcome.map (Retrieval.ofNamed strategy.name) } := by
  change Work.andThen (strategy.look bundle) _ = _
  cases ends : (strategy.look bundle).outcome with
  | returned candidates =>
      simp [Work.andThen, ends, Retrieval.ofCandidates_of_named named, Work.ofExcept, Work.done,
        Outcome.map]
  | failed failure => simp [Work.andThen, ends, Outcome.map]
  | hanging => simp [Work.andThen, ends, Outcome.map]

/-- A match that passes its own check. -/
def Match.IsMade {Amount : Type} [Scale Amount] (candidate : Match Amount) : Prop :=
  make candidate.path candidate.reason candidate.confidence candidate.evidence = .ok candidate

/-- The confidence of a match that passes its own check has a place among all others. -/
theorem Match.IsMade.isRanked {candidate : Match Float} (made : candidate.IsMade) :
    candidate.IsRanked := by
  have isShare : Scale.isShare candidate.confidence = true := by
    rw [IsMade, make] at made
    split at made
    · contradiction
    · split at made
      · assumption
      · contradiction
  have atLeast : Number.atMost (Number.nearestQuotient 0 1) candidate.confidence = true :=
    (Bool.and_eq_true_iff.mp isShare).1
  rw [IsRanked, Option.isSome_iff_ne_none]
  intro unranked
  rw [Number.atMost, unranked] at atLeast
  split at atLeast <;> simp_all

namespace Retrieval

variable {Call : Type} {strategies : List (Strategy Call)} {bundle : Bundle}
  {candidates : List (List (Match Float))}

/-- Every search of a named strategy that returns is made into a retrieval of what it returns. -/
theorem exists_forall₂_retrieve
    (named : ∀ strategy ∈ strategies, Text.isBlank strategy.name = false)
    (yields : List.Forall₂ (fun strategy part => (strategy.look bundle).outcome = .returned part)
      strategies candidates) :
    ∃ results,
      List.Forall₂ (fun strategy result => (strategy.retrieve bundle).outcome = .returned result)
        strategies results ∧
      (∀ result ∈ results, result.figures.Fit) ∧
      results.map (·.found) = candidates.map Match.distinct := by
  induction yields with
  | nil => exact ⟨[], .nil, by simp, rfl⟩
  | @cons strategy part strategies candidates returned yields induct =>
      obtain ⟨hasName, named⟩ := List.forall_mem_cons.mp named
      obtain ⟨results, retrieved, fit, found⟩ := induct named
      have first : (strategy.retrieve bundle).outcome =
          .returned (ofNamed strategy.name part) := by
        rw [Strategy.retrieve_of_named hasName, returned, Outcome.map]
      refine ⟨ofNamed strategy.name part :: results, .cons first retrieved, ?_, ?_⟩
      · exact List.forall_mem_cons.mpr ⟨fit_ofNamed hasName part, fit⟩
      · rw [List.map_cons, List.map_cons, found, ofNamed]

/-- Merging what named strategies find in their candidates gives what would be found in all
candidates at once. -/
theorem found_merge_retrieve (nonempty : strategies ≠ [])
    (named : ∀ strategy ∈ strategies, Text.isBlank strategy.name = false)
    (made : ∀ part ∈ candidates, ∀ candidate ∈ part, candidate.IsMade)
    (yields : List.Forall₂ (fun strategy part => (strategy.look bundle).outcome = .returned part)
      strategies candidates) :
    ∃ results merged,
      List.Forall₂ (fun strategy result => (strategy.retrieve bundle).outcome = .returned result)
        strategies results ∧
      Retrieval.merge results = .ok merged ∧
      merged.found = Match.distinct candidates.flatten := by
  obtain ⟨results, retrieved, fit, found⟩ := exists_forall₂_retrieve named yields
  have someResult : results ≠ [] := by
    rintro rfl
    exact nonempty (List.forall₂_nil_right_iff.mp retrieved)
  refine ⟨results, _, retrieved, merge_of_fit someResult fit, ?_⟩
  calc
    Match.distinct (results.flatMap (·.found)) =
        Match.distinct (candidates.flatMap Match.distinct) := by
      rw [List.flatMap_def, List.flatMap_def, found]
    _ = Match.distinct candidates.flatten :=
      Match.distinct_flatMap_distinct fun part isPart candidate isCandidate =>
        (made part isPart candidate isCandidate).isRanked

/-- A strategy that returns given matches at once. -/
def returning (name : Text) (found : List (Match Float)) : Strategy Empty where
  name := name
  priority := 0
  look _ := Work.done found

/-- A match for a file of the same directory that tells who found it. -/
def nearby (path evidence : Text) : Match Float :=
  { path, reason := .sibling, confidence := 0.7, evidence }

/-- A match for an imported file that tells who found it. -/
def imported (path evidence : Text) : Match Float :=
  { path, reason := .directImport, confidence := 0.95, evidence }

/-- Candidates of two searches, with files that come again in one search and in both. -/
def tied : List (List (Match Float)) :=
  [[nearby ['a'] ['1'], nearby ['b'] ['1'], imported ['b'] ['2']],
    [imported ['b'] ['3'], nearby ['c'] ['3'], nearby ['a'] ['3']]]

theorem found_merge_retrieve_tied :
    (∀ part ∈ tied, ∀ candidate ∈ part, candidate.IsMade) ∧
      ∃ results merged,
        List.Forall₂ (fun strategy result => (strategy.retrieve { diff := {} }).outcome =
          .returned result) (tied.map (returning ['x'])) results ∧
        Retrieval.merge results = .ok merged ∧
        merged.found.map (fun found => (found.path, found.evidence)) =
          [(['a'], ['1']), (['b'], ['2']), (['c'], ['3'])] := by
  have made : ∀ part ∈ tied, ∀ candidate ∈ part, candidate.IsMade := by
    simp only [tied, List.forall_mem_cons]
    exact ⟨⟨rfl, rfl, rfl, by simp⟩, ⟨rfl, rfl, rfl, by simp⟩, by simp⟩
  have named : ∀ strategy ∈ tied.map (returning ['x']), Text.isBlank strategy.name = false := by
    intro strategy isStrategy
    obtain ⟨part, -, rfl⟩ := List.mem_map.mp isStrategy
    rfl
  have yields : List.Forall₂
      (fun strategy part => (strategy.look { diff := {} }).outcome = .returned part)
      (tied.map (returning ['x'])) tied :=
    List.forall₂_map_left_iff.mpr (List.forall₂_same.mpr fun _ _ => rfl)
  obtain ⟨results, merged, retrieved, isMerged, found⟩ :=
    found_merge_retrieve (by simp [tied]) named made yields
  exact ⟨made, results, merged, retrieved, isMerged, by rw [found]; decide +kernel⟩

end Retrieval

end Marginalia
