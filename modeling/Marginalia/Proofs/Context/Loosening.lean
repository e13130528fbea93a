import Mathlib.Tactic.Common
import Marginalia.Proofs.Context.AllOrNothing

/-!
# Looser settings

Each gate in front of a retrieval opens wider when the settings that rule it are loosened, so what
passed all of them still passes.  The gate of the rollout compares the percentage with the bucket of
the repository: with the other gates open, a repository takes part from the percentage above its
bucket on.
-/

namespace Marginalia

variable {Call : Type}

namespace ContextSettings

/-- Settings that are at least as permissive as others, gate by gate. -/
structure Loosens (looser settings : ContextSettings) : Prop where
  /-- Retrieval is not switched off. -/
  isEnabled : settings.isEnabled = true → looser.isEnabled = true
  /-- No smaller share of repositories takes part. -/
  percentage : settings.rollout.percentage ≤ looser.rollout.percentage
  /-- Where the size of a diff did not matter, it does not matter now. -/
  skipsLargeDiffs :
    settings.rollout.skipsLargeDiffs = false → looser.rollout.skipsLargeDiffs = false
  /-- Diffs may be as large as before. -/
  maxDiffLines : settings.rollout.maxDiffLines ≤ looser.rollout.maxDiffLines
  /-- Who was allowed to look still is. -/
  strategies : settings.strategies ⊆ looser.strategies

/-- The same settings with another share of repositories. -/
def atPercentage (settings : ContextSettings) (percentage : Int) : ContextSettings :=
  { settings with rollout := { settings.rollout with percentage } }

theorem loosens_atPercentage (settings : ContextSettings) {percentage wider : Int}
    (atMost : percentage ≤ wider) :
    (settings.atPercentage wider).Loosens (settings.atPercentage percentage) where
  isEnabled := id
  percentage := atMost
  skipsLargeDiffs := id
  maxDiffLines := Int.le_refl _
  strategies := List.Subset.refl _

variable {given : List (Strategy Call)} {settings looser : ContextSettings} {bundle : Bundle}

/-- The gates other than that of the rollout are open for a change. -/
structure PassesBesideRollout (given : List (Strategy Call)) (settings : ContextSettings)
    (bundle : Bundle) : Prop where
  /-- Retrieval is switched on. -/
  isEnabled : settings.isEnabled = true
  /-- The diff is not too large. -/
  size : settings.rollout.skipsLargeDiffs = true →
    bundle.diff.lineCount ≤ settings.rollout.maxDiffLines
  /-- Somebody may look. -/
  strategies : ∃ strategy ∈ given, strategy.name ∈ settings.strategies

theorem PassesBesideRollout.of_loosens (passes : settings.PassesBesideRollout given bundle)
    (loosens : looser.Loosens settings) : looser.PassesBesideRollout given bundle where
  isEnabled := loosens.isEnabled passes.isEnabled
  size checked := by
    have alsoBefore : settings.rollout.skipsLargeDiffs = true := by
      rw [← Bool.not_eq_false]
      intro unchecked
      rw [loosens.skipsLargeDiffs unchecked] at checked
      contradiction
    exact Int.le_trans (passes.size alsoBefore) loosens.maxDiffLines
  strategies := by
    obtain ⟨strategy, isGiven, isAllowed⟩ := passes.strategies
    exact ⟨strategy, isGiven, loosens.strategies isAllowed⟩

end ContextSettings

namespace Orchestrator

variable {given : List (Strategy Call)} {settings looser : ContextSettings} {bundle : Bundle}

theorem allowed_make_ne_nil_iff :
    (make given settings).allowed ≠ [] ↔
      ∃ strategy ∈ given, strategy.name ∈ settings.strategies := by
  have sameOnes := (isLineUp_allowed given settings).allowed
  rw [← List.length_pos_iff, sameOnes.length_eq, List.length_pos_iff_exists_mem]
  simp only [List.mem_filter, decide_eq_true_eq]

/-- The gates in front of a retrieval, each on its own. -/
theorem skip?_make_eq_none_iff :
    (make given settings).skip? bundle = none ↔
      settings.PassesBesideRollout given bundle ∧
        (100 ≤ settings.rollout.percentage ∨
          rolloutBucket bundle.repository < settings.rollout.percentage) := by
  rw [skip?_eq_none_iff, allowed_make_ne_nil_iff]
  constructor
  · rintro ⟨isEnabled, size, share, someone⟩
    simp only [make, not_and, Int.not_lt, Int.not_le] at isEnabled size share
    refine ⟨⟨isEnabled, size, someone⟩, ?_⟩
    by_cases everyone : 100 ≤ settings.rollout.percentage
    · exact .inl everyone
    · exact .inr (share (Int.not_le.mp everyone))
  · rintro ⟨⟨isEnabled, size, someone⟩, share⟩
    refine ⟨isEnabled, fun large => ?_, fun outside => ?_, someone⟩
    · exact Int.not_lt.mpr (size large.1) large.2
    · exact share.elim (Int.not_le.mpr outside.1) (Int.not_lt.mpr outside.2)

/-- What passes every gate still does under looser settings. -/
theorem skip?_eq_none_of_loosens (loosens : looser.Loosens settings)
    (passes : (make given settings).skip? bundle = none) :
    (make given looser).skip? bundle = none := by
  obtain ⟨beside, share⟩ := skip?_make_eq_none_iff.mp passes
  have atMost := loosens.percentage
  refine skip?_make_eq_none_iff.mpr ⟨beside.of_loosens loosens, ?_⟩
  omega

/-- Where the other gates are open, the share of the rollout decides. -/
theorem skip?_atPercentage_eq_none_iff (beside : settings.PassesBesideRollout given bundle)
    (percentage : Int) :
    (make given (settings.atPercentage percentage)).skip? bundle = none ↔
      100 ≤ percentage ∨ rolloutBucket bundle.repository < percentage := by
  rw [skip?_make_eq_none_iff]
  exact and_iff_right ⟨beside.isEnabled, beside.size, beside.strategies⟩

/-- Looser settings never switch a retrieval off.  Where the other gates are open, no repository
takes part in a rollout at nothing, every one does in a full one, and in between those do whose
bucket is below the percentage, so that raising it only adds repositories. -/
theorem loosening_never_skips (given : List (Strategy Call)) (bundle : Bundle) :
    (∀ settings looser : ContextSettings, looser.Loosens settings →
      (make given settings).skip? bundle = none → (make given looser).skip? bundle = none) ∧
    ∀ settings : ContextSettings, settings.PassesBesideRollout given bundle →
      (make given (settings.atPercentage 0)).skip? bundle ≠ none ∧
      (make given (settings.atPercentage 100)).skip? bundle = none ∧
      (∀ percentage ≤ 100, (make given (settings.atPercentage percentage)).skip? bundle = none ↔
        rolloutBucket bundle.repository < percentage) ∧
      ∀ percentage wider, percentage ≤ wider →
        (make given (settings.atPercentage percentage)).skip? bundle = none →
        (make given (settings.atPercentage wider)).skip? bundle = none := by
  refine ⟨fun settings looser => skip?_eq_none_of_loosens, fun settings beside => ?_⟩
  have bucket := rolloutBucket_lt bundle.repository
  refine ⟨?_, ?_, fun percentage atMost => ?_, fun percentage wider atMost => ?_⟩
  · rw [Ne, skip?_atPercentage_eq_none_iff beside]
    omega
  · exact (skip?_atPercentage_eq_none_iff beside 100).mpr (.inl (Int.le_refl 100))
  · rw [skip?_atPercentage_eq_none_iff beside]
    omega
  · exact skip?_eq_none_of_loosens (settings.loosens_atPercentage atMost)

/-- Settings under which a small share of repositories takes part, with small diffs. -/
def narrow : ContextSettings where
  strategies := [['c']]
  rollout := { percentage := 8, maxDiffLines := 0 }

/-- Settings that are looser in every respect. -/
def wide : ContextSettings where
  strategies := [['x'], ['c'], ['c']]
  rollout := { percentage := 99, skipsLargeDiffs := false, maxDiffLines := 3 }

theorem loosening_never_skips_narrow :
    let bundle : Bundle := { diff := {}, repository := ['a'] }
    (wide.Loosens narrow ∧ (make mixed narrow).skip? bundle = none) ∧
      (make mixed wide).skip? bundle = none ∧
      narrow.PassesBesideRollout mixed bundle ∧
      (make mixed (narrow.atPercentage 7)).skip? bundle ≠ none := by
  intro bundle
  have bucket : rolloutBucket bundle.repository = 7 := by decide +kernel
  have loosens : wide.Loosens narrow := ⟨id, by decide, nofun, by decide, by simp [wide, narrow]⟩
  have beside : narrow.PassesBesideRollout mixed bundle :=
    ⟨rfl, fun _ => by decide, atOnce ['c'] 10 (.returned []), by simp [mixed],
      by simp [narrow, atOnce]⟩
  have passes : (make mixed narrow).skip? bundle = none :=
    skip?_make_eq_none_iff.mpr ⟨beside, .inr (by rw [bucket]; decide)⟩
  obtain ⟨keeps, admits⟩ := loosening_never_skips mixed bundle
  refine ⟨⟨loosens, passes⟩, keeps narrow wide loosens passes, beside, ?_⟩
  rw [Ne, (admits narrow beside).2.2.1 7 (by decide), bucket]
  decide

end Orchestrator

end Marginalia
