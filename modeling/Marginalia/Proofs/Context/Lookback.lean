import Mathlib
import Marginalia.Proofs.Context.CoChange
import Marginalia.Proofs.Number.Rounding
import Marginalia.Proofs.Settings.Ranges

/-!
# How far the history can be asked back

Settings of the history that are accepted look back at least a day, but as many days as they like.
The history is asked, and whatever it returns can be analyzed, as long as the calendar reaches back
so far; beyond that no question can be put.
-/

namespace Marginalia

/-- Some days can be gone back if they make up a length of time, and the calendar has that many
days before. -/
theorem Moment.exists_back_iff {moment : Moment} {days : Int} (positive : 0 < days) :
    (∃ since, moment.back days = .ok since) ↔ days ≤ maxDays ∧ days < moment.date.number := by
  rw [back, Date.back?, maxDays]
  split_ifs with noInteger tooMany inCalendar
  · exact iff_of_false (by simp) (by omega)
  · exact iff_of_false (by simp) (by omega)
  · exact iff_of_true ⟨_, rfl⟩ (by omega)
  · exact iff_of_false (by simp) (by omega)

/-! ## Analyses in doubles -/

theorem Coupling.exists_make_iff {Amount : Type} [Scale Amount] {path : Text} {count : Int}
    {frequency : Amount} {thresholds : Thresholds Amount} :
    (∃ coupling, make path count frequency thresholds = .ok coupling) ↔
      Text.isBlank path = false ∧ 0 ≤ count ∧ Scale.isShare frequency = true := by
  rw [make]
  split_ifs with blank negative share
  · exact iff_of_false (by simp) (by simp [blank])
  · exact iff_of_false (by simp) (by simp [negative])
  · exact iff_of_true ⟨_, rfl⟩ ⟨by simpa using blank, by simpa using negative, share⟩
  · exact iff_of_false (by simp) (by simp [share])

section

variable {target : Text} {commits : List (List Text)} {entry : Text × Nat}

/-- What is counted came up in a commit. -/
theorem exists_of_mem_partnerCounts (isEntry : entry ∈ partnerCounts target commits) :
    0 < entry.2 ∧ ∃ files ∈ commits, entry.1 ∈ files := by
  have counted : Table.get? entry.1 (partnerCounts target commits) = some entry.2 :=
    Table.get?_of_mem (nodup_keys_partnerCounts target commits) isEntry
  rw [partnerCounts_eq_tally, Table.get?_tally, Option.ite_none_right_eq_some] at counted
  obtain ⟨occurs, count⟩ := counted
  refine ⟨Option.some.inj count ▸ List.count_pos_iff.mpr occurs, ?_⟩
  obtain ⟨files, isTouching, isFile⟩ := List.mem_flatten.mp (List.mem_filter.mp occurs).1
  exact ⟨files, (List.mem_filter.mp isTouching).1, isFile⟩

/-- Commits without blank paths can be analyzed, whatever thresholds are set. -/
theorem CoChange.exists_ofCommits (thresholds : Thresholds Float) (target : Text)
    (visible : ∀ files ∈ commits, ∀ path ∈ files, Text.isBlank path = false) :
    ∃ found, ofCommits thresholds target commits = .ok found := by
  rw [ofCommits, exists_map_eq_ok_iff, Marginalia.couplings, exists_bind_pure_eq_ok_iff,
    exists_mapM_eq_ok_iff]
  intro entry isListed
  have isEntry := (descending_perm _).mem_iff.mp isListed
  obtain ⟨positive, files, isCommit, isFile⟩ := exists_of_mem_partnerCounts isEntry
  have atMost := le_largestCount isEntry
  exact Coupling.exists_make_iff.mpr ⟨visible files isCommit entry.1 isFile, Int.natCast_nonneg _,
    Number.isShare_nearestQuotient (positive.trans_le atMost) atMost⟩

end

/-! ## Questions that can be put -/

namespace Strategy

/-- Whatever the history is asked, it returns commits without blank paths. -/
def Answers {Call : Type} (source : SourceControl Call) : Prop :=
  ∀ question, ∃ commits, (source.commits question).outcome = .returned commits ∧
    ∀ commit ∈ commits, ∀ path ∈ commit.files, Text.isBlank path = false

variable {Call : Type} {source : SourceControl Call} {settings : HistorySettings} {now : Moment}
  {repository target : Text}

/-- A look-back that the calendar does not reach fails before anything is asked. -/
theorem analysis_eq_fail {Amount : Type} [Scale Amount] {overflow : Moment.Overflow}
    (undated : now.back settings.lookbackDays = .error overflow) (thresholds : Thresholds Amount) :
    analysis source settings thresholds now repository target = Work.fail (.lookback overflow) := by
  have notAsked : settings.question now repository target = .error overflow := by
    rw [HistorySettings.question, undated]
    rfl
  change Work.andThen (Work.ofExcept _ _) _ = _
  rw [notAsked]
  rfl

/-- An analysis returns exactly when the look-back can be dated. -/
theorem exists_outcome_analysis_iff (answers : Answers source) (thresholds : Thresholds Float) :
    (∃ found, (analysis source settings thresholds now repository target).outcome =
        .returned (.ok found)) ↔
      ∃ since, now.back settings.lookbackDays = .ok since := by
  cases dated : now.back settings.lookbackDays with
  | error overflow =>
      rw [analysis_eq_fail dated]
      simp [Work.fail]
  | ok since =>
      obtain ⟨commits, returned, visible⟩ :=
        answers { repository, path := target, since, maxResults := settings.maxResults }
      obtain ⟨found, isFound⟩ :=
        CoChange.exists_ofCommits thresholds target (List.forall_mem_map.mpr visible)
      rw [outcome_analysis dated returned, isFound]
      exact iff_of_true ⟨found, rfl⟩ ⟨since, rfl⟩

/-- With settings that are accepted, a history that answers is analyzed exactly when the calendar
reaches back as many days as they say. -/
theorem accepted_settings_serve_iff {value : Value}
    (accepted : HistorySettings.ofValue value = .ok settings) (answers : Answers source) :
    (∃ found, (analysis source settings settings.thresholds now repository target).outcome =
        .returned (.ok found)) ↔
      settings.lookbackDays ≤ Moment.maxDays ∧ settings.lookbackDays < now.date.number := by
  obtain ⟨entries, -, isRead⟩ := bind_eq_ok_iff.mp accepted
  have inRange := HistorySettings.isInRange_of_ofEntries isRead
  rw [exists_outcome_analysis_iff answers, Moment.exists_back_iff inRange.lookbackDays]

/-- Settings that say nothing but how many days to look back. -/
def lookingBack (days : Int) : Value :=
  .mapping (Settings.record [("lookback_days", .integer days)])

/-- No limit is set to the days, as long as they can be written. -/
theorem ofValue_lookingBack {days : Int} (positive : 0 < days)
    (written : Text.isWritable days = true) :
    HistorySettings.ofValue (lookingBack days) = .ok { lookbackDays := days } := by
  change HistorySettings.check { lookbackDays := days } = _
  have checked : Settings.require (0 < days) (.lookbackDays days : Settings.Fault) = .ok () :=
    Settings.require_eq_ok_iff.mpr ⟨written, decide_eq_true positive⟩
  have ascending : (Number.atMost 0 (Thresholds.standard : Thresholds Float).medium &&
      Number.atMost Thresholds.standard.medium (Thresholds.standard : Thresholds Float).high &&
      Number.atMost (Thresholds.standard : Thresholds Float).high 1) = true := by
    decide
  simp only [HistorySettings.check, checked, ascending]
  rfl

theorem accepted_settings_serve_iff_summer :
    HistorySettings.ofValue (lookingBack 739037) = .ok { lookbackDays := 739037 } ∧
      Answers (recorded entangled) ∧
      ∃ found : CoChange Float, (analysis (recorded entangled) { lookbackDays := 739037 }
        Thresholds.standard summer [] ['t']).outcome = .returned (.ok found) := by
  have accepted : HistorySettings.ofValue (lookingBack 739037) =
      .ok { lookbackDays := 739037 } := ofValue_lookingBack (by decide) (by decide)
  have answers : Answers (recorded entangled) := fun _ => ⟨entangled, rfl, by decide⟩
  exact ⟨accepted, answers, (accepted_settings_serve_iff accepted answers).mpr (by decide)⟩

/-- One day more is accepted as well, but no question can be put. -/
theorem exists_accepted_settings_fail :
    ∃ settings, HistorySettings.ofValue (lookingBack 739038) = .ok settings ∧
      Answers (recorded entangled) ∧
      (analysis (recorded entangled) settings settings.thresholds summer [] ['t']).outcome =
        .failed (.lookback .beforeCalendar) := by
  refine ⟨_, ofValue_lookingBack (by decide) (by decide), fun _ => ⟨entangled, rfl, by decide⟩, ?_⟩
  have undated : summer.back ({ lookbackDays := 739038 } : HistorySettings).lookbackDays =
      .error .beforeCalendar := by
    decide
  rw [analysis_eq_fail undated]
  rfl

end Strategy

end Marginalia
