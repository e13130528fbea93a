import Mathlib.Tactic.Common
import Marginalia.Proofs.Value.Conversion
import Marginalia.Settings.Basic
import Marginalia.Settings.Document

/-!
# Numbers out of range

Settings that are read are in range, whatever was written.  A number that is out of range is refused
as a faulty value, unless it has to be converted first and cannot be: an infinity where an integer
is asked for, or an integer too large for a decimal, escapes if nothing before it is refused.
-/

namespace Marginalia

/-! ## What is read is in range -/

namespace Settings

theorem require_eq_ok_iff {condition : Bool} {fault : Fault} :
    require condition fault = .ok () ↔ fault.isWritable = true ∧ condition = true := by
  rw [require]
  split_ifs with unwritable holds <;> simp_all

theorem not_escapes_require {condition : Bool} {fault : Fault} (isValue : fault.family = .value) :
    ¬Escapes Fault.family (require condition fault) := by
  rw [require]
  split_ifs
  · exact fun escapes => escapes_error_iff.mp escapes rfl
  · exact not_escapes_ok _ _
  · exact fun escapes => escapes_error_iff.mp escapes isValue

end Settings

open Settings

/-- A share of repositories and a size of diffs that mean something. -/
structure Rollout.IsInRange (rollout : Rollout) : Prop where
  /-- The share is a percentage. -/
  percentage : 0 ≤ rollout.percentage ∧ rollout.percentage ≤ 100
  /-- There are lines. -/
  maxDiffLines : 0 < rollout.maxDiffLines

/-- Limits and thresholds of the history that mean something. -/
structure HistorySettings.IsInRange (settings : HistorySettings) : Prop where
  /-- There are days. -/
  lookbackDays : 0 < settings.lookbackDays
  /-- There are commits. -/
  maxResults : 0 < settings.maxResults
  /-- No threshold is below nothing. -/
  medium : Number.atMost 0 settings.thresholds.medium = true
  /-- The thresholds ascend. -/
  ascending : Number.atMost settings.thresholds.medium settings.thresholds.high = true
  /-- No threshold is above certainty. -/
  high : Number.atMost settings.thresholds.high 1 = true

/-- Settings that mean something. -/
structure ContextSettings.IsInRange (settings : ContextSettings) : Prop where
  /-- There is time for each strategy. -/
  strategyTimeout : Number.below 0 settings.strategyTimeout = true
  /-- If the time of all strategies is limited, there is some. -/
  overallTimeout : ∀ seconds ∈ settings.overallTimeout, Number.below 0 seconds = true
  /-- The rollout is in range. -/
  rollout : settings.rollout.IsInRange
  /-- So is the history. -/
  history : settings.history.IsInRange

theorem Rollout.isInRange_of_ofEntries {entries : List (Value × Value)} {rollout : Rollout}
    (accepted : ofEntries entries = .ok rollout) : rollout.IsInRange := by
  obtain ⟨percentage, -, rest⟩ := bind_eq_ok_iff.mp accepted
  obtain ⟨maxDiffLines, -, checked⟩ := bind_eq_ok_iff.mp rest
  obtain ⟨⟨⟩, share, rest⟩ := bind_eq_ok_iff.mp checked
  obtain ⟨⟨⟩, size, last⟩ := bind_eq_ok_iff.mp rest
  obtain rfl := Except.ok.inj last
  rw [require_eq_ok_iff] at share size
  exact ⟨by simpa using share.2, by simpa using size.2⟩

theorem HistorySettings.isInRange_of_ofEntries {entries : List (Value × Value)}
    {settings : HistorySettings} (accepted : ofEntries entries = .ok settings) :
    settings.IsInRange := by
  obtain ⟨lookbackDays, -, rest⟩ := bind_eq_ok_iff.mp accepted
  obtain ⟨maxResults, -, rest⟩ := bind_eq_ok_iff.mp rest
  obtain ⟨high, -, rest⟩ := bind_eq_ok_iff.mp rest
  obtain ⟨medium, -, checked⟩ := bind_eq_ok_iff.mp rest
  obtain ⟨⟨⟩, days, rest⟩ := bind_eq_ok_iff.mp checked
  obtain ⟨⟨⟩, results, rest⟩ := bind_eq_ok_iff.mp rest
  obtain ⟨⟨⟩, thresholds, last⟩ := bind_eq_ok_iff.mp rest
  obtain rfl := Except.ok.inj last
  rw [require_eq_ok_iff] at days results thresholds
  obtain ⟨-, thresholds⟩ := thresholds
  rw [Bool.and_eq_true, Bool.and_eq_true] at thresholds
  exact ⟨by simpa using days.2, by simpa using results.2, thresholds.1.1, thresholds.1.2,
    thresholds.2⟩

namespace ContextSettings

variable {items : List Value} {settings result : ContextSettings}

/-- The settings under the names of those who may look. -/
def withNames (items : List Value) (settings : ContextSettings) :
    Except Fault ContextSettings := do
  require (names? items).isSome (.strategiesNoNames items)
  pure { settings with strategies := (names? items).getD [] }

/-- What is left to be checked when all parts of the settings are read. -/
def finish (items : List Value) (settings : ContextSettings) : Except Fault ContextSettings := do
  require (Number.below 0 settings.strategyTimeout) (.strategyTimeout settings.strategyTimeout)
  if let some seconds := settings.overallTimeout then
    require (Number.below 0 seconds) (.overallTimeout seconds)
  withNames items settings

theorem ofEntries_eq (entries : List (Value × Value)) :
    ofEntries entries = (do
      let items ← strategyItems entries
      let strategyTimeout ← decimalField "strategy_timeout_seconds" 5 entries
      let overallTimeout ← optionalDecimalField "overall_timeout_seconds" entries
      let rollout ← sectionOf "rollout" entries >>= Rollout.ofEntries
      let history ← sectionOf "history" entries >>= HistorySettings.ofEntries
      finish items
        { isEnabled := flagField "enabled" true entries
          strategyTimeout, overallTimeout, rollout, history }) :=
  rfl

theorem withNames_eq_ok (named : withNames items settings = .ok result) :
    ∃ strategies, result = { settings with strategies } := by
  obtain ⟨⟨⟩, -, last⟩ := bind_eq_ok_iff.mp named
  exact ⟨_, (Except.ok.inj last).symm⟩

theorem finish_eq_ok (finished : finish items settings = .ok result) :
    Number.below 0 settings.strategyTimeout = true ∧
      (∀ seconds ∈ settings.overallTimeout, Number.below 0 seconds = true) ∧
      ∃ strategies, result = { settings with strategies } := by
  obtain ⟨⟨⟩, timeout, rest⟩ := bind_eq_ok_iff.mp finished
  have limited : (∀ seconds ∈ settings.overallTimeout, Number.below 0 seconds = true) ∧
      withNames items settings = .ok result := by
    cases limit : settings.overallTimeout with
    | none =>
        rw [limit] at rest
        exact ⟨by simp, rest⟩
    | some seconds =>
        rw [limit] at rest
        obtain ⟨⟨⟩, positive, named⟩ := bind_eq_ok_iff.mp rest
        exact ⟨by simpa using (require_eq_ok_iff.mp positive).2, named⟩
  exact ⟨(require_eq_ok_iff.mp timeout).2, limited.1, withNames_eq_ok limited.2⟩

theorem isInRange_of_ofEntries {entries : List (Value × Value)}
    (accepted : ofEntries entries = .ok settings) : settings.IsInRange := by
  rw [ofEntries_eq] at accepted
  obtain ⟨items, -, rest⟩ := bind_eq_ok_iff.mp accepted
  obtain ⟨strategyTimeout, -, rest⟩ := bind_eq_ok_iff.mp rest
  obtain ⟨overallTimeout, -, rest⟩ := bind_eq_ok_iff.mp rest
  obtain ⟨rollout, isRollout, rest⟩ := bind_eq_ok_iff.mp rest
  obtain ⟨history, isHistory, finished⟩ := bind_eq_ok_iff.mp rest
  obtain ⟨_, -, isRollout⟩ := bind_eq_ok_iff.mp isRollout
  obtain ⟨_, -, isHistory⟩ := bind_eq_ok_iff.mp isHistory
  obtain ⟨timeout, limit, strategies, rfl⟩ := finish_eq_ok finished
  exact ⟨timeout, limit, Rollout.isInRange_of_ofEntries isRollout,
    HistorySettings.isInRange_of_ofEntries isHistory⟩

theorem not_escapes_finish (items : List Value) (settings : ContextSettings) :
    ¬Escapes Fault.family (finish items settings) := by
  have names : ¬Escapes Fault.family (withNames items settings) := by
    rw [withNames, escapes_bind_of_total fun _ => not_escapes_pure _ _]
    exact not_escapes_require rfl
  rw [finish, escapes_bind_iff, or_iff_right (not_escapes_require rfl)]
  rintro ⟨⟨⟩, -, escapes⟩
  cases limit : settings.overallTimeout with
  | none =>
      rw [limit] at escapes
      exact names escapes
  | some seconds =>
      rw [limit] at escapes
      obtain ⟨⟨⟩, -, escapesLater⟩ :=
        (escapes_bind_iff.mp escapes).resolve_left (not_escapes_require rfl)
      exact names escapesLater

end ContextSettings

/-! ## Numbers in fields -/

/-- Not a number, as a decimal. -/
def Value.IsNan (value : Value) : Prop :=
  ∃ number, value = .decimal number ∧ number.isNaN = true

/-- An integer or a decimal. -/
def Value.isNumber : Value → Bool
  | .integer _ => true
  | .decimal _ => true
  | _ => false

namespace Settings

variable {name : String} {entries : List (Value × Value)}

/-- Under a key stands a value of some sort. -/
def Holds (sort : Value → Prop) (name : String) (entries : List (Value × Value)) : Prop :=
  ∃ value ∈ Value.field? name.toList entries, sort value

/-- Under a key stands a number, if anything does. -/
def HoldsNumber (name : String) (entries : List (Value × Value)) : Prop :=
  ∀ value ∈ Value.field? name.toList entries, value.isNumber = true

instance decidableHoldsNumber (name : String) (entries : List (Value × Value)) :
    Decidable (HoldsNumber name entries) :=
  inferInstanceAs (Decidable (∀ value ∈ Value.field? name.toList entries, value.isNumber = true))

theorem escapes_mapError_iff {Result : Type} {run : Except Value.Fault Result} :
    Escapes Fault.family (run.mapError .value : Except Fault Result) ↔
      Escapes Value.Fault.family run := by
  cases run with
  | error cause => simp [Except.mapError, escapes_error_iff, Fault.family]
  | ok result => simp [Except.mapError, not_escapes_ok]

section

variable {value : Value} (isNumber : value.isNumber = true)

include isNumber

/-- A number is asked for an integer in vain when it is infinite, which escapes, or none at all. -/
theorem toInteger_cases :
    (value.IsInfinite ∧ value.toInteger = .error .integerFromInfinity) ∨
      (¬value.IsInfinite ∧ value.IsNan ∧ value.toInteger = .error .integerFromNan) ∨
      ¬value.IsInfinite ∧ ¬value.IsNan ∧ ∃ number, value.toInteger = .ok number := by
  by_cases infinite : value.IsInfinite
  · exact .inl ⟨infinite, Value.toInteger_eq_infinity_iff.mpr infinite⟩
  · refine .inr ?_
    cases value with
    | integer number => exact .inr ⟨infinite, by simp [Value.IsNan], number, rfl⟩
    | decimal number =>
        have finite : ¬Number.isInfinite number = true := fun isInfinite =>
          infinite ⟨number, rfl, isInfinite⟩
        by_cases nan : number.isNaN = true
        · exact .inl ⟨infinite, ⟨number, rfl, nan⟩, by rw [Value.toInteger, if_pos nan]⟩
        · refine .inr ⟨infinite, by simpa [Value.IsNan] using nan, Number.truncate number, ?_⟩
          rw [Value.toInteger, if_neg nan, if_neg finite]
    | _ => contradiction

theorem exists_toDecimal_iff :
    (∃ number, value.toDecimal = .ok number) ↔ ¬value.IsBeyondDecimals := by
  rw [← escapes_toDecimal_iff, not_escapes_iff, iff_self_or]
  rintro ⟨fault, failed, faulty⟩
  cases value with
  | integer number =>
      rw [Value.toDecimal, Value.decimalOfInteger] at failed
      split at failed
      · obtain rfl := Except.error.inj failed
        contradiction
      · contradiction
  | decimal number => contradiction
  | _ => contradiction

end

section

variable (number : HoldsNumber name entries)

include number

theorem escapes_integerField_iff (standard : Int) :
    Escapes Fault.family (integerField name standard entries) ↔
      Holds Value.IsInfinite name entries := by
  rw [integerField, Holds]
  cases found : Value.field? name.toList entries with
  | none => simp [not_escapes_ok]
  | some value =>
      rw [escapes_mapError_iff]
      rcases toInteger_cases (number value found) with
        ⟨infinite, refused⟩ | ⟨finite, -, refused⟩ | ⟨finite, -, _, isRead⟩
      · simp [refused, infinite, escapes_error_iff, Value.Fault.family]
      · simp [refused, finite, escapes_error_iff, Value.Fault.family]
      · simp [isRead, finite, not_escapes_ok]

theorem exists_integerField_iff (standard : Int) :
    (∃ result, integerField name standard entries = .ok result) ↔
      ¬Holds Value.IsInfinite name entries ∧ ¬Holds Value.IsNan name entries := by
  rw [integerField, Holds, Holds]
  cases found : Value.field? name.toList entries with
  | none => simp
  | some value =>
      simp only [mapError_eq_ok_iff]
      rcases toInteger_cases (number value found) with
        ⟨infinite, refused⟩ | ⟨finite, nan, refused⟩ | ⟨finite, some, _, isRead⟩
      · simp [refused, infinite]
      · simp [refused, nan]
      · simp [isRead, finite, some]

theorem exists_decimalField_iff (standard : Float) :
    (∃ result, decimalField name standard entries = .ok result) ↔
      ¬Holds Value.IsBeyondDecimals name entries := by
  rw [decimalField, Holds]
  cases found : Value.field? name.toList entries with
  | none => simp
  | some value => simp [mapError_eq_ok_iff, exists_toDecimal_iff (number value found)]

end

theorem escapes_decimalField_iff (standard : Float) :
    Escapes Fault.family (decimalField name standard entries) ↔
      Holds Value.IsBeyondDecimals name entries := by
  rw [decimalField, Holds]
  cases Value.field? name.toList entries with
  | none => simp [not_escapes_ok]
  | some value => simp [escapes_mapError_iff, escapes_toDecimal_iff]

section

variable (number : HoldsNumber name entries)

include number

/-- A decimal that may say nothing is read as another one, where it says something. -/
theorem optionalDecimalField_eq_map {value : Value}
    (found : Value.field? name.toList entries = some value) (standard : Float) :
    optionalDecimalField name entries = (decimalField name standard entries).map some := by
  have isNumber := number value found
  rw [optionalDecimalField, decimalField, found]
  cases value with
  | null => contradiction
  | _ => exact mapError_map _ _ _

theorem escapes_optionalDecimalField_iff :
    Escapes Fault.family (optionalDecimalField name entries) ↔
      Holds Value.IsBeyondDecimals name entries := by
  cases found : Value.field? name.toList entries with
  | none => simp [optionalDecimalField, Holds, found, not_escapes_ok]
  | some value =>
      rw [optionalDecimalField_eq_map number found 0, ← escapes_decimalField_iff 0]
      exact escapes_map_iff

theorem exists_optionalDecimalField_iff :
    (∃ result, optionalDecimalField name entries = .ok result) ↔
      ¬Holds Value.IsBeyondDecimals name entries := by
  cases found : Value.field? name.toList entries with
  | none => simp [optionalDecimalField, Holds, found]
  | some value =>
      rw [optionalDecimalField_eq_map number found 0, exists_map_eq_ok_iff,
        exists_decimalField_iff number]

end

end Settings

/-! ## Sections -/

/-- What comes behind a step matters only where the step does not escape, so that this need not be
said again. -/
theorem or_behind_iff {escapes refused later : Prop} :
    escapes ∨ (¬escapes ∧ ¬refused) ∧ later ↔ escapes ∨ ¬refused ∧ later := by
  tauto

theorem or_not_behind_iff {escapes later : Prop} :
    escapes ∨ ¬escapes ∧ later ↔ escapes ∨ later := by
  tauto

/-- An infinite share of repositories, or an infinite size behind a share that is a number. -/
def Rollout.Overflows (entries : List (Value × Value)) : Prop :=
  Holds Value.IsInfinite "percentage" entries ∨
    ¬Holds Value.IsNan "percentage" entries ∧ Holds Value.IsInfinite "max_diff_lines" entries

/-- Infinitely many days, or behind days that are a number infinitely many commits, or behind
commits that are a number a threshold that is too large. -/
def HistorySettings.Overflows (entries : List (Value × Value)) : Prop :=
  Holds Value.IsInfinite "lookback_days" entries ∨
    ¬Holds Value.IsNan "lookback_days" entries ∧
      (Holds Value.IsInfinite "max_results" entries ∨
        ¬Holds Value.IsNan "max_results" entries ∧
          (Holds Value.IsBeyondDecimals "high_threshold" entries ∨
            Holds Value.IsBeyondDecimals "medium_threshold" entries))

theorem Rollout.escapes_ofEntries_iff {entries : List (Value × Value)}
    (numbers : ∀ name ∈ ["percentage", "max_diff_lines"], HoldsNumber name entries) :
    Escapes Fault.family (ofEntries entries) ↔ Overflows entries := by
  have percentage := numbers "percentage" (by simp)
  have maxDiffLines := numbers "max_diff_lines" (by simp)
  have checks (rollout : Rollout) :
      ¬Escapes Fault.family (rollout.check : Except Fault Rollout) := by
    rw [check, escapes_bind_iff, escapes_bind_of_total fun _ => not_escapes_pure _ _]
    rintro (escapes | ⟨⟨⟩, -, escapes⟩)
    · exact not_escapes_require rfl escapes
    · exact not_escapes_require rfl escapes
  rw [ofEntries]
  simp only [escapes_bind_iff, checks, and_false, exists_false, or_false, exists_and_right,
    escapes_integerField_iff percentage, exists_integerField_iff percentage,
    escapes_integerField_iff maxDiffLines, or_behind_iff]
  rfl

theorem HistorySettings.escapes_ofEntries_iff {entries : List (Value × Value)}
    (numbers : ∀ name ∈ ["lookback_days", "max_results", "high_threshold", "medium_threshold"],
      HoldsNumber name entries) :
    Escapes Fault.family (ofEntries entries) ↔ Overflows entries := by
  have lookbackDays := numbers "lookback_days" (by simp)
  have maxResults := numbers "max_results" (by simp)
  have high := numbers "high_threshold" (by simp)
  have checks (settings : HistorySettings) :
      ¬Escapes Fault.family (settings.check : Except Fault HistorySettings) := by
    rw [check, escapes_bind_iff]
    rintro (escapes | ⟨⟨⟩, -, escapes⟩)
    · exact not_escapes_require rfl escapes
    · rw [escapes_bind_iff, escapes_bind_of_total fun _ => not_escapes_pure _ _] at escapes
      rcases escapes with escapes | ⟨⟨⟩, -, escapes⟩
      · exact not_escapes_require rfl escapes
      · exact not_escapes_require rfl escapes
  rw [ofEntries]
  simp only [escapes_bind_iff, checks, and_false, exists_false, or_false, exists_and_right,
    escapes_integerField_iff lookbackDays, exists_integerField_iff lookbackDays,
    escapes_integerField_iff maxResults, exists_integerField_iff maxResults,
    escapes_decimalField_iff, exists_decimalField_iff high, or_behind_iff, or_not_behind_iff]
  rfl

/-! ## Documents -/

namespace Settings

/-- A part that is a mapping, or left out. -/
def IsSection (name : String) (entries : List (Value × Value)) : Prop :=
  ∀ value ∈ Value.field? name.toList entries, ∃ part, value = .mapping part

/-- The entries of a part; none where it is no mapping. -/
def partOf (name : String) (entries : List (Value × Value)) : List (Value × Value) :=
  match Value.field? name.toList entries with
  | some (.mapping part) => part
  | _ => []

theorem sectionOf_of_isSection {name : String} {entries : List (Value × Value)}
    (isSection : IsSection name entries) : sectionOf name entries = .ok (partOf name entries) := by
  rw [sectionOf, partOf]
  cases found : Value.field? name.toList entries with
  | none => rfl
  | some value =>
      obtain ⟨part, rfl⟩ := isSection value found
      cases part <;> rfl

/-- A configuration that has numbers where numbers are meant, mappings where sections are meant and
names where strategies are meant, as far as it says anything. -/
structure IsNumeric (config : List (Value × Value)) : Prop where
  /-- The settings are a section. -/
  context : IsSection "context" config
  /-- The rollout is a section of them. -/
  rollout : IsSection "rollout" (partOf "context" config)
  /-- So is the history. -/
  history : IsSection "history" (partOf "context" config)
  /-- The strategies are named. -/
  strategies : ∀ value ∈ Value.field? "strategies".toList (partOf "context" config),
    ∃ names : List Text, value = .list (names.map .text)
  /-- Times are numbers. -/
  times : ∀ name ∈ ["strategy_timeout_seconds", "overall_timeout_seconds"],
    HoldsNumber name (partOf "context" config)
  /-- The fields of the rollout are numbers. -/
  shares : ∀ name ∈ ["percentage", "max_diff_lines"],
    HoldsNumber name (partOf "rollout" (partOf "context" config))
  /-- The fields of the history are numbers. -/
  limits : ∀ name ∈ ["lookback_days", "max_results", "high_threshold", "medium_threshold"],
    HoldsNumber name (partOf "history" (partOf "context" config))

end Settings

/-- A time that is too large, a rollout that overflows, or behind a rollout that is accepted a
history that does. -/
def ContextSettings.Overflows (entries : List (Value × Value)) : Prop :=
  Holds Value.IsBeyondDecimals "strategy_timeout_seconds" entries ∨
    Holds Value.IsBeyondDecimals "overall_timeout_seconds" entries ∨
    Rollout.Overflows (partOf "rollout" entries) ∨
    (∃ rollout, Rollout.ofEntries (partOf "rollout" entries) = .ok rollout) ∧
      HistorySettings.Overflows (partOf "history" entries)

namespace ContextSettings

open Settings

variable {config : List (Value × Value)}

/-- A list of names can be shown. -/
theorem isWritable_strategiesNoList (names : List Text) :
    (Fault.strategiesNoList (.list (names.map .text)) : Fault).isWritable = true := by
  rw [Fault.isWritable, Value.isWritable]
  induction names with
  | nil => rfl
  | cons name names induct => exact induct

theorem exists_strategyItems {entries : List (Value × Value)}
    (named : ∀ value ∈ Value.field? "strategies".toList entries,
      ∃ names : List Text, value = .list (names.map .text)) :
    ∃ items, strategyItems entries = .ok items := by
  rw [strategyItems]
  cases found : Value.field? "strategies".toList entries with
  | none => exact ⟨_, rfl⟩
  | some value =>
      obtain ⟨names, rfl⟩ := named value found
      cases names with
      | nil => exact ⟨_, rfl⟩
      | cons name names =>
          have checked := require_eq_ok_iff.mpr
            ⟨isWritable_strategiesNoList (name :: names), Eq.refl true⟩
          exact ⟨_, congrArg (· >>= fun _ => pure _) checked⟩

theorem escapes_ofDocument_iff (numeric : IsNumeric config) :
    Escapes Fault.family (ofDocument (.mapping config)) ↔ Overflows (partOf "context" config) := by
  have timeout := numeric.times "strategy_timeout_seconds" (by simp)
  have limit := numeric.times "overall_timeout_seconds" (by simp)
  obtain ⟨items, areItems⟩ := exists_strategyItems numeric.strategies
  have isContext : ofDocument (.mapping config) = ofEntries (partOf "context" config) :=
    congrArg (· >>= ofEntries) (sectionOf_of_isSection numeric.context)
  have isRollout : sectionOf "rollout" (partOf "context" config) >>= Rollout.ofEntries =
      Rollout.ofEntries (partOf "rollout" (partOf "context" config)) :=
    congrArg (· >>= Rollout.ofEntries) (sectionOf_of_isSection numeric.rollout)
  have isHistory : sectionOf "history" (partOf "context" config) >>= HistorySettings.ofEntries =
      HistorySettings.ofEntries (partOf "history" (partOf "context" config)) :=
    congrArg (· >>= HistorySettings.ofEntries) (sectionOf_of_isSection numeric.history)
  rw [isContext, ofEntries_eq, isRollout, isHistory, areItems]
  change Escapes Fault.family (decimalField _ _ _ >>= _) ↔ _
  simp only [escapes_bind_iff, not_escapes_finish, and_false, exists_false, or_false,
    exists_and_right, escapes_decimalField_iff, exists_decimalField_iff timeout,
    escapes_optionalDecimalField_iff limit, exists_optionalDecimalField_iff limit,
    Rollout.escapes_ofEntries_iff numeric.shares,
    HistorySettings.escapes_ofEntries_iff numeric.limits, or_not_behind_iff]
  rfl

/-- A configuration that has numbers where numbers are meant gives settings in range or is refused
as a faulty value, exactly when it does not overflow. -/
theorem in_range_or_faulty_value_iff (numeric : IsNumeric config) :
    ((∃ settings, ofDocument (.mapping config) = .ok settings ∧ settings.IsInRange) ∨
        ∃ fault, ofDocument (.mapping config) = .error fault ∧ fault.family = .value) ↔
      ¬Overflows (partOf "context" config) := by
  rw [← escapes_ofDocument_iff numeric, not_escapes_iff]
  refine or_congr_left (exists_congr fun settings => and_iff_left_of_imp fun accepted => ?_)
  obtain ⟨entries, -, rest⟩ := bind_eq_ok_iff.mp accepted
  obtain ⟨part, -, isRead⟩ := bind_eq_ok_iff.mp rest
  exact isInRange_of_ofEntries isRead

/-- Endless time, half of the repositories, and a history of an undefined number of days with
endlessly many commits. -/
def endlessConfig : List (Value × Value) :=
  record [("context", .mapping (record [
    ("strategy_timeout_seconds", .decimal (1 / 0)),
    ("rollout", .mapping (record [("percentage", .integer 50)])),
    ("history", .mapping (record [
      ("lookback_days", .decimal (0 / 0)), ("max_results", .decimal (1 / 0))]))]))]

/-- The undefined number is refused before the infinite one is looked at. -/
theorem in_range_or_faulty_value_iff_endless :
    IsNumeric endlessConfig ∧
      ((∃ settings, ofDocument (.mapping endlessConfig) = .ok settings ∧ settings.IsInRange) ∨
        ∃ fault, ofDocument (.mapping endlessConfig) = .error fault ∧ fault.family = .value) := by
  have numeric : IsNumeric endlessConfig := by
    refine ⟨?_, ?_, ?_, ?_, by decide, by decide, by decide⟩
    · rintro _ ⟨⟩
      exact ⟨_, rfl⟩
    · rintro _ ⟨⟩
      exact ⟨_, rfl⟩
    · rintro _ ⟨⟩
      exact ⟨_, rfl⟩
    · rintro _ ⟨⟩
  have undefined : Holds Value.IsNan "lookback_days"
      (partOf "history" (partOf "context" endlessConfig)) :=
    ⟨_, rfl, _, rfl, by decide⟩
  refine ⟨numeric, (in_range_or_faulty_value_iff numeric).mpr ?_⟩
  rintro (⟨_, ⟨⟩, beyond⟩ | ⟨_, ⟨⟩, -⟩ | rollout | ⟨-, history⟩)
  · exact beyond
  · rcases rollout with ⟨_, ⟨⟩, _, isDecimal, -⟩ | ⟨-, _, ⟨⟩, -⟩
    contradiction
  · rcases history with ⟨_, ⟨⟩, number, isDecimal, infinite⟩ | ⟨defined, -⟩
    · obtain rfl := Value.decimal.inj isDecimal
      exact absurd infinite (by decide)
    · exact defined undefined

/-- An infinite share of repositories. -/
def endlessShare : List (Value × Value) :=
  record [("context", .mapping (record [
    ("rollout", .mapping (record [("percentage", .decimal (1 / 0))]))]))]

/-- An infinite share of repositories is refused, but not as a faulty value. -/
theorem exists_config_escapes :
    ∃ (config : List (Value × Value)) (fault : Fault), IsNumeric config ∧
      ofDocument (.mapping config) = .error fault ∧ fault.family ≠ .value := by
  have escapes : Escapes Fault.family (ofDocument (.mapping endlessShare)) := by
    decide
  obtain ⟨fault, failed, family⟩ := escapes
  refine ⟨_, fault, ⟨?_, ?_, ?_, ?_, by decide, by decide, by decide⟩,
    failed, family⟩
  · rintro _ ⟨⟩
    exact ⟨_, rfl⟩
  · rintro _ ⟨⟩
    exact ⟨_, rfl⟩
  · rintro _ ⟨⟩
  · rintro _ ⟨⟩

end ContextSettings

end Marginalia
