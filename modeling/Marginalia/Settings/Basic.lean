import Marginalia.Context.Coupling
import Marginalia.Value.Convert

/-!
# Settings

What a user may decide about the retrieval of context: whether it runs, for which repositories and
sizes of diffs, who looks and for how long, and how the history is weighed.  Settings are read from
a document of values; a key that is left out takes its standard value, and numbers may be written in
any form that stands for a number.  What is read is then checked, section by section.  The message
of a check is written before its condition is looked at, so an integer too long to be written is
refused by the check alone.
-/

namespace Marginalia

/-- How the history of a repository is looked at. -/
structure HistorySettings where
  /-- How many days to look back. -/
  lookbackDays : Int := 90
  /-- How many commits to look at, at most. -/
  maxResults : Int := 100
  /-- Where couplings begin to count. -/
  thresholds : Thresholds Float := Thresholds.standard

/-- Which changes context is retrieved for. -/
structure Rollout where
  /-- The share of repositories, in percent. -/
  percentage : Int := 100
  /-- Whether large diffs are left out. -/
  skipsLargeDiffs : Bool := true
  /-- The largest number of body lines of a diff that is not large. -/
  maxDiffLines : Int := 5000
deriving DecidableEq, Repr

/-- What a user may decide about the retrieval of context. -/
structure ContextSettings where
  /-- Whether context is retrieved at all. -/
  isEnabled : Bool := true
  /-- The names of those who may look. -/
  strategies : List Text := ["metadata-based".toList, "git-history".toList]
  /-- How many seconds each of them may take. -/
  strategyTimeout : Float := 5
  /-- How many seconds all of them together may take, if that is limited. -/
  overallTimeout : Option Float := none
  /-- Which changes context is retrieved for. -/
  rollout : Rollout := {}
  /-- How the history is looked at. -/
  history : HistorySettings := {}

namespace Settings

/-- Why settings are refused. -/
inductive Fault (Foreign : Type := Empty) where
  /-- A value is not of use where it stands. -/
  | value (cause : Value.Fault)
  /-- The names of strategies are no list. -/
  | strategiesNoList (found : Value Foreign)
  /-- A name of a strategy is no text. -/
  | strategiesNoNames (found : List (Value Foreign))
  /-- The time of each strategy is not positive. -/
  | strategyTimeout (seconds : Float)
  /-- The time of all strategies is not positive. -/
  | overallTimeout (seconds : Float)
  /-- The share of repositories is no percentage. -/
  | percentage (found : Int)
  /-- The largest size of a diff is not positive. -/
  | maxDiffLines (found : Int)
  /-- The days to look back are not positive. -/
  | lookbackDays (found : Int)
  /-- The number of commits to look at is not positive. -/
  | maxResults (found : Int)
  /-- The thresholds do not ascend between nothing and certainty. -/
  | thresholds (found : Thresholds Float)
  /-- The message of a check has an integer that is too long to be written. -/
  | unwritable

variable {Foreign : Type} [Scalar Foreign]

omit [Scalar Foreign] in
/-- The family of a fault. -/
def Fault.family : Fault Foreign → Family
  | .value cause => cause.family
  | _ => .value

/-- Whether the message of a fault can be written. -/
def Fault.isWritable : Fault Foreign → Bool
  | .strategiesNoList found => found.isWritable
  | .strategiesNoNames found => (Value.list found).isWritable
  | .percentage found => Text.isWritable found
  | .maxDiffLines found => Text.isWritable found
  | .lookbackDays found => Text.isWritable found
  | .maxResults found => Text.isWritable found
  | _ => true

/-- The message of a fault. -/
def Fault.message : Fault Foreign → Text
  | .value cause => cause.message
  | .unwritable => Text.tooLongToWrite
  | .strategiesNoList found =>
      "context.strategies must be a list of strategy names, got ".toList ++ found.shown
  | .strategiesNoNames found =>
      "context.strategies must be a list of strategy names, got ".toList ++
        (Value.list found).shown
  | .strategyTimeout seconds =>
      "context.strategy_timeout_seconds must be positive, got ".toList ++ Number.text seconds
  | .overallTimeout seconds =>
      "context.overall_timeout_seconds must be positive, got ".toList ++ Number.text seconds
  | .percentage found =>
      "rollout.percentage must be within 0-100, got ".toList ++ Text.ofInteger found
  | .maxDiffLines found =>
      "rollout.max_diff_lines must be positive, got ".toList ++ Text.ofInteger found
  | .lookbackDays found =>
      "history.lookback_days must be positive, got ".toList ++ Text.ofInteger found
  | .maxResults found =>
      "history.max_results must be positive, got ".toList ++ Text.ofInteger found
  | .thresholds found =>
      "history thresholds must satisfy 0 <= medium_threshold <= high_threshold <= 1, ".toList ++
        "got medium=".toList ++ Number.text found.medium ++ " high=".toList ++
        Number.text found.high

/-- The entries of a section that may be left out. -/
def sectionOf (name : String) (entries : Value.Entries Foreign) :
    Except (Fault Foreign) (Value.Entries Foreign) :=
  (Value.sectionEntries (Value.field? name.toList entries)).mapError .value

/-- The integer under a key. -/
def integerField (name : String) (standard : Int) (entries : Value.Entries Foreign) :
    Except (Fault Foreign) Int :=
  match Value.field? name.toList entries with
  | none => .ok standard
  | some value => value.toInteger.mapError .value

/-- The decimal under a key. -/
def decimalField (name : String) (standard : Float) (entries : Value.Entries Foreign) :
    Except (Fault Foreign) Float :=
  match Value.field? name.toList entries with
  | none => .ok standard
  | some value => value.toDecimal.mapError .value

/-- The decimal under a key that may say nothing. -/
def optionalDecimalField (name : String) (entries : Value.Entries Foreign) :
    Except (Fault Foreign) (Option Float) :=
  match Value.field? name.toList entries with
  | none => .ok none
  | some .null => .ok none
  | some value => (value.toDecimal.map some).mapError .value

/-- The truth value under a key: whether what stands there counts as something. -/
def flagField (name : String) (standard : Bool) (entries : Value.Entries Foreign) : Bool :=
  ((Value.field? name.toList entries).map (·.isTruthy)).getD standard

/-- Go on only if a condition holds, and only if the message of the fault can be written. -/
def require (condition : Bool) (fault : Fault Foreign) : Except (Fault Foreign) Unit :=
  if !fault.isWritable then .error .unwritable
  else if condition then .ok ()
  else .error fault

end Settings

open Settings

variable {Foreign : Type} [Scalar Foreign]

/-- Check settings of the history. -/
def HistorySettings.check (settings : HistorySettings) :
    Except (Fault Foreign) HistorySettings := do
  require (0 < settings.lookbackDays) (.lookbackDays settings.lookbackDays)
  require (0 < settings.maxResults) (.maxResults settings.maxResults)
  let thresholds := settings.thresholds
  require
    (Number.atMost 0 thresholds.medium && Number.atMost thresholds.medium thresholds.high &&
      Number.atMost thresholds.high 1)
    (.thresholds thresholds)
  pure settings

/-- Read settings of the history from the entries of their section. -/
def HistorySettings.ofEntries (entries : Value.Entries Foreign) :
    Except (Fault Foreign) HistorySettings := do
  let standard : HistorySettings := {}
  let lookbackDays ← integerField "lookback_days" standard.lookbackDays entries
  let maxResults ← integerField "max_results" standard.maxResults entries
  let high ← decimalField "high_threshold" standard.thresholds.high entries
  let medium ← decimalField "medium_threshold" standard.thresholds.medium entries
  check { lookbackDays, maxResults, thresholds := { high, medium } }

/-- Read settings of the history. -/
def HistorySettings.ofValue (value : Value Foreign) : Except (Fault Foreign) HistorySettings := do
  HistorySettings.ofEntries (← (Value.sectionEntries (some value)).mapError .value)

/-- Check a rollout. -/
def Rollout.check (rollout : Rollout) : Except (Fault Foreign) Rollout := do
  require (0 ≤ rollout.percentage && rollout.percentage ≤ 100) (.percentage rollout.percentage)
  require (0 < rollout.maxDiffLines) (.maxDiffLines rollout.maxDiffLines)
  pure rollout

/-- Read a rollout from the entries of its section. -/
def Rollout.ofEntries (entries : Value.Entries Foreign) : Except (Fault Foreign) Rollout := do
  let standard : Rollout := {}
  let percentage ← integerField "percentage" standard.percentage entries
  let skipsLargeDiffs := flagField "skip_large_diffs" standard.skipsLargeDiffs entries
  let maxDiffLines ← integerField "max_diff_lines" standard.maxDiffLines entries
  check { percentage, skipsLargeDiffs, maxDiffLines }

/-- The value under the key of the strategies as a list; what counts as nothing is empty. -/
def Settings.strategyItems (entries : Value.Entries Foreign) :
    Except (Fault Foreign) (List (Value Foreign)) :=
  match Value.field? "strategies".toList entries with
  | none => .ok (({} : ContextSettings).strategies.map Value.text)
  | some value =>
      if value.isTruthy then do
        require value.items?.isSome (.strategiesNoList value)
        pure (value.items?.getD [])
      else .ok []

/-- The names among values, when all of them are texts. -/
def Settings.names? (items : List (Value Foreign)) : Option (List Text) :=
  items.mapM fun item =>
    match item with
    | .text name => some name
    | _ => none

/-- Read settings from the entries of their section. -/
def ContextSettings.ofEntries (entries : Value.Entries Foreign) :
    Except (Fault Foreign) ContextSettings := do
  let standard : ContextSettings := {}
  let items ← strategyItems entries
  let isEnabled := flagField "enabled" standard.isEnabled entries
  let strategyTimeout ← decimalField "strategy_timeout_seconds" standard.strategyTimeout entries
  let overallTimeout ← optionalDecimalField "overall_timeout_seconds" entries
  let rollout ← sectionOf "rollout" entries >>= Rollout.ofEntries
  let history ← sectionOf "history" entries >>= HistorySettings.ofEntries
  require (Number.below 0 strategyTimeout) (.strategyTimeout strategyTimeout)
  if let some seconds := overallTimeout then
    require (Number.below 0 seconds) (.overallTimeout seconds)
  require (names? items).isSome (.strategiesNoNames items)
  let strategies := (names? items).getD []
  pure { isEnabled, strategies, strategyTimeout, overallTimeout, rollout, history }

/-- Read settings from a document, in which they form a section. -/
def ContextSettings.ofDocument (document : Value Foreign) :
    Except (Fault Foreign) ContextSettings := do
  let entries ← document.entries.mapError Fault.value
  sectionOf "context" entries >>= ContextSettings.ofEntries

end Marginalia
