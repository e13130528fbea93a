import Marginalia.Context.Match
import Marginalia.Text.Numeral

/-!
# Couplings

Files that keep being changed in the same commits are coupled.  How often a file changed together
with a target is counted over the commits that touched the target, and measured against the file
that did so most often.  Below the lower threshold a coupling is dropped; from the upper one on it
counts as frequent.
-/

namespace Marginalia

variable {Amount : Type}

/-- Where a coupling begins to count. -/
structure Thresholds (Amount : Type) where
  /-- From here on it is frequent. -/
  high : Amount
  /-- Below this it is dropped. -/
  medium : Amount

/-- The thresholds where none are asked for. -/
def Thresholds.standard [Scale Amount] : Thresholds Amount where
  high := Scale.ratio 70 100
  medium := Scale.ratio 40 100

/-- A file that changes together with a target. -/
structure Coupling (Amount : Type) where
  /-- The file. -/
  path : Text
  /-- In how many commits it changed together with the target. -/
  count : Int
  /-- That number, measured against the largest one. -/
  frequency : Amount
  /-- Where couplings begin to count. -/
  thresholds : Thresholds Amount

namespace Coupling

/-- Why something is no coupling. -/
inductive Fault (Amount : Type) where
  /-- The path is blank. -/
  | blankPath
  /-- The count is negative. -/
  | negativeCount
  /-- The frequency is no share. -/
  | frequencyOutOfRange (frequency : Amount)

variable [Scale Amount]

/-- The message of a fault. -/
def Fault.message : Fault Amount → Text
  | .blankPath => "file_path must not be blank".toList
  | .negativeCount => "co_change_count must not be negative".toList
  | .frequencyOutOfRange frequency =>
      "normalized_frequency must be between 0.0 and 1.0, got ".toList ++ Scale.text frequency

/-- The family of a fault. -/
def Fault.family (_ : Fault Amount) : Family := .value

/-- A coupling, when its path says something and its figures are in range. -/
def make (path : Text) (count : Int) (frequency : Amount) (thresholds : Thresholds Amount) :
    Except (Fault Amount) (Coupling Amount) :=
  if Text.isBlank path then .error .blankPath
  else if count < 0 then .error .negativeCount
  else if Scale.isShare frequency then .ok { path, count, frequency, thresholds }
  else .error (.frequencyOutOfRange frequency)

/-- Whether the coupling counts at all. -/
def counts (coupling : Coupling Amount) : Bool :=
  Scale.atMost coupling.thresholds.medium coupling.frequency

/-- Whether the coupling is frequent. -/
def isHigh (coupling : Coupling Amount) : Bool :=
  Scale.atMost coupling.thresholds.high coupling.frequency

/-- Whether the coupling counts without being frequent. -/
def isMedium (coupling : Coupling Amount) : Bool :=
  coupling.counts && Scale.below coupling.frequency coupling.thresholds.high

/-- The reason that the coupling gives. -/
def reason (coupling : Coupling Amount) : Reason :=
  if coupling.isHigh then .coChangeHigh else .coChangeMedium

/-- How sure the coupling makes. -/
def confidence (coupling : Coupling Amount) : Amount :=
  Scale.times coupling.reason.baseConfidence coupling.frequency

/-- The coupling in words. -/
def evidence (coupling : Coupling Amount) : Text :=
  "co-changed in ".toList ++ Text.ofInteger coupling.count ++ " commits".toList

/-- The match that the coupling gives. -/
def toMatch (coupling : Coupling Amount) : Except (Match.Fault Amount) (Match Amount) :=
  Match.make coupling.path coupling.reason coupling.confidence coupling.evidence

end Coupling

/-- How often every other file changed together with the target, given the files that each commit
changed. -/
def partnerCounts (target : Text) (commits : List (List Text)) : Table Text Nat :=
  Table.tally <|
    (commits.filter (·.contains target)).flatMap fun paths => paths.filter (· ≠ target)

/-- The largest count of a table; zero when there is none. -/
def largestCount (counts : Table Text Nat) : Nat :=
  (counts.map (·.2)).foldl max 0

/-- The counts in descending order; equal counts keep their order. -/
def descending (counts : Table Text Nat) : Table Text Nat :=
  counts.mergeSort fun left right => right.2 ≤ left.2

/-- The couplings that counts give, the most frequent first. -/
def couplings [Scale Amount] (thresholds : Thresholds Amount) (counts : Table Text Nat) :
    Except (Coupling.Fault Amount) (List (Coupling Amount)) := do
  let all ← (descending counts).mapM fun (path, count) =>
    Coupling.make path count (Scale.ratio count (largestCount counts)) thresholds
  pure (all.filter Coupling.counts)

/-- What the history says about one file. -/
structure CoChange (Amount : Type) where
  /-- The file that was asked about. -/
  target : Text
  /-- The couplings that count, the most frequent first. -/
  couplings : List (Coupling Amount)
  /-- How often each file changed together with the target. -/
  counts : Table Text Nat

namespace CoChange

variable [Scale Amount]

/-- Analyze the commits that a history gives for a file. -/
def ofCommits (thresholds : Thresholds Amount) (target : Text) (commits : List (List Text)) :
    Except (Coupling.Fault Amount) (CoChange Amount) :=
  let counts := partnerCounts target commits
  (Marginalia.couplings thresholds counts).map fun couplings => { target, couplings, counts }

/-- The largest of the counts. -/
def largest (analysis : CoChange Amount) : Nat :=
  largestCount analysis.counts

/-- How often a file changed together with the target. -/
def countOf (analysis : CoChange Amount) (path : Text) : Nat :=
  (Table.get? path analysis.counts).getD 0

/-- The frequent couplings. -/
def frequent (analysis : CoChange Amount) : List (Coupling Amount) :=
  analysis.couplings.filter Coupling.isHigh

/-- The couplings that count without being frequent. -/
def occasional (analysis : CoChange Amount) : List (Coupling Amount) :=
  analysis.couplings.filter Coupling.isMedium

/-- The matches that the couplings give. -/
def toMatches (analysis : CoChange Amount) :
    Except (Match.Fault Amount) (List (Match Amount)) :=
  analysis.couplings.mapM Coupling.toMatch

end CoChange

end Marginalia
