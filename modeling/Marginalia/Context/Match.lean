import Marginalia.Context.Reason
import Marginalia.Family
import Marginalia.Table
import Marginalia.Text.Blank

/-!
# Matches

A match is a file that is related to a change, with the reason, the confidence and the evidence.
Several reasons may speak for one file; of its matches the most confident one is kept, the first of
equally confident ones, in the place where the file first came up.
-/

namespace Marginalia

variable {Amount : Type}

/-- A file that is related to a change. -/
structure Match (Amount : Type) where
  /-- The file. -/
  path : Text
  /-- Why it is related. -/
  reason : Reason
  /-- How sure that is. -/
  confidence : Amount
  /-- What the reason was found in. -/
  evidence : Text := []

namespace Match

/-- Why something is no match. -/
inductive Fault (Amount : Type) where
  /-- The path is blank. -/
  | blankPath
  /-- The confidence is no share. -/
  | confidenceOutOfRange (confidence : Amount)

/-- The message of a fault. -/
def Fault.message [Scale Amount] : Fault Amount → Text
  | .blankPath => "file_path must not be blank".toList
  | .confidenceOutOfRange confidence =>
      "confidence must be between 0.0 and 1.0, got ".toList ++ Scale.text confidence

/-- The family of a fault. -/
def Fault.family (_ : Fault Amount) : Family := .value

variable [Scale Amount]

/-- A match, when its path says something and its confidence is a share. -/
def make (path : Text) (reason : Reason) (confidence : Amount) (evidence : Text) :
    Except (Fault Amount) (Match Amount) :=
  if Text.isBlank path then .error .blankPath
  else if Scale.isShare confidence then .ok { path, reason, confidence, evidence }
  else .error (.confidenceOutOfRange confidence)

/-- A match that is as sure as its reason is by itself. -/
def ofReason (path : Text) (reason : Reason) (evidence : Text) :
    Except (Fault Amount) (Match Amount) :=
  make path reason reason.baseConfidence evidence

/-- Whether a match is sure enough to be pointed out. -/
def isHigh (candidate : Match Amount) : Bool :=
  Scale.atMost (Scale.ratio 75 100) candidate.confidence

/-- Keep a match: under a new path, or when it is more confident than the one that is there. -/
def keep (kept : Table Text (Match Amount)) (candidate : Match Amount) :
    Table Text (Match Amount) :=
  match Table.get? candidate.path kept with
  | none => Table.put candidate.path candidate kept
  | some present =>
      if Scale.below present.confidence candidate.confidence then
        Table.put candidate.path candidate kept
      else kept

/-- One match for each path. -/
def distinct (candidates : List (Match Amount)) : List (Match Amount) :=
  (candidates.foldl keep []).map (·.2)

end Match

end Marginalia
