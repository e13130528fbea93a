import Marginalia.Context.Match
import Marginalia.Text.Numeral

/-!
# Retrievals

What a way of looking for related files has found: matches, and figures about them.  The figures of
several retrievals are added up, while their matches are reduced to one for each path.
-/

namespace Marginalia

variable {Amount : Type}

/-- Figures about the matches of a retrieval. -/
structure Figures where
  /-- Who looked for them. -/
  name : Text
  /-- The number of matches. -/
  total : Int
  /-- The number of matches that are sure enough to be pointed out. -/
  high : Int
  /-- How often each reason was given. -/
  reasons : Table Reason Nat := []

namespace Figures

/-- Why figures do not fit. -/
inductive Fault where
  /-- Nobody looked. -/
  | blankName
  /-- A count is negative. -/
  | negativeCount
  /-- More matches were pointed out than there are. -/
  | highExceedsTotal (high total : Int)

/-- The message of a fault. -/
def Fault.message : Fault → Text
  | .blankName => "strategy_name must not be blank".toList
  | .negativeCount => "candidate counts must not be negative".toList
  | .highExceedsTotal high total =>
      "high_confidence_count (".toList ++ Text.ofInteger high ++
        ") exceeds total_candidates (".toList ++ Text.ofInteger total ++ [')']

/-- The family of a fault. -/
def Fault.family (_ : Fault) : Family := .value

/-- Figures, when they fit. -/
def make (name : Text) (total high : Int) (reasons : Table Reason Nat) : Except Fault Figures :=
  if Text.isBlank name then .error .blankName
  else if total < 0 || high < 0 then .error .negativeCount
  else if total < high then .error (.highExceedsTotal high total)
  else .ok { name, total, high, reasons }

/-- The figures about given matches. -/
def ofMatches [Scale Amount] (name : Text) (found : List (Match Amount)) : Except Fault Figures :=
  make name found.length (found.countP Match.isHigh) (Table.tally (found.map (·.reason)))

/-- The share of matches that were pointed out, in percent. -/
def percentage (figures : Figures) : Float :=
  if figures.total = 0 then 0
  else Number.nearestQuotient figures.high.toNat figures.total.toNat * 100

end Figures

/-- Matches with figures about them. -/
structure Retrieval (Amount : Type) where
  /-- The matches. -/
  found : List (Match Amount)
  /-- The figures. -/
  figures : Figures

namespace Retrieval

variable [Scale Amount]

/-- The retrieval of candidates, reduced to one for each path. -/
def ofCandidates (name : Text) (candidates : List (Match Amount)) :
    Except Figures.Fault (Retrieval Amount) :=
  let found := Match.distinct candidates
  (Figures.ofMatches name found).map fun figures => { found, figures }

/-- The matches that are sure enough to be pointed out. -/
def highlights (retrieval : Retrieval Amount) : List (Match Amount) :=
  retrieval.found.filter Match.isHigh

/-- The matches that a reason was given for. -/
def foundFor (reason : Reason) (retrieval : Retrieval Amount) : List (Match Amount) :=
  retrieval.found.filter (·.reason = reason)

/-- One retrieval out of several. -/
def merge (retrievals : List (Retrieval Amount)) : Except Figures.Fault (Retrieval Amount) :=
  let figures := retrievals.map (·.figures)
  let reasons := figures.foldl (fun table figures => Table.addAll figures.reasons table) []
  let total := figures.foldl (fun total figures => total + figures.total) 0
  let high := figures.foldl (fun high figures => high + figures.high) 0
  (Figures.make (Text.glue ['+'] (figures.map (·.name))) total high reasons).map fun merged =>
    { found := Match.distinct (retrievals.flatMap (·.found)), figures := merged }

end Retrieval

end Marginalia
