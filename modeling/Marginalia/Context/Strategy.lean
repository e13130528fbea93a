import Marginalia.Context.Neighbour
import Marginalia.SourceControl.Basic

/-!
# Strategies

A strategy is a way of looking for files that are related to a change.  It has a name, by which it
is allowed, and a priority, by which strategies are ordered.  Two are built in: one looks at imports
and names in the list of files, the other one at the history of every changed file.
-/

namespace Marginalia

/-- A change, and where it comes from. -/
structure Bundle where
  /-- What is changed. -/
  diff : Diff
  /-- The repository that is changed. -/
  repository : Text := []
deriving DecidableEq, Repr

/-- A way of looking for related files. -/
structure Strategy (Call : Type) where
  /-- The name. -/
  name : Text
  /-- The lower, the earlier. -/
  priority : Int
  /-- What looking finds; several candidates may be for one file. -/
  look : Bundle → Work Call Failure (List (Match Float))

namespace Strategy

variable {Call : Type}

/-- What a strategy finds, reduced to one match for each file. -/
def retrieve (strategy : Strategy Call) (bundle : Bundle) :
    Work Call Failure (Retrieval Float) := do
  let candidates ← strategy.look bundle
  Work.ofExcept .figures (Retrieval.ofCandidates strategy.name candidates)

/-- A strategy in writing, where `form` is the word for its form. -/
def describe (form : Text) (strategy : Strategy Call) : Text :=
  form ++ "(name=".toList ++ Text.quoted strategy.name ++ ", priority=".toList ++
    Text.ofInteger strategy.priority ++ [')']

/-- The paths by which readers recognise the changed files. -/
def changedPaths (diff : Diff) : List Text :=
  (diff.files.filterMap (·.effectivePath)).filter (!·.isEmpty)

/-- What imports, directories and names say about a list of files. -/
def relatedByName (diff : Diff) (paths : List Text) : Except Failure (List (Match Float)) := do
  let references ← (diff.references paths).mapError .reference
  let siblings ← (Neighbour.siblings (changedPaths diff) paths).mapError .noMatch
  let patterns ← (Neighbour.patterns (changedPaths diff) paths).mapError .noMatch
  pure (references ++ siblings ++ patterns)

/-- The strategy that looks at imports, directories and names. -/
def byName (source : SourceControl Call) : Strategy Call where
  name := "metadata-based".toList
  priority := 10
  look bundle := do
    let paths ← source.files
    Work.ofExcept id (relatedByName bundle.diff paths)

/-- Ask the history for the commits that touched a file, and analyze them against thresholds on any
scale. -/
def analysis {Amount : Type} [Scale Amount] (source : SourceControl Call)
    (settings : HistorySettings) (thresholds : Thresholds Amount) (now : Moment)
    (repository path : Text) :
    Work Call Failure (Except (Coupling.Fault Amount) (CoChange Amount)) := do
  let question ← Work.ofExcept .lookback (settings.question now repository path)
  let commits ← source.commits question
  pure (CoChange.ofCommits thresholds path (commits.map (·.files)))

/-- What the history says about a file. -/
def coupledWith (source : SourceControl Call) (settings : HistorySettings) (now : Moment)
    (repository path : Text) : Work Call Failure (List (Match Float)) := do
  let found ← analysis source settings settings.thresholds now repository path
  let coChange ← Work.ofExcept .coupling found
  Work.ofExcept .noMatch coChange.toMatches

/-- The paths of the files that are still there after a change; nothing is coupled with the
others. -/
def survivingPaths (diff : Diff) : List Text :=
  diff.changedPaths.filter (!·.isEmpty)

/-- What the history says about several files, one after the other. -/
def coupledWithAll (source : SourceControl Call) (settings : HistorySettings) (now : Moment)
    (repository : Text) : List Text → Work Call Failure (List (Match Float))
  | [] => pure []
  | path :: paths => do
      let found ← coupledWith source settings now repository path
      let more ← coupledWithAll source settings now repository paths
      pure (found ++ more)

/-- The strategy that looks at the history. -/
def byHistory (source : SourceControl Call) (settings : HistorySettings) (now : Moment) :
    Strategy Call where
  name := "git-history".toList
  priority := 20
  look bundle :=
    coupledWithAll source settings now bundle.repository (survivingPaths bundle.diff)

end Strategy

end Marginalia
