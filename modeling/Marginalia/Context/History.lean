import Marginalia.Calendar.Lookback
import Marginalia.Settings.Basic

/-!
# Questions to the history

The history of a repository is asked for the commits that touched a file: not before a day in the
past, and not more than so many.
-/

namespace Marginalia

/-- What the history of a repository is asked for. -/
structure HistoryQuestion where
  /-- The repository. -/
  repository : Text
  /-- The file. -/
  path : Text
  /-- The earliest time. -/
  since : Moment
  /-- The largest number of commits. -/
  maxResults : Int
deriving DecidableEq, Repr

/-- The question that settings give rise to at a given time. -/
def HistorySettings.question (settings : HistorySettings) (now : Moment)
    (repository path : Text) : Except Moment.Overflow HistoryQuestion :=
  (now.back settings.lookbackDays).map fun since =>
    { repository, path, since, maxResults := settings.maxResults }

end Marginalia
