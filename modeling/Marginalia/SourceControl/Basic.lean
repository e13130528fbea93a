import Marginalia.Context.Failure
import Marginalia.Context.History
import Marginalia.Context.Work

/-!
# Source controls

What the retrieval of context asks of a repository: its files, the commits that touched a file, and
the content of a file, all of one state of the repository.
-/

namespace Marginalia

/-- What can be asked of a repository. -/
structure SourceControl (Call : Type) where
  /-- The files of the repository. -/
  files : Work Call Failure (List Text)
  /-- The commits that a question is about, the newest first. -/
  commits : HistoryQuestion → Work Call Failure (List Commit)
  /-- The content of a file. -/
  content : Text → Work Call Failure Text

end Marginalia
