import Marginalia.Missing
import Marginalia.Review.Basic

/-!
# Merging reviews

The reviews of the chunks of a diff are merged into one.  Findings keep their order; summaries that
say something are joined by a space as they were written, and only the joined text is trimmed.
-/

namespace Marginalia

namespace Review

/-- The joined summaries; nothing when none of them says anything. -/
def joinSummaries (summaries : List Text) : Value :=
  let joined := Text.trim (Text.glue [' '] summaries)
  if joined.isEmpty then .null else .text joined

/-- One review out of several. -/
def merge (parts : List (Option Review)) : Except Value.Fault Review := do
  let present := parts.filterMap id
  let summaries ← present.mapM spokenSummary
  pure
    { summary := joinSummaries (summaries.filterMap id)
      issues := present.flatMap (·.issues)
      notes := present.flatMap (·.notes) }

end Review

end Marginalia
