import Marginalia.Context.Coupling
import Marginalia.Context.Reference
import Marginalia.Context.Retrieval
import Marginalia.Calendar.Lookback
import Marginalia.Missing
import Marginalia.SourceControl.Commit
import Marginalia.SourceControl.Failure

/-!
# Failures of a retrieval

A retrieval fails with whatever its first failing part fails with.
-/

namespace Marginalia

/-- Why a retrieval failed. -/
inductive Failure where
  /-- Something is missing. -/
  | missing (missing : Missing)
  /-- References could not be listed. -/
  | reference (cause : Reference.Fault Float)
  /-- Something is no match. -/
  | noMatch (cause : Match.Fault Float)
  /-- Something is no coupling. -/
  | coupling (cause : Coupling.Fault Float)
  /-- Figures do not fit. -/
  | figures (cause : Figures.Fault)
  /-- The history cannot be asked so far back. -/
  | lookback (cause : Moment.Overflow)
  /-- Something is no commit. -/
  | commit (cause : Commit.Fault)
  /-- A collaborator failed with a message of its own. -/
  | collaborator (message : Text)
  /-- A command ended with a failure. -/
  | command (failure : CommandFailure)
  /-- A hosting service refused a request. -/
  | service (failure : ServiceFailure)
  /-- The time ran out. -/
  | timeout

namespace Failure

/-- The message of a failure.  That the time ran out goes without saying. -/
def message : Failure → Text
  | .missing input => input.message
  | .reference cause => cause.message
  | .noMatch cause => cause.message
  | .coupling cause => cause.message
  | .figures cause => cause.message
  | .lookback cause => cause.message
  | .commit cause => cause.message
  | .collaborator message => message
  | .command failure => failure.message
  | .service failure => failure.message
  | .timeout => []

/-- The family of a failure. -/
def family : Failure → Family
  | .missing input => input.family
  | .reference cause => cause.family
  | .noMatch cause => cause.family
  | .coupling cause => cause.family
  | .figures cause => cause.family
  | .lookback cause => cause.family
  | .commit cause => cause.family
  | .collaborator _ => .collaborator
  | .command _ => .command
  | .service _ => .service
  | .timeout => .timeout

end Failure

end Marginalia
