import Marginalia.Text.Basic

/-!
# Families of failures

Every failure of the library is a value of the type of its own capability, with a cause and a
message.  Callers that only need to know what sort of failure it is ask for its family.
-/

namespace Marginalia

/-- What sort of failure a failure is. -/
inductive Family where
  /-- A value outside what is accepted. -/
  | value
  /-- A value of a kind that the operation is not made for. -/
  | kind
  /-- A value without the member that was asked for. -/
  | member
  /-- A number or date too large for its type. -/
  | overflow
  /-- A diff that cannot be read. -/
  | diff
  /-- A document that is no well-formed configuration. -/
  | document
  /-- A collaborator, or the machine underneath, that gave up with a message of its own. -/
  | collaborator
  /-- A collaborator that did not answer in time. -/
  | timeout
  /-- A version control command that ended with a failure. -/
  | command
  /-- A hosting service that refused a request. -/
  | service
deriving DecidableEq, Repr

/-- A failure of which no more is known than its family and its message. -/
structure Refusal where
  /-- What sort of failure it is. -/
  family : Family
  /-- What it says. -/
  message : Text
deriving DecidableEq

end Marginalia
