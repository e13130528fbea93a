import Marginalia.Text.Blank

/-!
# Tokens

A hosting service is opened with a token: the one that the environment holds, or else the one that
the service's own command prints for a session that is logged in.
-/

namespace Marginalia

/-- What becomes of asking the service's command for a token. -/
inductive TokenReply where
  /-- There is no such command. -/
  | missing
  /-- The command did not end in time. -/
  | timeout
  /-- The command ended with a status and an output. -/
  | ended (status : Int) (output : Text)
deriving DecidableEq, Repr

/-- The token that the service's command prints. -/
def TokenReply.token? : TokenReply → Option Text
  | .ended 0 output => if Text.isBlank output then none else some (Text.trim output)
  | _ => none

/-- The command that prints a token. -/
def tokenCommand : List Text :=
  ["gh".toList, "auth".toList, "token".toList]

/-- The token, and the commands that were run to find it. -/
def resolveToken (environment : Option Text) (reply : TokenReply) :
    Option Text × List (List Text) :=
  match environment.filter (!·.isEmpty) with
  | some token => (some token, [])
  | none => (reply.token?, [tokenCommand])

end Marginalia
