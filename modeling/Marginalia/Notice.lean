import Marginalia.Text.Basic

/-!
# Notices

What an operation has to tell besides its result.
-/

namespace Marginalia

/-- How much attention a notice asks for. -/
inductive Notice.Level where
  /-- It is good to know. -/
  | info
  /-- Something may be wrong. -/
  | warning
deriving DecidableEq, Repr

/-- Something told besides a result. -/
structure Notice where
  /-- How much attention it asks for. -/
  level : Notice.Level
  /-- What it says. -/
  message : Text
deriving DecidableEq

end Marginalia
