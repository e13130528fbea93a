import Marginalia.Context.Scale

/-!
# Reasons

Why a file of the repository is taken to be related to a change, and how much that reason counts by
itself.
-/

namespace Marginalia

/-- Why a file is related to a change. -/
inductive Reason where
  /-- A new line imports it. -/
  | directImport
  /-- A new line names a type after it. -/
  | typeReference
  /-- One of both is the test of the other. -/
  | pathPattern
  /-- It usually changes together with a changed file. -/
  | coChangeHigh
  /-- It stands in the directory of a changed file. -/
  | sibling
  /-- It plays another part for the same thing. -/
  | relatedLayer
  /-- It sometimes changes together with a changed file. -/
  | coChangeMedium
deriving DecidableEq, Repr

namespace Reason

/-- All reasons, the strongest first. -/
def all : List Reason :=
  [.directImport, .typeReference, .pathPattern, .coChangeHigh, .sibling, .relatedLayer,
    .coChangeMedium]

/-- A reason in words. -/
def description : Reason → Text
  | .directImport => "direct import".toList
  | .typeReference => "type reference".toList
  | .pathPattern => "test/implementation pair".toList
  | .coChangeHigh => "frequently co-changed".toList
  | .sibling => "same directory".toList
  | .relatedLayer => "related architectural layer".toList
  | .coChangeMedium => "sometimes co-changed".toList

/-- How much a reason counts by itself, in hundredths. -/
def weight : Reason → Nat
  | .directImport => 95
  | .typeReference => 90
  | .pathPattern => 85
  | .coChangeHigh => 80
  | .sibling => 70
  | .relatedLayer => 70
  | .coChangeMedium => 65

/-- The confidence that a reason gives by itself. -/
def baseConfidence {Amount : Type} [Scale Amount] (reason : Reason) : Amount :=
  Scale.ratio reason.weight 100

end Reason

end Marginalia
