import Marginalia.Diff.Position
import Marginalia.Notice
import Marginalia.Review.Basic

/-!
# Placing findings

A review service refuses a whole review when one of its remarks stands on a line that the diff does
not show.  Findings are therefore divided: those whose line can carry a remark go inline, the others
into a fallback text, each with a diagnostic.  Nothing is dropped and the order is kept.
-/

namespace Marginalia

/-- Why an issue cannot go inline, if it cannot. -/
def Issue.misplacement? (diff : Option Diff) (issue : Issue) : Option Misplacement :=
  Diff.misplacement? diff (some issue.file) issue.line

/-- Why a note cannot go inline, if it cannot. -/
def Note.misplacement? (diff : Option Diff) (note : Note) : Option Misplacement :=
  Diff.misplacement? diff (some note.file) note.line

/-- The findings of a review, divided. -/
structure Placement where
  /-- What goes inline, with the summary. -/
  inline : Review
  /-- What goes into the fallback text. -/
  fallback : Review
  /-- Why each finding of the fallback stands there. -/
  diagnostics : List Text

/-- What a diagnostic on a file adds on the reason.  A message that ends in the range of the file
needs no further word, since the diagnostic has said so. -/
def Misplacement.remark (file : Text) (problem : Misplacement) : Text :=
  if ("is outside every hunk of ".toList ++ file).isSuffixOf problem.message then []
  else " (".toList ++ problem.message ++ [')']

/-- A line number as diagnostics give it. -/
def lineText (line : Option Int) : Text :=
  (line.map Text.ofInteger).getD "None".toList

/-- A sentence on a finding that cannot go inline. -/
def diagnostic (subject file : Text) (line : Option Int) (problem : Misplacement) : Text :=
  subject ++ " at ".toList ++ file ++ ':' :: lineText line ++
    " is outside diff range".toList ++ problem.remark file

/-- The diagnostic of an issue that cannot go inline. -/
def Issue.diagnostic? (diff : Option Diff) (issue : Issue) : Option Text :=
  (issue.misplacement? diff).map <|
    diagnostic ("Issue '".toList ++ issue.title ++ ['\x27']) issue.file issue.line

/-- The diagnostic of a note that cannot go inline. -/
def Note.diagnostic? (diff : Option Diff) (note : Note) : Option Text :=
  (note.misplacement? diff).map (diagnostic "Note".toList note.file note.line)

namespace Placement

/-- The number of findings, inline and not. -/
def total (placement : Placement) : Nat :=
  placement.inline.itemCount + placement.fallback.itemCount

/-- What there is to tell about a placement. -/
def notices (placement : Placement) : List Notice :=
  if placement.diagnostics.isEmpty then []
  else
    [{ level := .info
       message :=
        Text.ofInteger placement.diagnostics.length ++
          " finding(s) routed to fallback".toList }]

end Placement

/-- Divide the findings of a review by whether their lines can carry a remark. -/
def Review.place (diff : Option Diff) (review : Review) : Placement where
  inline :=
    { summary := review.summary
      issues := review.issues.filter fun issue => (issue.misplacement? diff).isNone
      notes := review.notes.filter fun note => (note.misplacement? diff).isNone }
  fallback :=
    { issues := review.issues.filter fun issue => (issue.misplacement? diff).isSome
      notes := review.notes.filter fun note => (note.misplacement? diff).isSome }
  diagnostics :=
    review.issues.filterMap (Issue.diagnostic? diff) ++
      review.notes.filterMap (Note.diagnostic? diff)

theorem length_isNone_add_length_isSome {Item Problem : Type} (problem? : Item → Option Problem)
    (items : List Item) :
    (items.filter fun item => (problem? item).isNone).length +
      (items.filter fun item => (problem? item).isSome).length = items.length := by
  induction items with
  | nil => rfl
  | cons item items induct =>
      cases found : problem? item <;> simp [found] <;> omega

/-- Placing drops no finding and adds none. -/
@[simp]
theorem Review.total_place (diff : Option Diff) (review : Review) :
    (review.place diff).total = review.itemCount := by
  have issues := length_isNone_add_length_isSome (Issue.misplacement? diff) review.issues
  have notes := length_isNone_add_length_isSome (Note.misplacement? diff) review.notes
  simp only [Placement.total, place, itemCount]
  omega

end Marginalia
