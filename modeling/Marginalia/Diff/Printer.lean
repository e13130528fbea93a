import Marginalia.Diff.Basic

/-!
# Printing diffs

A diff is printed line by line: for each file the line of its old side, the line of its new side,
and then each hunk with its header before its body.
-/

namespace Marginalia

/-- A side of a change as it stands in a diff. -/
def sidePath (mark : Text) (path : Option Text) : Text :=
  if isNoFile path then devNull else mark ++ path.getD []

/-- The lines of a hunk. -/
def Hunk.rendered (hunk : Hunk) : List Text :=
  hunk.header :: hunk.lines.map BodyLine.render

/-- The lines of a changed file. -/
def FileChange.rendered (file : FileChange) : List Text :=
  ("--- ".toList ++ sidePath ['a', '/'] file.oldPath) ::
    ("+++ ".toList ++ sidePath ['b', '/'] file.newPath) ::
    file.hunks.flatMap Hunk.rendered

namespace Diff

/-- The lines of a diff. -/
def rendered (diff : Diff) : List Text :=
  diff.files.flatMap FileChange.rendered

/-- The diff as a text. -/
def print (diff : Diff) : Text :=
  Text.unlines diff.rendered

end Diff

end Marginalia
