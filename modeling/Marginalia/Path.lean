import Marginalia.Family
import Marginalia.Text.Quoted
import Marginalia.Text.Basic

/-!
# Paths

A path has a root of no, one or two slashes and a list of parts, none of which is empty or a single
dot when it was read from a text.  Steps to the parent directory are kept as they are; only
normalizing a text resolves them, without asking any file system.
-/

namespace Marginalia

/-- A path of a file. -/
structure Path where
  /-- The number of slashes it begins with: none, one or two. -/
  slashes : Nat := 0
  /-- The parts between slashes. -/
  parts : List Text := []
deriving DecidableEq, Repr

namespace Path

/-- The number of slashes of the root of a text: two when it begins with exactly two. -/
def rootOf (text : Text) : Nat :=
  match (text.takeWhile (· = '/')).length with
  | 0 => 0
  | 2 => 2
  | _ => 1

/-- Whether a part names something: empty parts and single dots do not. -/
def isPart (part : Text) : Bool :=
  !part.isEmpty && part ≠ ['.']

/-- Read a path. -/
def ofText (text : Text) : Path where
  slashes := rootOf text
  parts := (Text.pieces '/' text).filter isPart

/-- The path in writing; a path without root and parts is a single dot. -/
def text (path : Path) : Text :=
  let body := List.replicate path.slashes '/' ++ Text.glue ['/'] path.parts
  if body.isEmpty then ['.'] else body

/-- The last part; nothing when there is none. -/
def name (path : Path) : Text :=
  path.parts.getLastD []

/-- The path without its last part. -/
def parent (path : Path) : Path :=
  { path with parts := path.parts.dropLast }

/-- Cut a name before its last dot, unless that dot is its first or its last character. -/
def cutSuffix (name : Text) : Text × Text :=
  let suffix := Text.afterLast '.' name
  let stem := name.take (name.length - suffix.length - 1)
  if stem.isEmpty || suffix.isEmpty then (name, []) else (stem, '.' :: suffix)

/-- The last part without its suffix. -/
def stem (path : Path) : Text := (cutSuffix path.name).1

/-- The suffix of the last part, with its dot. -/
def suffix (path : Path) : Text := (cutSuffix path.name).2

/-- A path without a last part was asked to lose its suffix. -/
structure Nameless where
  /-- The path. -/
  path : Path
deriving DecidableEq, Repr

/-- The message about a path without a last part. -/
def Nameless.message (fault : Nameless) : Text :=
  "PurePosixPath(".toList ++ Text.quoted fault.path.text ++ ") has an empty name".toList

/-- The family of a path without a last part. -/
def Nameless.family (_ : Nameless) : Family := .value

/-- The path without the suffix of its last part. -/
def withoutSuffix (path : Path) : Except Nameless Path :=
  if path.name.isEmpty then .error ⟨path⟩
  else .ok { path with parts := path.parts.dropLast ++ [path.stem] }

/-- Append a path in writing to a directory in writing. -/
def join (directory path : Text) : Text :=
  if path.head? = some '/' then path
  else if directory.isEmpty || directory.getLast? = some '/' then directory ++ path
  else directory ++ '/' :: path

/-- Take a part onto the reversed parts that are already resolved.  A step to the parent takes the
last part away; above a root there is nothing, and above a relative path the step is kept. -/
def resolvePart (isRooted : Bool) (resolved : List Text) (part : Text) : List Text :=
  if part = ['.', '.'] then
    match resolved with
    | [] => if isRooted then [] else [part]
    | last :: rest => if last = ['.', '.'] then part :: last :: rest else rest
  else part :: resolved

/-- Resolve the steps of a path in writing. -/
def normalize (text : Text) : Text :=
  let path := ofText text
  let resolved := path.parts.foldl (resolvePart (0 < path.slashes)) []
  { path with parts := resolved.reverse : Path }.text

end Path

end Marginalia
