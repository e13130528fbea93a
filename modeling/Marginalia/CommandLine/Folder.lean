import Marginalia.Path
import Marginalia.Table

/-!
# Folders

A command looks at the folder in which it runs.  What stands at a path is found by walking from part
to part: every part but the last has to be a folder, and a step to the parent leaves it again.
-/

namespace Marginalia

namespace CommandLine

/-- What stands at a path. -/
inductive Standing where
  /-- A file with its bytes. -/
  | file (bytes : List Nat)
  /-- A folder. -/
  | folder
  /-- Nothing. -/
  | nothing
deriving DecidableEq, Repr

/-- Whether there is a file. -/
def Standing.isFile : Standing → Bool
  | .file _ => true
  | _ => false

/-- Whether there is a folder. -/
def Standing.isFolder : Standing → Bool
  | .folder => true
  | _ => false

/-- The files of a folder, each under its path. -/
abbrev Folder := Table Text (List Nat)

namespace Folder

/-- Whether a part of a path leads nowhere: an empty one, or a single dot. -/
def staysHere (part : Text) : Bool :=
  part.isEmpty || part = ['.']

/-- What stands at the given parts, none of which leads to a parent. -/
def atParts (folder : Folder) (parts : List Text) : Standing :=
  match folder.find? fun (path, _) => (Path.ofText path).parts = parts with
  | some (_, bytes) => .file bytes
  | none =>
      if parts.isEmpty || folder.any fun (path, _) => parts.isPrefixOf (Path.ofText path).parts then
        .folder
      else .nothing

/-- What stands at the end of a walk that has come to the given parts.  Of what lies around the
folder only the way up is known. -/
def walk (folder : Folder) (here : List Text) : List Text → Standing
  | [] => folder.atParts here
  | part :: rest =>
      if !(folder.atParts here).isFolder then .nothing
      else if staysHere part then folder.walk here rest
      else if part ≠ ['.', '.'] then folder.walk (here ++ [part]) rest
      else if here.isEmpty then
        if rest.all fun part => staysHere part || part = ['.', '.'] then .folder else .nothing
      else folder.walk here.dropLast rest

/-- What stands at a path. -/
def standing (folder : Folder) (path : Text) : Standing :=
  match path with
  | [] => .nothing
  | '/' :: _ => if (Path.ofText path).parts.isEmpty then .folder else .nothing
  | _ => folder.walk [] (Text.pieces '/' path)

end Folder

end CommandLine

end Marginalia
