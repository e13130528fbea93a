import Marginalia.Context.Listing
import Marginalia.Context.Match

/-!
# Neighbours

Files that are related to a changed file by where they stand and what they are called: the others of
its directory, its test or what it tests, and files that play another part for the same thing, such
as the service and the repository of one entity.
-/

namespace Marginalia

namespace Neighbour

/-- Whether one of two files is named after the other. -/
def namesOverlap (left right : Text) : Bool :=
  let left := looseStem left
  let right := looseStem right
  !left.isEmpty && !right.isEmpty && (right.isPrefixOf left || left.isPrefixOf right)

/-- What tests of a file are called: words before and after its stem. -/
def testForms : List (String × String) :=
  [("test_", ""), ("", "_test"), ("", ".test"), ("", ".spec"), ("", "_spec"), ("", "Test"),
    ("", "Tests")]

/-- Whether a file is called like a test of another one. -/
def isTestOf (test subject : Text) : Bool :=
  let path := Path.ofText subject
  let name := (Path.ofText test).name
  testForms.any fun (before, after) =>
    name = before.toList ++ path.stem ++ after.toList ++ path.suffix

/-- Whether one of two files is called like a test of the other. -/
def areTestPair (left right : Text) : Bool :=
  isTestOf right left || isTestOf left right

/-- The words for the parts that files play. -/
def layers : List Text :=
  ["controller".toList, "service".toList, "repository".toList, "dao".toList, "model".toList,
    "entity".toList, "dto".toList, "mapper".toList, "adapter".toList, "port".toList]

/-- The part that a file plays, by its name or else by its path. -/
def layerOf (path : Text) : Option Text :=
  let name := Text.lowercase (Path.ofText path).name
  let whole := Text.lowercase path
  match layers.find? (Text.occursIn · name) with
  | some layer => some layer
  | none => layers.find? (Text.occursIn · whole)

/-- What a file is about: its name without the words for parts. -/
def subjectOf (path : Text) : Text :=
  Text.stripOf ['_', '-', '.'] <|
    layers.foldl (fun name layer => Text.eraseAll layer name)
      (Text.lowercase (Path.ofText path).stem)

/-- Whether two files play different parts for the same thing. -/
def areLayersOfOne (left right : Text) : Bool :=
  match layerOf left, layerOf right with
  | some one, some other =>
      one ≠ other && !(subjectOf left).isEmpty && subjectOf left = subjectOf right
  | _, _ => false

variable {Amount : Type} [Scale Amount]

/-- How sure a file in the same directory is when it is named after the changed one, in
hundredths. -/
def namedSiblingWeight : Nat := 75

/-- How sure a file in the directory of a changed file is. -/
def siblingConfidence (changed path : Text) : Amount :=
  if namesOverlap changed path then Scale.ratio namedSiblingWeight 100
  else Reason.sibling.baseConfidence

/-- The matches of the other files in the directory of a changed file. -/
def siblingsOf (paths : List Text) (changed : Text) :
    Except (Match.Fault Amount) (List (Match Amount)) :=
  let directory := (Path.ofText changed).parent
  (paths.filter fun path => path ≠ changed && (Path.ofText path).parent = directory).mapM
    fun path =>
      Match.make path .sibling (siblingConfidence changed path)
        ("same directory as ".toList ++ changed)

/-- The matches of the other files in the directories of changed files. -/
def siblings (changed paths : List Text) : Except (Match.Fault Amount) (List (Match Amount)) :=
  (changed.mapM (siblingsOf paths)).map List.flatten

/-- The reason that the names of two files give, if they give one. -/
def nameReason? (changed path : Text) : Option Reason :=
  if areTestPair changed path then some .pathPattern
  else if areLayersOfOne changed path then some .relatedLayer
  else none

/-- The matches of the files whose names say that they belong to a changed file. -/
def patternsOf (paths : List Text) (changed : Text) :
    Except (Match.Fault Amount) (List (Match Amount)) :=
  let found := paths.filterMap fun path =>
    if path = changed then none else (nameReason? changed path).map (path, ·)
  found.mapM fun (path, reason) =>
    Match.ofReason path reason ("path pattern match with ".toList ++ changed)

/-- The matches of the files whose names say that they belong to changed files. -/
def patterns (changed paths : List Text) : Except (Match.Fault Amount) (List (Match Amount)) :=
  (changed.mapM (patternsOf paths)).map List.flatten

end Neighbour

end Marginalia
