import Marginalia.Context.Import
import Marginalia.Context.Listing
import Marginalia.Context.Match
import Marginalia.Diff.Basic

/-!
# References

A new line of a change refers to files of the repository in two ways: by an import statement, and by
names of types, which are composed of capitalized words.  An imported file only has to be another
one than the file that the line stands in; a type may not be named after any changed file.
-/

namespace Marginalia

namespace Reference

/-- The directory of a path, in writing. -/
def directoryOf (source : Text) : Text :=
  (Path.ofText source).parent.text

/-- The directory so many steps above a path's own one, in writing. -/
def above : Nat → Path → Path
  | 0, path => path
  | steps + 1, path => above steps path.parent

/-- The module that a name with leading dots stands for, seen from a file: one dot is the directory
of the file, every further one the directory above. -/
def relativeModule (source module : Text) : Text :=
  let dots := (module.takeWhile (· = '.')).length
  let base := (above (dots - 1) (Path.ofText source).parent).text
  let rest := (module.drop dots).map fun char => if char = '.' then '/' else char
  if rest.isEmpty then base else Path.normalize (Path.join base rest)

/-- The first of two lists, or the second when the first is empty. -/
def orElse (first second : List Text) : List Text :=
  if first.isEmpty then second else first

/-- The files that names of a module stand for; if there are none, the module itself. -/
def ofNames (listing : Listing) (source module : Text) (names : List Text) : List Text :=
  let names := names.filter (· ≠ ['*'])
  if module.head? = some '.' then
    let base := relativeModule source module
    orElse
      (names.flatMap fun name => listing.exactly (Path.normalize (Path.join base name)))
      (listing.exactly base)
  else
    orElse (names.flatMap fun name => listing.dotted (module ++ '.' :: name))
      (listing.dotted module)

/-- The files that a relative source stands for: the path itself, the path without its suffix, or
the index of the directory. -/
def ofRelative (listing : Listing) (source spec : Text) : Except Path.Nameless (List Text) :=
  let key := Path.normalize (Path.join (directoryOf source) spec)
  let found := listing.exactly key
  if !found.isEmpty then .ok found
  else
    (moduleKey key).map fun module =>
      orElse (listing.exactly module) (listing.exactly (key ++ "/index".toList))

/-- The files that a quoted source stands for. -/
def ofSource (listing : Listing) (source spec : Text) : Except Path.Nameless (List Text) :=
  if spec.head? = some '.' then ofRelative listing source spec
  else .ok (listing.endingIn (spec.dropWhile fun char => ['@', '~', '/'].contains char))

/-- The files that a line of a file imports. -/
def ofLine (listing : Listing) (source line : Text) : Except Path.Nameless (List Text) :=
  match Import.ofLine line with
  | .fromModule module names => .ok (ofNames listing source module names)
  | .wholeModule module => .ok (listing.dotted module)
  | .quoted specs => (specs.mapM (ofSource listing source)).map List.flatten

/-- Whether what is left of a word consists of capitalized words.  `open` tells that a capital has
to be followed by a small letter or digit. -/
def isCapitalized (isOpen : Bool) : Text → Bool
  | [] => !isOpen
  | char :: rest =>
      if char.isUpper then !isOpen && isCapitalized true rest
      else (char.isLower || char.isDigit) && isCapitalized false rest

/-- Whether a word is the name of a type: two or more capitalized words in one. -/
def isTypeName (word : Text) : Bool :=
  (word.head?.any Char.isUpper) && 1 < word.countP Char.isUpper && isCapitalized false word

/-- The names of types in a line. -/
def typeNames (line : Text) : List Text :=
  (Text.words line).filter isTypeName

/-- Why references cannot be listed. -/
inductive Fault (Amount : Type) where
  /-- A path has no name. -/
  | nameless (cause : Path.Nameless)
  /-- A path makes no match. -/
  | noMatch (cause : Match.Fault Amount)

/-- The message of a fault. -/
def Fault.message {Amount : Type} [Scale Amount] : Fault Amount → Text
  | .nameless cause => cause.message
  | .noMatch cause => cause.message

/-- The family of a fault. -/
def Fault.family {Amount : Type} (_ : Fault Amount) : Family := .value

variable {Amount : Type} [Scale Amount]

/-- The matches of the files that a line imports. -/
def importMatches (listing : Listing) (source line : Text) :
    Except (Fault Amount) (List (Match Amount)) := do
  let paths ← (ofLine listing source line).mapError .nameless
  (paths.filter (· ≠ source)).mapM fun path =>
    (Match.ofReason path .directImport (Text.trim line)).mapError .noMatch

/-- The matches of the files that are named like a type in a line. -/
def typeMatches (listing : Listing) (changed : List (Option Text)) (source line : Text) :
    Except (Fault Amount) (List (Match Amount)) := do
  let found ← (typeNames line).mapM fun name =>
    ((listing.named (Text.lowercase name)).filter fun path =>
        path ≠ source && !changed.contains (some path)).mapM fun path =>
      (Match.ofReason path .typeReference ("references ".toList ++ name)).mapError .noMatch
  pure found.flatten

/-- The matches that a line gives. -/
def lineMatches (listing : Listing) (changed : List (Option Text)) (source line : Text) :
    Except (Fault Amount) (List (Match Amount)) := do
  let imported ← importMatches listing source line
  let typed ← typeMatches listing changed source line
  pure (imported ++ typed)

/-- The new lines of a file that say something. -/
def newLines (file : FileChange) : List Text :=
  ((file.hunks.flatMap (·.lines)).filter fun line =>
    line.kind = .added && !Text.isBlank line.content).map (·.content)

/-- The matches that a file gives. -/
def fileMatches (listing : Listing) (changed : List (Option Text)) (file : FileChange) :
    Except (Fault Amount) (List (Match Amount)) :=
  match file.effectivePath with
  | none => .ok []
  | some source =>
      if source.isEmpty then .ok []
      else ((newLines file).mapM (lineMatches listing changed source)).map List.flatten

end Reference

/-- The files of a repository that the new lines of a diff refer to. -/
def Diff.references {Amount : Type} [Scale Amount] (diff : Diff) (paths : List Text) :
    Except (Reference.Fault Amount) (List (Match Amount)) := do
  let listing ← (Listing.ofPaths paths).mapError .nameless
  let changed := diff.files.map (·.effectivePath)
  let found ← diff.files.mapM (Reference.fileMatches listing changed)
  pure found.flatten

end Marginalia
