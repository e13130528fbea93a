import Marginalia.Path
import Marginalia.Table
import Marginalia.Text.Lowercase

/-!
# Listings

The files of a repository, filed under the module that each one is: its path without suffix, and for
the file that makes a directory a package also the path of the directory.  A module may be asked for
by its whole path or by an ending of it, and a dotted name is shortened from the right until
something is found, since its last parts may be names inside a module.  A second table files the
paths under their names with case, hyphens and underscores disregarded.
-/

namespace Marginalia

/-- The path of a file without its suffix. -/
def moduleKey (path : Text) : Except Path.Nameless Text :=
  (Path.ofText path).withoutSuffix.map Path.text

/-- The name of a file without its suffix, with case, hyphens and underscores disregarded. -/
def looseStem (path : Text) : Text :=
  (Text.lowercase (Path.ofText path).stem).filter fun char => char ≠ '_' && char ≠ '-'

/-- The name of the file that makes a directory a package. -/
def packageFile : Text := "__init__.py".toList

/-- The files of a repository, filed for looking them up. -/
structure Listing where
  /-- The files under the modules that they are. -/
  modules : Table Text (List Text) := []
  /-- The files under their names. -/
  stems : Table Text (List Text) := []

namespace Listing

/-- File one more path. -/
def add (listing : Listing) (path : Text) : Except Path.Nameless Listing := do
  let key ← moduleKey path
  let modules := Table.file key path listing.modules
  let modules :=
    if (Path.ofText path).name = packageFile then
      Table.file (Path.ofText path).parent.text path modules
    else modules
  pure { modules, stems := Table.file (looseStem path) path listing.stems }

/-- File the paths of a repository.  A path without a name is refused. -/
def ofPaths (paths : List Text) : Except Path.Nameless Listing :=
  paths.foldlM add {}

/-- The files that are a module. -/
def exactly (listing : Listing) (key : Text) : List Text :=
  Table.filed key listing.modules

/-- The files that are a module; if there are none, those whose module ends with the key behind a
slash. -/
def endingIn (listing : Listing) (key : Text) : List Text :=
  let found := listing.exactly key
  if !found.isEmpty then found
  else
    listing.modules.flatMap fun (module, paths) =>
      if ('/' :: key).isSuffixOf module then paths else []

/-- What the longest leading run of parts finds that finds anything; the parts come last to
first. -/
def longest (listing : Listing) : List Text → List Text
  | [] => []
  | last :: parts =>
      let found := listing.endingIn (Text.glue ['/'] (last :: parts).reverse)
      if !found.isEmpty then found else listing.longest parts

/-- The files that a dotted name stands for. -/
def dotted (listing : Listing) (name : Text) : List Text :=
  listing.longest ((Text.pieces '.' name).filter (!·.isEmpty)).reverse

/-- The files that bear a name, with case, hyphens and underscores disregarded. -/
def named (listing : Listing) (stem : Text) : List Text :=
  Table.filed stem listing.stems

end Listing

end Marginalia
