import Marginalia.SourceControl.Basic
import Marginalia.Text.Utf8

/-!
# Hosted repositories

A hosting service is asked for the tree of a state, for commits, and for contents.  It hands out
commits one by one and fetches them in pages, so no more of them are drawn than it takes to see that
enough have come.
-/

namespace Marginalia

/-- The author of a hosted commit. -/
structure HostedAuthor where
  /-- The name. -/
  name : Option Text
  /-- The time of the commit. -/
  date : Option Moment

/-- A commit as a hosting service hands it out. -/
structure HostedCommit where
  /-- What the commit is known by. -/
  id : Text
  /-- What its author said about it. -/
  message : Option Text
  /-- Who made it. -/
  author : Option HostedAuthor
  /-- The files that it changed. -/
  files : List Text

/-- The commit that a hosted commit is. -/
def HostedCommit.toCommit (hosted : HostedCommit) : Except Commit.Fault Commit :=
  Commit.check
    { id := hosted.id
      message := hosted.message.getD []
      author := (hosted.author.bind (·.name)).getD []
      timestamp := hosted.author.bind (·.date)
      files := hosted.files }

/-- What stands at a path of a tree. -/
structure TreeEntry where
  /-- The path. -/
  path : Text
  /-- Whether it is a file. -/
  isFile : Bool

/-- What a hosting service is asked for. -/
inductive HostedCall where
  /-- The tree of a state. -/
  | tree (state : Text)
  /-- The commits of a state that touched a file since a time. -/
  | commits (state path : Text) (since : Moment)
  /-- A commit that was drawn. -/
  | fetched (id : Text)
  /-- The content of a file. -/
  | contents (path state : Text)
deriving DecidableEq, Repr

/-- A repository of a hosting service. -/
structure HostedRepository where
  /-- The state that is asked about where none is named. -/
  defaultState : Text
  /-- What stands in the tree of a state. -/
  tree : Except Failure (List TreeEntry)
  /-- The commit at a place of the sequence that is handed out, which may be endless. -/
  commits : Nat → Option HostedCommit
  /-- The bytes of a file. -/
  contents : Text → Except Failure (List Nat)

namespace HostedRepository

/-- The state that is asked about: the one that is named, unless its name is empty. -/
def stateOf (repository : HostedRepository) (named : Option Text) : Text :=
  (named.filter (!·.isEmpty)).getD repository.defaultState

/-- The call that draws a commit. -/
def drawn (commit : HostedCommit) : Work HostedCall Failure Unit :=
  { calls := [.fetched commit.id], outcome := .returned () }

/-- Draw commits from a place on, until so many have come and one more shows that there are
enough. -/
def draw (commits : Nat → Option HostedCommit) :
    Nat → Nat → Work HostedCall Failure (List Commit)
  | 0, place =>
      match commits place with
      | none => pure []
      | some hosted => do
          drawn hosted
          pure []
  | left + 1, place =>
      match commits place with
      | none => pure []
      | some hosted => do
          drawn hosted
          let commit ← Work.ofExcept .commit hosted.toCommit
          let more ← draw commits left (place + 1)
          pure (commit :: more)

/-- Ask the service for something. -/
def ask {Result : Type} (call : HostedCall) (answer : Except Failure Result) :
    Work HostedCall Failure Result :=
  { calls := [call]
    outcome := match answer with
      | .ok result => .returned result
      | .error failure => .failed failure }

/-- A state of a hosted repository as a source control. -/
def sourceControl (repository : HostedRepository) (state : Text) : SourceControl HostedCall where
  files := do
    let entries ← ask (.tree state) repository.tree
    pure ((entries.filter (·.isFile)).map (·.path))
  commits question := do
    ask (.commits state question.path question.since) (.ok ())
    draw repository.commits question.maxResults.toNat 0
  content path := do
    let bytes ← ask (.contents path state) (repository.contents path)
    pure (Utf8.decodeLenient bytes)

/-- The source control of a repository that has to be there, with its state. -/
def connect (repository : Option HostedRepository) (named : Option Text) :
    Except Missing (Text × SourceControl HostedCall) :=
  (given .repository repository).map fun repository =>
    let state := repository.stateOf named
    (state, repository.sourceControl state)

end HostedRepository

end Marginalia
