import Marginalia.SourceControl.Basic

/-!
# Local repositories

A repository that is checked out is asked through the version control command: for the list of files
of a state, for the log of a file, and for a file's content.  The log shows all files of a commit
and not only the one that was asked for.
-/

namespace Marginalia

/-- The command with which a repository is asked, and what it prints. -/
abbrev CommandRunner := List Text → Work (List Text) Failure Text

namespace LocalRepository

/-- The state that is asked about where none is named. -/
def headState : Text := "HEAD".toList

/-- The form of a record of the log. -/
def logFormat : Text :=
  Commit.recordSeparator :: "%H".toList ++ Commit.fieldSeparator :: "%an".toList ++
    Commit.fieldSeparator :: "%aI".toList ++ Commit.fieldSeparator :: "%s".toList

/-- The command that lists the files of a state. -/
def listCommand (state : Text) : List Text :=
  ["git".toList, "ls-tree".toList, "-r".toList, "--name-only".toList, state]

/-- The command that prints the log of a file. -/
def logCommand (state : Text) (question : HistoryQuestion) : List Text :=
  ["git".toList, "log".toList, "--since=".toList ++ question.since.text,
    "--max-count=".toList ++ Text.ofInteger question.maxResults, "--name-only".toList,
    "--full-diff".toList, "--format=".toList ++ logFormat, state, "--".toList, question.path]

/-- The command that prints the content of a file. -/
def showCommand (state path : Text) : List Text :=
  ["git".toList, "show".toList, state ++ ':' :: path]

/-- A state of a local repository as a source control. -/
def sourceControl (run : CommandRunner) (state : Text) : SourceControl (List Text) where
  files := do
    let output ← run (listCommand state)
    pure ((Text.lines output).filter (!·.isEmpty))
  commits question := do
    let output ← run (logCommand state question)
    Work.ofExcept .commit (Commit.readLog output)
  content path := run (showCommand state path)

end LocalRepository

end Marginalia
