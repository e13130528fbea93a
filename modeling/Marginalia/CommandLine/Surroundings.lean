import Marginalia.CommandLine.Folder
import Marginalia.CommandLine.Session
import Marginalia.Diff.Reader
import Marginalia.SourceControl.Hosted
import Marginalia.SourceControl.Local
import Marginalia.SourceControl.Token
import Marginalia.Text.Lines

/-!
# Surroundings

What a command finds where it runs: files, variables, the version control command, the command and
the service of a host, and the time.
-/

namespace Marginalia

namespace CommandLine

/-- What a command finds where it runs. -/
structure Surroundings where
  /-- What stands at a path. -/
  standing : Text → Standing
  /-- The token of the hosting service. -/
  token : Option Text := none
  /-- The path of the configuration file. -/
  configuration : Option Text := none
  /-- The version control command, run in a folder. -/
  versionControl : Text → CommandRunner
  /-- What becomes of asking the hosting service's command for a token. -/
  tokenReply : TokenReply := .missing
  /-- The repository of a name, opened with a token. -/
  hosted : Text → Text → Except ServiceFailure HostedRepository
  /-- The time. -/
  now : Moment

/-- Read a diff from a file.  Bytes that are no text are replaced, and line ends are made equal. -/
def readDiff (surroundings : Surroundings) (path : Text) : Session Diff :=
  match surroundings.standing path with
  | .file bytes =>
      Session.ofExcept
        (fun (fault : Diff.Fault) => .refused (some (path ++ ": ".toList ++ fault.message)))
        (Diff.read (Text.normalizeNewlines (Utf8.decodeLenient bytes)))
  | _ => Session.stop (.readsFolder path)

end CommandLine

end Marginalia
