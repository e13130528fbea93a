import Marginalia.Family
import Marginalia.Json.Writer
import Marginalia.Value.Basic

/-!
# Failures of a source control

A version control command may end with a failure, and a hosting service may refuse a request.  Both
say what was asked and how it ended.
-/

namespace Marginalia

/-- A command that ended with a failure. -/
structure CommandFailure where
  /-- The words of the command. -/
  command : List Text
  /-- How it ended; the number of a signal is negative. -/
  status : Int
  /-- What it said about that. -/
  complaint : Text := []
deriving DecidableEq, Repr

namespace CommandFailure

/-- The signals that a command may die of. -/
def signals : List (Nat × String) :=
  [(1, "SIGHUP"), (2, "SIGINT"), (3, "SIGQUIT"), (4, "SIGILL"), (5, "SIGTRAP"), (6, "SIGABRT"),
    (7, "SIGBUS"), (8, "SIGFPE"), (9, "SIGKILL"), (10, "SIGUSR1"), (11, "SIGSEGV"),
    (12, "SIGUSR2"), (13, "SIGPIPE"), (14, "SIGALRM"), (15, "SIGTERM"), (16, "SIGSTKFLT"),
    (17, "SIGCHLD"), (18, "SIGCONT"), (19, "SIGSTOP"), (20, "SIGTSTP"), (21, "SIGTTIN"),
    (22, "SIGTTOU"), (23, "SIGURG"), (24, "SIGXCPU"), (25, "SIGXFSZ"), (26, "SIGVTALRM"),
    (27, "SIGPROF"), (28, "SIGWINCH"), (29, "SIGIO"), (30, "SIGPWR"), (31, "SIGSYS"),
    (34, "SIGRTMIN"), (64, "SIGRTMAX")]

/-- How the command ended, in words. -/
def ending (status : Int) : Text :=
  if 0 ≤ status then "returned non-zero exit status ".toList ++ Text.ofInteger status
  else
    match signals.find? (·.1 = status.natAbs) with
    | some (number, name) =>
        "died with <Signals.".toList ++ name.toList ++ ": ".toList ++ Text.ofInteger number ++
          ['>']
    | none => "died with unknown signal ".toList ++ Text.ofInteger status.natAbs

/-- The message of a failure. -/
def message (failure : CommandFailure) : Text :=
  "Command '".toList ++ (Value.ofTexts failure.command).shown ++ "' ".toList ++
    ending failure.status ++ ['.']

end CommandFailure

/-- A request that a hosting service refused. -/
structure ServiceFailure where
  /-- The status of the answer. -/
  status : Int
  /-- What the service said. -/
  complaint : Text
deriving DecidableEq, Repr

/-- The message of a refusal. -/
def ServiceFailure.message (failure : ServiceFailure) : Text :=
  Text.ofInteger failure.status ++ " \x7b\"message\": ".toList ++
    Json.writeText failure.complaint ++ ['\x7d']

end Marginalia
