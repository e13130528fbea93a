import Marginalia.CommandLine.Form
import Marginalia.CommandLine.Surroundings
import Marginalia.Context.Orchestrator
import Marginalia.Text.Markup

/-!
# The command that lists related files

The context of a change is retrieved from a local or from a hosted repository, and the surest
matches are shown.
-/

namespace Marginalia

namespace CommandLine

namespace Related

/-- What the command takes. -/
def form : Form where
  options := [
    { name := "--repo".toList, demand := some .text },
    { name := "--repo-path".toList, demand := some (.existing .folder) },
    { name := "--ref".toList, demand := some .text },
    { name := "--top".toList, demand := some .integer },
    { name := "--help".toList }]
  operands := [{ name := "DIFF_PATH".toList, demand := .existing .file }]

/-- How many matches are shown where nothing else is said. -/
def standardTop : Int := 20

/-- A text that says something. -/
def spoken (text : Option Text) : Option Text :=
  text.filter (!·.isEmpty)

/-- Settings that are not accepted: a refusal, or a failure of another family than that of
values. -/
def settingsStop (fault : Settings.Fault) : Stop :=
  if fault.family = .value then
    .refused (some ("Invalid context configuration: ".toList ++ fault.message))
  else .broken fault.family fault.message

/-- What a failed command says about its failure. -/
def complaintOf (failure : CommandFailure) : Text :=
  let complaint := Text.trim failure.complaint
  if complaint.isEmpty then failure.message else complaint

/-- A failed retrieval as a reason to stop. -/
def failureStop : Failure → Stop
  | .timeout =>
      .refused (some
        "Context retrieval timed out; raise context.strategy_timeout_seconds.".toList)
  | .command failure => .refused (some ("git failed: ".toList ++ complaintOf failure))
  | .service failure => .refused (some ("GitHub API error: ".toList ++ failure.message))
  | failure => .broken failure.family failure.message

/-! ## The list of matches -/

/-- The matches, the surest first; equally sure ones keep their order. -/
def ranked (found : List (Match Float)) : List (Match Float) :=
  found.mergeSort fun left right => Number.atMost right.confidence left.confidence

/-- The first items, or, given a negative number, all but that many of the last. -/
def first {Item : Type} (count : Int) (items : List Item) : List Item :=
  if 0 ≤ count then items.take count.toNat else items.take (items.length - count.natAbs)

/-- The row of a match. -/
def row (found : Match Float) : List Text :=
  [Text.styled (if found.isHigh then "bold green".toList else "white".toList)
      (Text.escapeMarkup found.path),
    Number.fixed 2 found.confidence, found.reason.description, Text.escapeMarkup found.evidence]

/-- The table of matches. -/
def sheet (top : Int) (found : List (Match Float)) : Sheet where
  title :=
    "Top ".toList ++ Text.ofInteger (min top found.length) ++ " related file(s)".toList
  columns := ["File".toList, "Confidence".toList, "Reason".toList, "Evidence".toList]
  rows := (first top (ranked found)).map row

/-- The line about what one strategy found, which took no time that could be told. -/
def figuresLine (name : Text) (figures : Figures) : Text :=
  "  ".toList ++ name ++ ": ".toList ++ Text.ofInteger figures.total ++ " candidate(s), ".toList ++
    Text.ofInteger figures.high ++ " high confidence, ".toList ++ Number.fixed 2 0 ++ ['s']

/-- Show a change with its context. -/
def present (top : Int) (enriched : Enriched) : Session Unit := do
  Session.say (Text.styled "bold".toList enriched.summary)
  match enriched.context with
  | some context =>
      if context.found.isEmpty then
        Session.say "[yellow]No related files found.[/yellow]".toList
      else do
        Session.tabulate (sheet top context.found)
        enriched.byStrategy.forM fun (name, retrieval) =>
          Session.say (figuresLine name retrieval.figures)
  | none => Session.say "[yellow]No related files found.[/yellow]".toList

/-- Retrieve the context of a change from a source control, and show it. -/
def retrieve {Call : Type} (surroundings : Surroundings) (settings : ContextSettings) (top : Int)
    (bundle : Bundle) (source : SourceControl Call) : Session Unit := do
  let orchestrator := Orchestrator.ofSource source settings surroundings.now
  match orchestrator.skip? bundle with
  | some skip =>
      Session.say ("[yellow]Context retrieval skipped: ".toList ++ skip.message ++
        ".[/yellow]".toList)
  | none => do
      present top (← Session.ofExcept failureStop (orchestrator.run (some bundle)).result)

/-! ## Sources -/

/-- The token for a hosting service: the one of the surroundings, or else that of the settings. -/
def tokenOf (surroundings : Surroundings) (document : List (Value × Value)) : Option Text :=
  spoken (resolveToken surroundings.token surroundings.tokenReply).1 <|>
    spoken ((Value.field? "github_token".toList document).bind fun value =>
      match value with
      | .text token => some token
      | _ => none)

/-- Open a hosted repository in a state. -/
def openHosted (surroundings : Surroundings) (document : List (Value × Value)) (name : Text)
    (state : Option Text) : Session (SourceControl HostedCall) := do
  match tokenOf surroundings document with
  | none => Session.stop (.misuse .noToken)
  | some token => do
      Session.noteOpened name token
      let repository ← Session.ofExcept
        (fun (failure : ServiceFailure) =>
          .refused (some ("Cannot open ".toList ++ name ++ ": ".toList ++ failure.message)))
        (surroundings.hosted name token)
      return repository.sourceControl (repository.stateOf state)

/-- List the files that are related to a change. -/
def run (surroundings : Surroundings) (document : List (Value × Value)) (arguments : Arguments) :
    Session Unit := do
  let settings ← Session.ofExcept settingsStop (ContextSettings.ofDocument (.mapping document))
  let diff ← readDiff surroundings ((arguments.operand 0).headD [])
  let top := (arguments.integer? "--top").getD standardTop
  let state := spoken (arguments.text? "--ref")
  match spoken (arguments.text? "--repo"), spoken (arguments.text? "--repo-path") with
  | none, some folder =>
      retrieve surroundings settings top { diff, repository := folder }
        (LocalRepository.sourceControl (surroundings.versionControl folder)
          (state.getD LocalRepository.headState))
  | some name, none => do
      let source ← openHosted surroundings document name state
      retrieve surroundings settings top { diff, repository := name } source
  | _, _ => Session.stop (.misuse .notOneSource)

end Related

end CommandLine

end Marginalia
