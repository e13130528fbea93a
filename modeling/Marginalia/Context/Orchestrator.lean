import Marginalia.Checksum
import Marginalia.Context.FanOut
import Marginalia.Context.Strategy
import Marginalia.Notice

/-!
# Orchestrators

An orchestrator decides whether context is retrieved for a change at all, fans out to every allowed
strategy, and merges what they find.  Retrieval is all or nothing: when the fan-out fails there is
no context at all.
-/

namespace Marginalia

variable {Call : Type}

/-- Why no context is retrieved for a change. -/
inductive Skip where
  /-- Nothing is retrieved for anyone. -/
  | disabled
  /-- The diff is too large. -/
  | tooLarge (lines : Nat) (most : Int)
  /-- The repository does not take part. -/
  | outsideRollout (repository : Text) (percentage : Int)
  /-- Nobody may look. -/
  | noStrategy
deriving DecidableEq, Repr

/-- A reason to skip in words. -/
def Skip.message : Skip → Text
  | .disabled => "context retrieval is disabled".toList
  | .tooLarge lines most =>
      "diff has ".toList ++ Text.ofInteger lines ++ " lines, above the ".toList ++
        Text.ofInteger most ++ " line limit".toList
  | .outsideRollout repository percentage =>
      "repository ".toList ++ Text.quoted repository ++ " is outside the ".toList ++
        Text.ofInteger percentage ++ "% rollout".toList
  | .noStrategy => "no context strategy is enabled".toList

/-- A change with its context. -/
structure Enriched where
  /-- The change. -/
  bundle : Bundle
  /-- The context, when it was retrieved. -/
  context : Option (Retrieval Float) := none
  /-- What each strategy found. -/
  byStrategy : Table Text (Retrieval Float) := []

namespace Enriched

/-- Whether there is any context. -/
def hasContext (enriched : Enriched) : Bool :=
  enriched.context.any fun context => !context.found.isEmpty

/-- A word or two on the change and its context. -/
def summary (enriched : Enriched) : Text :=
  let diff := enriched.bundle.diff
  Text.ofInteger diff.files.length ++ " file(s), ".toList ++ Text.ofInteger diff.lineCount ++
    " line(s)".toList ++
    match enriched.context with
    | none => []
    | some context =>
        if context.found.isEmpty then []
        else ", ".toList ++ Text.ofInteger context.found.length ++ " context file(s)".toList

end Enriched

/-- Strategies with the settings that rule them. -/
structure Orchestrator (Call : Type) where
  /-- The strategies, the lowest priority number first. -/
  strategies : List (Strategy Call)
  /-- The settings. -/
  settings : ContextSettings

/-- What a retrieval did. -/
structure Run (Call : Type) where
  /-- What the strategies that were started call, unless they are cancelled before. -/
  calls : List Call := []
  /-- What happened to the strategies. -/
  events : List Event := []
  /-- What there is to tell. -/
  notices : List Notice := []
  /-- What came of it. -/
  result : Except Failure Enriched

namespace Orchestrator

/-- Order strategies under settings. -/
def make (strategies : List (Strategy Call)) (settings : ContextSettings) :
    Orchestrator Call where
  strategies := strategies.mergeSort fun left right => left.priority ≤ right.priority
  settings := settings

/-- The built-in strategies on a source control, under settings. -/
def ofSource (source : SourceControl Call) (settings : ContextSettings) (now : Moment) :
    Orchestrator Call :=
  make [Strategy.byName source, Strategy.byHistory source settings.history now] settings

/-- The strategies that may look. -/
def allowed (orchestrator : Orchestrator Call) : List (Strategy Call) :=
  orchestrator.strategies.filter fun strategy =>
    orchestrator.settings.strategies.contains strategy.name

/-- Names as a list in writing. -/
def namesText (names : List Text) : Text :=
  (Value.ofTexts names).shown

/-- What there is to tell about an orchestrator before it is used. -/
def notices (orchestrator : Orchestrator Call) : List Notice :=
  if orchestrator.settings.isEnabled && orchestrator.allowed.isEmpty then
    [{ level := .warning
       message :=
        "None of the configured strategies ".toList ++
          namesText orchestrator.settings.strategies ++ " is available (have: ".toList ++
          namesText (orchestrator.strategies.map (·.name)) ++ [')'] }]
  else []

/-- Why no context is retrieved for a change, if none is. -/
def skip? (orchestrator : Orchestrator Call) (bundle : Bundle) : Option Skip :=
  let settings := orchestrator.settings
  let rollout := settings.rollout
  let lines := bundle.diff.lineCount
  if !settings.isEnabled then some .disabled
  else if rollout.skipsLargeDiffs && rollout.maxDiffLines < lines then
    some (.tooLarge lines rollout.maxDiffLines)
  else if rollout.percentage < 100 && rollout.percentage ≤ rolloutBucket bundle.repository then
    some (.outsideRollout bundle.repository rollout.percentage)
  else if orchestrator.allowed.isEmpty then some .noStrategy
  else none

/-- How long strategies may take. -/
def limits (settings : ContextSettings) : Limits where
  each := Limits.lastWithin? settings.strategyTimeout
  whole := settings.overallTimeout.bind Limits.lastWithin?

/-- The notice about a retrieval that succeeded, which took no time that could be told. -/
def successNotice (context : Retrieval Float) : Notice where
  level := .info
  message :=
    "Retrieved ".toList ++ Text.ofInteger context.found.length ++ " context file(s) via ".toList ++
      context.figures.name ++ " in ".toList ++ Number.fixed 2 0 ++ ['s']

/-- A change with what the named strategies returned for it. -/
def enrich (bundle : Bundle) (names : List Text) (results : List (Retrieval Float)) :
    Except Failure Enriched := do
  let context ← (Retrieval.merge results).mapError .figures
  let byStrategy := (names.zip results).foldl
    (fun table (name, result) => Table.put name result table) []
  pure { bundle, context := some context, byStrategy }

/-- What is to be done for a change, in the order of the strategies. -/
def jobs (orchestrator : Orchestrator Call) (bundle : Bundle) :
    List (Job Call (Retrieval Float)) :=
  orchestrator.allowed.map fun strategy =>
    { name := strategy.name, work := strategy.retrieve bundle }

/-- Fan out to all allowed strategies, and merge what they find in a change. -/
def runAll (orchestrator : Orchestrator Call) (bundle : Bundle) : Run Call :=
  let jobs := orchestrator.jobs bundle
  let fanOut := FanOut.run (limits orchestrator.settings) jobs
  let result := fanOut.result >>= enrich bundle (jobs.map (·.name))
  { calls := jobs.flatMap (·.work.calls)
    events := fanOut.events
    notices := match result with
      | .ok enriched => (enriched.context.map successNotice).toList
      | .error _ => []
    result }

/-- The notice about a change that is skipped. -/
def skipNotice (skip : Skip) : Notice where
  level := .info
  message := "Skipping context retrieval: ".toList ++ skip.message

/-- Retrieve the context of a change, unless it is skipped. -/
def run (orchestrator : Orchestrator Call) (bundle : Option Bundle) : Run Call :=
  match bundle with
  | none => { result := .error (.missing .bundle) }
  | some bundle =>
      match orchestrator.skip? bundle with
      | some skip => { notices := [skipNotice skip], result := .ok { bundle } }
      | none => orchestrator.runAll bundle

end Orchestrator

end Marginalia
