import Mathlib.Data.List.Nodup
import Mathlib.Tactic.Common
import Marginalia.Context.Orchestrator
import Marginalia.Proofs.Context.FanOut
import Marginalia.Proofs.Context.Merging
import Marginalia.Proofs.Sorting

/-!
# All or nothing

Retrieval fans out to the allowed strategies in the order of their priorities.  When all return in
time there is a context, merged from what they found.  Otherwise there is none: the first failure
decides, and the time runs out when nothing fails.  Either way nothing goes on.
-/

namespace Marginalia

variable {Call : Type}

/-! ## The order of strategies -/

/-- The strategies of those given that settings allow, in the order in which they are started. -/
structure IsLineUp (given : List (Strategy Call)) (settings : ContextSettings)
    (started : List (Strategy Call)) : Prop where
  /-- Those and only those that are allowed are started, each once. -/
  allowed : started.Perm (given.filter (·.name ∈ settings.strategies))
  /-- The lower the priority number, the earlier. -/
  ascending : started.Pairwise (·.priority ≤ ·.priority)
  /-- Strategies of one priority keep their order. -/
  stable : ∀ priority, started.filter (·.priority = priority) =
    (given.filter (·.name ∈ settings.strategies)).filter (·.priority = priority)

/-- Sorting by priority does not change the order among strategies of one priority. -/
theorem filter_mergeSort_priority (given : List (Strategy Call)) (priority : Int) :
    (given.mergeSort fun left right => left.priority ≤ right.priority).filter
        (·.priority = priority) =
      given.filter (·.priority = priority) := by
  refine filter_mergeSort (by simp; omega) (by simp; omega)
    (fun former latter isFormer isLatter => ?_) given
  have isFormer : former.priority = priority := of_decide_eq_true isFormer
  have isLatter : latter.priority = priority := of_decide_eq_true isLatter
  exact decide_eq_true (Int.le_of_eq (isFormer.trans isLatter.symm))

namespace Orchestrator

theorem allowed_make (given : List (Strategy Call)) (settings : ContextSettings) :
    (make given settings).allowed =
      (given.mergeSort fun left right => left.priority ≤ right.priority).filter
        (·.name ∈ settings.strategies) := by
  simp only [allowed, make, List.contains_eq_mem]

theorem isLineUp_allowed (given : List (Strategy Call)) (settings : ContextSettings) :
    IsLineUp given settings (make given settings).allowed := by
  rw [allowed_make]
  refine ⟨(given.mergeSort_perm _).filter _, ?_, fun priority => ?_⟩
  · have sorted : (given.mergeSort fun left right => left.priority ≤ right.priority).Pairwise
        fun left right => decide (left.priority ≤ right.priority) = true :=
      List.pairwise_mergeSort (by simp; omega) (by simp; omega) given
    exact (sorted.imp of_decide_eq_true).filter _
  · have swap (strategies : List (Strategy Call)) :
        (strategies.filter (·.name ∈ settings.strategies)).filter (·.priority = priority) =
          (strategies.filter (·.priority = priority)).filter (·.name ∈ settings.strategies) := by
      rw [List.filter_filter, List.filter_filter]
      exact List.filter_congr fun _ _ => Bool.and_comm _ _
    rw [swap, filter_mergeSort_priority, swap]

end Orchestrator

/-! ## Searches -/

section

variable {Result Other : Type} {limits : Limits} {jobs : List (Job Call Result)}

/-- A job of which something is made under its name. -/
def Job.made (view : Text → Result → Other) (job : Job Call Result) : Job Call Other where
  name := job.name
  work := { job.work with outcome := job.work.outcome.map (view job.name) }

namespace Job

variable {view : Text → Result → Other}

@[simp]
theorem outlasts_made (moment : Nat) (job : Job Call Result) :
    (job.made view).work.outlasts moment = job.work.outlasts moment := by
  rw [made, Work.outlasts, Outcome.hangs_map, Work.outlasts]

@[simp]
theorem starts_made : starts (jobs.map (made view)) = starts jobs := by
  simp [starts, made]

@[simp]
theorem cancellations_made (moment : Nat) :
    cancellations moment (jobs.map (made view)) = cancellations moment jobs := by
  simp only [cancellations, List.filter_map, List.map_map, Function.comp_def, outlasts_made]
  rfl

theorem NoneFailsBefore.made {moment : Nat} (unfailed : NoneFailsBefore moment jobs) :
    NoneFailsBefore moment (jobs.map (made view)) := by
  intro other isMade failure failed
  obtain ⟨job, isJob, rfl⟩ := List.mem_map.mp isMade
  refine unfailed job isJob failure ?_
  rwa [← Outcome.failure?_eq_some_iff, Job.made, Outcome.failure?_map,
    Outcome.failure?_eq_some_iff] at failed

theorem FailsFirst.made {job : Job Call Result} {failure : Failure}
    (first : FailsFirst jobs job failure) :
    FailsFirst (jobs.map (made view)) (job.made view) failure := by
  obtain ⟨failed, front, back, rfl, before, behind⟩ := first
  refine ⟨?_, front.map (made view), back.map (made view), by simp, before.made, behind.made⟩
  rw [Job.made, failed, Outcome.map]

theorem returns_made_iff {job : Job Call Result} {result : Other} :
    limits.Returns (job.made view) result ↔
      ∃ found, limits.Returns job found ∧ view job.name found = result := by
  simp only [Limits.Returns, Limits.Leave, made]
  cases job.work.outcome <;> simp [Outcome.map, and_comm]

end Job

theorem GivenUp.made {view : Text → Result → Other} {failure : Failure} {moment : Nat}
    (givenUp : GivenUp limits jobs failure moment) :
    GivenUp limits (jobs.map (Job.made view)) failure moment := by
  cases givenUp with
  | failure first inTime => exact .failure first.made inTime
  | timeout isLast unfailed late =>
      obtain ⟨job, isJob, lasts⟩ := late
      exact .timeout isLast unfailed.made
        ⟨_, List.mem_map_of_mem isJob, (Job.outlasts_made _ _).trans lasts⟩

end

/-- What a strategy looks for in a change. -/
def Strategy.search (bundle : Bundle) (strategy : Strategy Call) :
    Job Call (List (Match Float)) where
  name := strategy.name
  work := strategy.look bundle

/-- Strategies each of which returns, fails or hangs as soon as it is started. -/
def ArePrompt (bundle : Bundle) (started : List (Strategy Call)) : Prop :=
  ∀ strategy ∈ started,
    (strategy.look bundle).outcome = .hanging ∨ (strategy.look bundle).millis = 0

/-- Of strategies that take no time, those go on that hang. -/
theorem ArePrompt.cancellations {bundle : Bundle} {started : List (Strategy Call)}
    (prompt : ArePrompt bundle started) (moment : Nat) :
    Job.cancellations moment (started.map (Strategy.search bundle)) =
      (started.filter fun strategy => (strategy.look bundle).outcome.hangs).map
        fun strategy => .cancelled strategy.name := by
  have lasts (strategy : Strategy Call) (isStarted : strategy ∈ started) :
      (strategy.look bundle).outlasts moment = (strategy.look bundle).outcome.hangs := by
    rw [Work.outlasts]
    rcases prompt strategy isStarted with hanging | atOnce
    · rw [hanging, Outcome.hangs, Bool.true_or]
    · simp [atOnce]
  rw [Job.cancellations, List.filter_map, List.map_map, ← List.filter_congr lasts]
  rfl

/-- What comes of strategies each of which returns, fails or hangs as soon as it is started. -/
structure EndsPromptly (bundle : Bundle) (started : List (Strategy Call)) (run : Run Call) :
    Prop where
  /-- All are started before those that hang are cancelled. -/
  events : run.events = started.map (fun strategy => Event.started strategy.name) ++
    (started.filter fun strategy => (strategy.look bundle).outcome.hangs).map
      fun strategy => Event.cancelled strategy.name
  /-- The first failure is the failure of the whole. -/
  fails : ∀ front strategy back failure, started = front ++ strategy :: back →
    (∀ former ∈ front, ∀ other, (former.look bundle).outcome ≠ .failed other) →
    (strategy.look bundle).outcome = .failed failure → run.result = .error failure
  /-- When none fails and one hangs, the time runs out. -/
  runsOut : (∀ strategy ∈ started, ∀ failure, (strategy.look bundle).outcome ≠ .failed failure) →
    (∃ strategy ∈ started, (strategy.look bundle).outcome = .hanging) →
    run.result = .error .timeout

/-- What comes of started strategies, all or nothing. -/
structure AllOrNothing (limits : Limits) (bundle : Bundle) (started : List (Strategy Call))
    (run : Run Call) : Prop where
  /-- When all return in time none is cancelled, and there is a context, merged from what each made
  of its candidates. -/
  complete : (∀ strategy ∈ started, ∃ found, limits.Returns (strategy.search bundle) found) →
    run.events = Job.starts (started.map (Strategy.search bundle)) ∧
    ∃ results context,
      List.Forall₂ (fun strategy result => ∃ found,
        (strategy.look bundle).outcome = .returned found ∧
          Retrieval.ofCandidates strategy.name found = .ok result) started results ∧
      Retrieval.merge results = .ok context ∧
      run.result = .ok
        { bundle, context := some context, byStrategy := (started.map (·.name)).zip results }
  /-- When one does not, there is no context, and what goes on is cancelled. -/
  nothing : (∃ strategy ∈ started, ∀ found, ¬limits.Returns (strategy.search bundle) found) →
    ∃ failure moment, run.result = .error failure ∧
      run.events = Job.starts (started.map (Strategy.search bundle)) ++
        Job.cancellations moment (started.map (Strategy.search bundle))
  /-- The first failure, when it comes in time, is the failure of the whole, and what goes on
  beyond it is cancelled. -/
  fails : ∀ (strategy : Strategy Call) (failure : Failure),
    Job.FailsFirst (started.map (Strategy.search bundle)) (strategy.search bundle) failure →
    limits.Leave (strategy.look bundle) →
    run.result = .error failure ∧
      run.events = Job.starts (started.map (Strategy.search bundle)) ++
        Job.cancellations (strategy.look bundle).millis (started.map (Strategy.search bundle))
  /-- When none fails in time and one has not ended then, the time runs out, and what goes on is
  cancelled. -/
  runsOut : ∀ last ∈ limits.last?,
    Job.NoneFailsBefore (last + 1) (started.map (Strategy.search bundle)) →
    (∃ strategy ∈ started, (strategy.look bundle).outlasts last = true) →
    run.result = .error .timeout ∧
      run.events = Job.starts (started.map (Strategy.search bundle)) ++
        Job.cancellations last (started.map (Strategy.search bundle))
  /-- Where no strategy takes time, they are told apart by how they end. -/
  promptly : ArePrompt bundle started → EndsPromptly bundle started run

namespace Orchestrator

/-- A change is not skipped when nothing speaks against it and somebody may look. -/
theorem skip?_eq_none_iff (orchestrator : Orchestrator Call) (bundle : Bundle) :
    orchestrator.skip? bundle = none ↔
      orchestrator.settings.isEnabled = true ∧
      ¬(orchestrator.settings.rollout.skipsLargeDiffs = true ∧
        orchestrator.settings.rollout.maxDiffLines < bundle.diff.lineCount) ∧
      ¬(orchestrator.settings.rollout.percentage < 100 ∧
        orchestrator.settings.rollout.percentage ≤ rolloutBucket bundle.repository) ∧
      orchestrator.allowed ≠ [] := by
  simp only [skip?, ite_eq_iff, reduceCtorEq, and_false, false_or, and_true, Bool.not_eq_true',
    Bool.not_eq_false, Bool.and_eq_true, decide_eq_true_eq, List.isEmpty_iff, ne_eq]

/-- A time without end is the only one that is never up. -/
theorem exists_last {settings : ContextSettings}
    (isNumber : settings.strategyTimeout.isNaN = false)
    (finite : Number.isInfinite settings.strategyTimeout = false) :
    ∃ last, last ∈ (limits settings).last? := by
  obtain ⟨each, isEach⟩ : ∃ each, (limits settings).each = some each := by
    simp only [limits, Limits.lastWithin?, isNumber, finite, Bool.or_false, Bool.false_eq_true,
      ↓reduceIte, Option.some.injEq, exists_eq']
  cases isWhole : (limits settings).whole <;>
    simp [Limits.last?, isEach, isWhole]

section

variable {bundle : Bundle}

/-- Under distinct names every strategy has its own result. -/
theorem enrich_of_nodup {names : List Text} {results : List (Retrieval Float)}
    {context : Retrieval Float} (distinct : names.Nodup)
    (sameLength : names.length = results.length) (merged : Retrieval.merge results = .ok context) :
    enrich bundle names results =
      .ok { bundle, context := some context, byStrategy := names.zip results } := by
  have keys : Table.keys (names.zip results) = names :=
    List.map_fst_zip (Nat.le_of_eq sameLength)
  have distinctKeys : (Table.keys ([] ++ names.zip results)).Nodup := by
    rw [List.nil_append, keys]
    exact distinct
  have table := Table.foldl_put_of_nodup distinctKeys
  rw [List.nil_append] at table
  rw [enrich, merged, table]
  rfl

end

section

variable {orchestrator : Orchestrator Call} {bundle : Bundle}
  (named : ∀ strategy ∈ orchestrator.allowed, Text.isBlank strategy.name = false)

include named

theorem jobs_eq_made :
    orchestrator.jobs bundle =
      (orchestrator.allowed.map (Strategy.search bundle)).map (Job.made Retrieval.ofNamed) := by
  rw [jobs, List.map_map]
  refine List.map_congr_left fun strategy isAllowed => ?_
  rw [Function.comp_apply, Strategy.retrieve_of_named (named strategy isAllowed) bundle]
  rfl

/-- Named strategies that all return have results, each what is made of its candidates. -/
theorem forall₂_ofCandidates {limits : Limits} {results : List (Retrieval Float)}
    (returned : List.Forall₂ limits.Returns (orchestrator.jobs bundle) results) :
    List.Forall₂ (fun strategy result =>
        (∃ found, (strategy.look bundle).outcome = .returned found ∧
          Retrieval.ofCandidates strategy.name found = .ok result) ∧ result.figures.Fit)
      orchestrator.allowed results := by
  rw [jobs_eq_made named, List.forall₂_map_left_iff, List.forall₂_map_left_iff] at returned
  refine ((List.forall₂_and_left _ _).mpr ⟨named, returned⟩).imp fun strategy result isResult => ?_
  obtain ⟨found, ⟨isReturned, -⟩, rfl⟩ := Job.returns_made_iff.mp isResult.2
  exact ⟨⟨found, isReturned, Retrieval.ofCandidates_of_named isResult.1 found⟩,
    Retrieval.fit_ofNamed isResult.1 found⟩

section

variable {last : Nat} (isLast : last ∈ (limits orchestrator.settings).last?)

include isLast

omit named in
/-- Searches that do not all return in time are given up. -/
theorem exists_givenUp_searches
    (unreturned : ∃ strategy ∈ orchestrator.allowed, ∀ found,
      ¬(limits orchestrator.settings).Returns (strategy.search bundle) found) :
    ∃ failure moment, GivenUp (limits orchestrator.settings)
      (orchestrator.allowed.map (Strategy.search bundle)) failure moment := by
  obtain ⟨strategy, isAllowed, unreturned⟩ := unreturned
  exact FanOut.exists_givenUp_of_not_returns isLast
    ⟨_, List.mem_map_of_mem isAllowed, unreturned⟩

/-- Strategies whose searches are given up fail for that reason, and what goes on at that moment is
cancelled. -/
theorem runAll_of_givenUp {failure : Failure} {moment : Nat}
    (givenUp : GivenUp (limits orchestrator.settings)
      (orchestrator.allowed.map (Strategy.search bundle)) failure moment) :
    (orchestrator.runAll bundle).result = .error failure ∧
      (orchestrator.runAll bundle).events =
        Job.starts (orchestrator.allowed.map (Strategy.search bundle)) ++
          Job.cancellations moment (orchestrator.allowed.map (Strategy.search bundle)) := by
  have jobsGivenUp : GivenUp (limits orchestrator.settings) (orchestrator.jobs bundle) failure
      moment := by
    rw [jobs_eq_made named]
    exact givenUp.made
  obtain ⟨failed, events⟩ := FanOut.run_of_givenUp isLast jobsGivenUp
  rw [runAll, failed, events, jobs_eq_made named, Job.starts_made, Job.cancellations_made]
  exact ⟨rfl, rfl⟩

/-- Strategies that all return in time have a context, merged from what they found. -/
theorem runAll_of_returns (distinct : (orchestrator.allowed.map (·.name)).Nodup)
    (nonempty : orchestrator.allowed ≠ [])
    (returns : ∀ strategy ∈ orchestrator.allowed, ∃ found,
      (limits orchestrator.settings).Returns (strategy.search bundle) found) :
    (orchestrator.runAll bundle).events =
        Job.starts (orchestrator.allowed.map (Strategy.search bundle)) ∧
      ∃ results context,
        List.Forall₂ (fun strategy result => ∃ found,
          (strategy.look bundle).outcome = .returned found ∧
            Retrieval.ofCandidates strategy.name found = .ok result)
          orchestrator.allowed results ∧
        Retrieval.merge results = .ok context ∧
        (orchestrator.runAll bundle).result = .ok
          { bundle, context := some context
            byStrategy := (orchestrator.allowed.map (·.name)).zip results } := by
  have allReturn : ∀ job ∈ orchestrator.jobs bundle, ∃ result,
      (limits orchestrator.settings).Returns job result := by
    rw [jobs_eq_made named, List.forall_mem_map, List.forall_mem_map]
    intro strategy isAllowed
    obtain ⟨found, isReturned⟩ := returns strategy isAllowed
    exact ⟨_, Job.returns_made_iff.mpr ⟨found, isReturned, rfl⟩⟩
  obtain ⟨results, returned, succeeds, events⟩ := FanOut.run_of_returns isLast allReturn
  have made := forall₂_ofCandidates named returned
  have fit : ∀ result ∈ results, result.figures.Fit :=
    ((List.forall₂_and_left _ _).mp (made.flip.imp fun _ _ isMade => ⟨isMade.2, isMade⟩)).1
  have someResult : results ≠ [] := by
    rintro rfl
    exact nonempty (List.forall₂_nil_right_iff.mp made)
  have sameLength : (orchestrator.allowed.map (·.name)).length = results.length :=
    (List.length_map _).trans made.length_eq
  have merged := Retrieval.merge_of_fit someResult fit
  have names : (orchestrator.jobs bundle).map (·.name) = orchestrator.allowed.map (·.name) :=
    List.map_map
  refine ⟨?_, results, _, made.imp fun _ _ isMade => isMade.1, merged, ?_⟩
  · rw [runAll, events, jobs_eq_made named, Job.starts_made]
  · rw [runAll, succeeds, names]
    exact enrich_of_nodup distinct sameLength merged

/-- What comes of the allowed strategies when none takes time. -/
theorem endsPromptly_runAll (distinct : (orchestrator.allowed.map (·.name)).Nodup)
    (nonempty : orchestrator.allowed ≠ []) (prompt : ArePrompt bundle orchestrator.allowed) :
    EndsPromptly bundle orchestrator.allowed (orchestrator.runAll bundle) where
  events := by
    by_cases returns : ∀ strategy ∈ orchestrator.allowed, ∃ found,
        (limits orchestrator.settings).Returns (strategy.search bundle) found
    · have noneHangs : (orchestrator.allowed.filter fun strategy =>
          (strategy.look bundle).outcome.hangs) = [] := by
        refine List.filter_eq_nil_iff.mpr fun strategy isAllowed hangs => ?_
        obtain ⟨found, returned, -⟩ := returns strategy isAllowed
        exact absurd (returned.symm.trans ((Outcome.hangs_iff _).mp hangs)) (by simp)
      rw [(runAll_of_returns named isLast distinct nonempty returns).1, noneHangs, List.map_nil,
        List.append_nil, Job.starts, List.map_map]
      rfl
    · obtain ⟨failure, moment, givenUp⟩ := exists_givenUp_searches isLast (by simpa using returns)
      rw [(runAll_of_givenUp named isLast givenUp).2, prompt.cancellations, Job.starts,
        List.map_map]
      rfl
  fails front strategy back failure split unfailed failed := by
    have atOnce : (strategy.look bundle).millis = 0 :=
      (prompt strategy (by simp [split])).resolve_left (by simp [failed])
    have first : Job.FailsFirst (orchestrator.allowed.map (Strategy.search bundle))
        (strategy.search bundle) failure := by
      refine ⟨failed, front.map _, back.map _,
        by rw [split, List.map_append, List.map_cons], ?_, ?_⟩
      · exact List.forall_mem_map.mpr fun former isFormer other fails =>
          absurd fails (unfailed former isFormer other)
      · exact fun _ _ _ _ => atOnce ▸ Nat.zero_le _
    exact (runAll_of_givenUp named isLast
      (.failure first fun _ _ => atOnce ▸ Nat.zero_le _)).1
  runsOut unfailed hanging := by
    obtain ⟨strategy, isAllowed, hangs⟩ := hanging
    refine (runAll_of_givenUp named isLast (.timeout isLast ?_ ?_)).1
    · exact List.forall_mem_map.mpr fun former isFormer other fails =>
        absurd fails (unfailed former isFormer other)
    · exact ⟨_, List.mem_map_of_mem isAllowed,
        by simp [Strategy.search, Work.outlasts, hangs, Outcome.hangs]⟩

/-- All or nothing comes of the allowed strategies. -/
theorem allOrNothing_runAll (distinct : (orchestrator.allowed.map (·.name)).Nodup)
    (nonempty : orchestrator.allowed ≠ []) :
    AllOrNothing (limits orchestrator.settings) bundle orchestrator.allowed
      (orchestrator.runAll bundle) where
  complete := runAll_of_returns named isLast distinct nonempty
  nothing unreturned := by
    obtain ⟨failure, moment, givenUp⟩ := exists_givenUp_searches isLast unreturned
    exact ⟨failure, moment, runAll_of_givenUp named isLast givenUp⟩
  fails strategy failure first inTime := runAll_of_givenUp named isLast (.failure first inTime)
  runsOut last isLast unfailed late := by
    obtain ⟨strategy, isAllowed, lasts⟩ := late
    exact runAll_of_givenUp named isLast
      (.timeout isLast unfailed ⟨_, List.mem_map_of_mem isAllowed, lasts⟩)
  promptly := endsPromptly_runAll named isLast distinct nonempty

end

end

/-- Retrieval is skipped without a strategy being started, or all or nothing comes of the allowed
strategies. -/
theorem run_all_or_nothing {given : List (Strategy Call)} {settings : ContextSettings}
    (bundle : Bundle) (distinct : (given.map (·.name)).Nodup)
    (named : ∀ strategy ∈ given, Text.isBlank strategy.name = false)
    (isNumber : settings.strategyTimeout.isNaN = false)
    (finite : Number.isInfinite settings.strategyTimeout = false) :
    (∀ skip, (make given settings).skip? bundle = some skip →
      ((make given settings).run (some bundle)).events = [] ∧
      ((make given settings).run (some bundle)).calls = [] ∧
      ((make given settings).run (some bundle)).result =
        .ok { bundle, context := none, byStrategy := [] }) ∧
    ((make given settings).skip? bundle = none →
      ∃ started, IsLineUp given settings started ∧
        AllOrNothing (limits settings) bundle started
          ((make given settings).run (some bundle))) := by
  constructor
  · intro skip skipped
    simp [run, skipped]
  · intro unskipped
    have lineUp := isLineUp_allowed given settings
    have subset : ∀ strategy ∈ (make given settings).allowed, strategy ∈ given :=
      fun strategy isAllowed => (List.mem_filter.mp (lineUp.allowed.subset isAllowed)).1
    have distinctAllowed : ((make given settings).allowed.map (·.name)).Nodup :=
      (lineUp.allowed.map _).nodup_iff.mpr (distinct.sublist (List.filter_sublist.map _))
    have nonempty := ((skip?_eq_none_iff _ _).mp unskipped).2.2.2
    obtain ⟨last, isLast⟩ := exists_last isNumber finite
    refine ⟨_, lineUp, ?_⟩
    simp only [run, unskipped]
    have allNamed : ∀ strategy ∈ (make given settings).allowed,
        Text.isBlank strategy.name = false :=
      fun strategy isAllowed => named strategy (subset strategy isAllowed)
    change AllOrNothing (limits (make given settings).settings) _ _ _
    exact allOrNothing_runAll allNamed isLast distinctAllowed nonempty

/-- A strategy whose search ends in a given way at once. -/
def atOnce (name : Text) (priority : Int) (outcome : Outcome Failure (List (Match Float))) :
    Strategy Empty where
  name := name
  priority := priority
  look _ := { outcome }

/-- The first of those that fail. -/
def firstToFail : Strategy Empty :=
  atOnce ['d'] 20 (.failed (.collaborator ['d']))

/-- Strategies that fail, hang and return, and one that is not allowed. -/
def mixed : List (Strategy Empty) :=
  [atOnce ['a'] 30 (.failed (.collaborator ['a'])), atOnce ['b'] 20 .hanging,
    atOnce ['c'] 10 (.returned []), firstToFail, atOnce ['e'] 0 (.failed .timeout)]

/-- Settings that allow all of them but the one. -/
def allowing : ContextSettings where
  strategies := [['d'], ['c'], ['b'], ['a']]

theorem run_all_or_nothing_mixed :
    ((mixed.map (·.name)).Nodup ∧ (∀ strategy ∈ mixed, Text.isBlank strategy.name = false) ∧
        allowing.strategyTimeout.isNaN = false ∧
        Number.isInfinite allowing.strategyTimeout = false) ∧
      (make mixed allowing).skip? { diff := {} } = none ∧
      ((make mixed allowing).run (some { diff := {} })).result = .error (.collaborator ['d']) := by
  have distinct : (mixed.map (·.name)).Nodup := by decide
  have named : ∀ strategy ∈ mixed, Text.isBlank strategy.name = false := by
    simp only [mixed, List.forall_mem_cons]
    exact ⟨rfl, rfl, rfl, rfl, rfl, by simp⟩
  have isNumber : allowing.strategyTimeout.isNaN = false := by decide +kernel
  have finite : Number.isInfinite allowing.strategyTimeout = false := by decide +kernel
  have allowedOnes : mixed.filter (·.name ∈ allowing.strategies) = mixed.dropLast := rfl
  have unskipped : (make mixed allowing).skip? { diff := {} } = none := by
    refine (skip?_eq_none_iff _ _).mpr ⟨rfl, by decide, by decide, ?_⟩
    intro none
    have sameLength := (isLineUp_allowed mixed allowing).allowed.length_eq
    rw [none, allowedOnes] at sameLength
    exact absurd sameLength (by decide)
  obtain ⟨started, lineUp, outcome⟩ :=
    (run_all_or_nothing { diff := {} } distinct named isNumber finite).2 unskipped
  have isMixed (strategy : Strategy Empty) (isStarted : strategy ∈ started) :
      strategy ∈ mixed.dropLast :=
    allowedOnes ▸ lineUp.allowed.mem_iff.mp isStarted
  have prompt : ArePrompt { diff := {} } started := by
    intro strategy isStarted
    have isAllowed := isMixed strategy isStarted
    simp only [mixed, List.dropLast, List.mem_cons, List.not_mem_nil, or_false] at isAllowed
    rcases isAllowed with rfl | rfl | rfl | rfl <;> exact .inr rfl
  have isStarted : firstToFail ∈ started :=
    lineUp.allowed.mem_iff.mpr (by rw [allowedOnes]; simp [mixed])
  obtain ⟨front, back, split, fresh⟩ := List.eq_append_cons_of_mem isStarted
  refine ⟨⟨distinct, named, isNumber, finite⟩, unskipped,
    (outcome.promptly prompt).fails front _ back _ split ?_ rfl⟩
  intro former isFormer other
  have earlier : former.priority ≤ firstToFail.priority :=
    (List.pairwise_append.mp (split ▸ lineUp.ascending)).2.2 former isFormer firstToFail (by simp)
  have isAllowed := isMixed former (by simp [split, isFormer])
  simp only [mixed, List.dropLast, List.mem_cons, List.not_mem_nil, or_false] at isAllowed
  rcases isAllowed with rfl | rfl | rfl | rfl
  · exact absurd earlier (by decide)
  · simp [atOnce]
  · simp [atOnce]
  · exact absurd isFormer fresh

end Orchestrator

end Marginalia
