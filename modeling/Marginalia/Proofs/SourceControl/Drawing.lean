import Marginalia.Proofs.Except
import Marginalia.SourceControl.Hosted

/-!
# How many commits are drawn

A hosted repository is asked for a largest number of commits.  What comes back are that many of the
first commits that it hands out, or all of them, each converted, and a commit that is none ends the
drawing with a fault.  To see that enough have come, one more commit is drawn, if there is one; so
no commit is drawn in vain exactly when the repository hands out no more than were asked for, or
the drawing ends before.
-/

namespace Marginalia

namespace Work

variable {Call Failure Result Next Fault : Type}

theorem ofExcept_ok_bind (wrap : Fault → Failure) (result : Result)
    (next : Result → Work Call Failure Next) :
    (ofExcept wrap (.ok result) >>= next) = next result := by
  simp [bind, andThen, ofExcept, done]

/-- What is made of a result afterwards calls nothing. -/
theorem calls_bind_pure (work : Work Call Failure Result) (view : Result → Next) :
    (work >>= fun result => pure (view result)).calls = work.calls := by
  cases found : work.outcome <;> simp [bind, andThen, found, pure, done]

theorem outcome_bind_pure (work : Work Call Failure Result) (view : Result → Next) :
    (work >>= fun result => pure (view result)).outcome = work.outcome.map view := by
  cases found : work.outcome <;> simp [bind, andThen, found, pure, done, Outcome.map]

theorem outcome_ofExcept_map (wrap : Fault → Failure) (run : Except Fault Result)
    (view : Result → Next) :
    (ofExcept wrap (run.map view) : Work Call Failure Next).outcome =
      (ofExcept wrap run : Work Call Failure Result).outcome.map view := by
  cases run <;> rfl

end Work

namespace HostedRepository

/-- The first commits that are handed out from a place on, as far as there are any. -/
def handedOut (commits : Nat → Option HostedCommit) : Nat → Nat → List HostedCommit
  | 0, _ => []
  | count + 1, place =>
      match commits place with
      | none => []
      | some hosted => hosted :: handedOut commits count (place + 1)

/-- The commits that are drawn from a place on, until so many have come and one more shows that
there are enough, or one of them is no commit. -/
def drawnFrom (commits : Nat → Option HostedCommit) : Nat → Nat → List HostedCommit
  | 0, place => handedOut commits 1 place
  | left + 1, place =>
      match commits place with
      | none => []
      | some hosted =>
          hosted :: if Text.isBlank hosted.id then [] else drawnFrom commits left (place + 1)

variable {commits : Nat → Option HostedCommit} {hosted : HostedCommit} {commit : Commit}
  {left place : Nat}

theorem handedOut_succ_of_none (none : commits place = none) :
    handedOut commits (left + 1) place = [] := by
  rw [handedOut, none]

theorem handedOut_succ_of_some (found : commits place = some hosted) :
    handedOut commits (left + 1) place = hosted :: handedOut commits left (place + 1) := by
  rw [handedOut, found]

theorem drawnFrom_succ_of_none (none : commits place = none) :
    drawnFrom commits (left + 1) place = [] := by
  rw [drawnFrom, none]

theorem drawnFrom_succ_of_some (found : commits place = some hosted) :
    drawnFrom commits (left + 1) place =
      hosted :: if Text.isBlank hosted.id then [] else drawnFrom commits left (place + 1) := by
  rw [drawnFrom, found]

/-! ## One commit more -/

theorem draw_succ_of_none (none : commits place = none) :
    draw commits (left + 1) place = pure [] := by
  rw [draw, none]

/-- A commit that is none ends the drawing. -/
theorem draw_succ_of_error {fault : Commit.Fault} (found : commits place = some hosted)
    (isNone : hosted.toCommit = .error fault) :
    draw commits (left + 1) place =
      { calls := [.fetched hosted.id], outcome := .failed (.commit fault) } := by
  rw [draw, found]
  dsimp only
  rw [isNone]
  rfl

/-- After a commit, more are drawn. -/
theorem draw_succ_of_ok (found : commits place = some hosted)
    (isCommit : hosted.toCommit = .ok commit) :
    draw commits (left + 1) place = (drawn hosted >>= fun _ =>
      draw commits left (place + 1) >>= fun more => pure (commit :: more)) := by
  rw [draw, found]
  dsimp only
  rw [isCommit]
  exact congrArg (drawn hosted >>= ·) (funext fun _ => Work.ofExcept_ok_bind _ _ _)

theorem isBlank_of_error {fault : Commit.Fault} (isNone : hosted.toCommit = .error fault) :
    Text.isBlank hosted.id = true := by
  by_contra visible
  rw [HostedCommit.toCommit, Commit.check, if_neg visible] at isNone
  contradiction

theorem isBlank_of_ok (isCommit : hosted.toCommit = .ok commit) :
    Text.isBlank hosted.id = false := by
  rw [HostedCommit.toCommit, Commit.check] at isCommit
  split at isCommit
  · contradiction
  · rename_i visible
    simpa using visible

/-! ## The whole drawing -/

/-- Every commit that is drawn is a call. -/
theorem calls_draw (commits : Nat → Option HostedCommit) (left place : Nat) :
    (draw commits left place).calls =
      (drawnFrom commits left place).map fun hosted => .fetched hosted.id := by
  induction left generalizing place with
  | zero =>
      rw [draw, drawnFrom, handedOut]
      cases commits place <;> rfl
  | succ left induct =>
      cases found : commits place with
      | none => rw [draw_succ_of_none found, drawnFrom_succ_of_none found]; rfl
      | some hosted =>
          rw [drawnFrom_succ_of_some found, List.map_cons]
          cases converted : hosted.toCommit with
          | error fault =>
              rw [draw_succ_of_error found converted, if_pos (isBlank_of_error converted)]
              rfl
          | ok commit =>
              have visible := Bool.eq_false_iff.mp (isBlank_of_ok converted)
              rw [draw_succ_of_ok found converted, if_neg visible, ← induct,
                ← Work.calls_bind_pure (draw commits left (place + 1)) (commit :: ·)]
              rfl

/-- What comes back are the first commits, each converted. -/
theorem outcome_draw (commits : Nat → Option HostedCommit) (left place : Nat) :
    (draw commits left place).outcome = (Work.ofExcept .commit
      ((handedOut commits left place).mapM HostedCommit.toCommit) :
        Work HostedCall Failure (List Commit)).outcome := by
  induction left generalizing place with
  | zero =>
      rw [draw, handedOut]
      cases commits place <;> rfl
  | succ left induct =>
      cases found : commits place with
      | none => rw [draw_succ_of_none found, handedOut_succ_of_none found]; rfl
      | some hosted =>
          rw [handedOut_succ_of_some found, List.mapM_cons]
          cases converted : hosted.toCommit with
          | error fault => rw [draw_succ_of_error found converted]; rfl
          | ok commit =>
              rw [draw_succ_of_ok found converted]
              calc (draw commits left (place + 1) >>= fun more => pure (commit :: more)).outcome
                  = (draw commits left (place + 1)).outcome.map (commit :: ·) :=
                    Work.outcome_bind_pure _ _
                _ = (Work.ofExcept .commit ((((handedOut commits left (place + 1)).mapM
                      HostedCommit.toCommit).map (commit :: ·))) :
                        Work HostedCall Failure (List Commit)).outcome := by
                    rw [induct, Work.outcome_ofExcept_map]
                _ = _ := by rw [← bind_pure_eq_map]; rfl

theorem drawnFrom_prefix (commits : Nat → Option HostedCommit) (left place : Nat) :
    drawnFrom commits left place <+: handedOut commits (left + 1) place := by
  induction left generalizing place with
  | zero => exact List.prefix_refl _
  | succ left induct =>
      cases found : commits place with
      | none => rw [drawnFrom_succ_of_none found]; exact List.nil_prefix
      | some hosted =>
          rw [drawnFrom_succ_of_some found, handedOut_succ_of_some found]
          refine List.cons_prefix_cons.mpr ⟨rfl, ?_⟩
          split
          · exact List.nil_prefix
          · exact induct (place + 1)

/-- No more commits are drawn than were asked for exactly when no more are handed out, or when one
of those that were asked for is none. -/
theorem length_drawnFrom_le_iff (commits : Nat → Option HostedCommit) (left place : Nat) :
    (drawnFrom commits left place).length ≤ left ↔
      (handedOut commits (left + 1) place).length ≤ left ∨
        ∃ hosted ∈ handedOut commits left place, Text.isBlank hosted.id = true := by
  induction left generalizing place with
  | zero => simp [drawnFrom, handedOut]
  | succ left induct =>
      cases found : commits place with
      | none => simp [drawnFrom_succ_of_none found, handedOut_succ_of_none found]
      | some hosted =>
          rw [drawnFrom_succ_of_some found, handedOut_succ_of_some found,
            handedOut_succ_of_some found]
          by_cases blank : Text.isBlank hosted.id = true
          · simp [blank]
          · simp [blank, induct]

/-! ## Asking for the commits of a file -/

theorem calls_commits (repository : HostedRepository) (state : Text)
    (question : HistoryQuestion) :
    ((repository.sourceControl state).commits question).calls =
      .commits state question.path question.since ::
        (draw repository.commits question.maxResults.toNat 0).calls := by
  rfl

theorem outcome_commits (repository : HostedRepository) (state : Text)
    (question : HistoryQuestion) :
    ((repository.sourceControl state).commits question).outcome =
      (draw repository.commits question.maxResults.toNat 0).outcome := by
  rfl

/-- The first commits come back, as many as were asked for or all there are, each converted.  Those
that are drawn are the first that are handed out, and they are no more than were asked for exactly
when no more are handed out, or one of those that were asked for is none. -/
theorem draws_no_more_iff (repository : HostedRepository) (state : Text)
    (question : HistoryQuestion) :
    let limit := question.maxResults.toNat
    let work := (repository.sourceControl state).commits question
    work.outcome = (Work.ofExcept .commit
        ((handedOut repository.commits limit 0).mapM HostedCommit.toCommit) :
          Work HostedCall Failure (List Commit)).outcome ∧
      ∃ drawn, drawn <+: handedOut repository.commits (limit + 1) 0 ∧
        work.calls = .commits state question.path question.since ::
          drawn.map (fun hosted => .fetched hosted.id) ∧
        (drawn.length ≤ limit ↔
          (handedOut repository.commits (limit + 1) 0).length ≤ limit ∨
            ∃ hosted ∈ handedOut repository.commits limit 0,
              Text.isBlank hosted.id = true) := by
  intro limit work
  refine ⟨?_, drawnFrom repository.commits limit 0, ?_, ?_, ?_⟩
  · exact (outcome_commits repository state question).trans (outcome_draw _ _ _)
  · exact drawnFrom_prefix repository.commits limit 0
  · rw [← calls_draw]
    exact calls_commits repository state question
  · exact length_drawnFrom_le_iff repository.commits limit 0

/-- A repository that hands out two commits. -/
def twoCommits : HostedRepository :=
  { defaultState := "main".toList
    tree := .ok []
    commits := fun place =>
      (["a".toList, "b".toList][place]?).map fun id =>
        { id, message := none, author := none, files := [] }
    contents := fun _ => .ok [] }

/-- The question for one commit. -/
def oneCommit : HistoryQuestion :=
  { repository := []
    path := "f".toList
    since := { date := ⟨2024, 1, 1⟩, offset := some 0 }
    maxResults := 1 }

/-- One commit is asked for, and two are fetched. -/
theorem exists_draw_beyond_limit :
    let work := (twoCommits.sourceControl "main".toList).commits oneCommit
    oneCommit.maxResults = 1 ∧
      work.outcome = .returned [{ id := "a".toList }] ∧
      work.calls = [.commits "main".toList "f".toList oneCommit.since, .fetched "a".toList,
        .fetched "b".toList] :=
  ⟨rfl, rfl, rfl⟩

end HostedRepository

end Marginalia
