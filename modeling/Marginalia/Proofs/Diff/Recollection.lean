import Mathlib.Tactic.Common
import Marginalia.Diff.Position
import Marginalia.Proofs.Except

/-!
# What a position map remembers

A map that has been asked remembers the positions of the files that were asked about and are still
there, and nothing else: what it remembers under a path is what it would look up again.  No
question can therefore change the answer to a later one.
-/

namespace Marginalia

theorem Diff.askedPlace?_eq_some_iff (path : Option Text) (line : Option Int) (place : Text × Int) :
    askedPlace? path line = some place ↔
      path = some place.1 ∧ line = some place.2 ∧ place.1 ≠ [] ∧ 0 < place.2 := by
  cases path with
  | none => simp [askedPlace?]
  | some path =>
      cases line with
      | none => simp [askedPlace?]
      | some line =>
          simp only [askedPlace?, Option.ite_none_left_eq_some, Option.some.injEq, Prod.ext_iff,
            Bool.or_eq_true, List.isEmpty_iff, decide_eq_true_eq, not_or, Int.not_le]
          constructor
          · rintro ⟨asks, rfl, rfl⟩
            exact ⟨rfl, rfl, asks⟩
          · rintro ⟨rfl, rfl, asks⟩
            exact ⟨asks, rfl, rfl⟩

namespace PositionMap

variable {map : PositionMap} {diff : Diff} {asked : List Text} {path other : Text}

/-! ## One question -/

theorem diff_positionsAt : (map.positionsAt path).2.diff = map.diff := by
  rw [positionsAt]
  cases Table.get? path map.known with
  | some positions => rfl
  | none => cases map.diff.survivorAt? path <;> rfl

/-- What is answered about a path is what is known of it afterwards. -/
theorem get?_known_positionsAt_self :
    Table.get? path (map.positionsAt path).2.known = (map.positionsAt path).1 := by
  rw [positionsAt]
  cases found : Table.get? path map.known with
  | some positions => exact found
  | none =>
      cases map.diff.survivorAt? path with
      | none => exact found
      | some file => exact Table.get?_put_self _ _ _

theorem get?_known_positionsAt_of_ne (different : other ≠ path) :
    Table.get? other (map.positionsAt path).2.known = Table.get? other map.known := by
  rw [positionsAt]
  cases Table.get? path map.known with
  | some positions => rfl
  | none =>
      cases map.diff.survivorAt? path with
      | none => rfl
      | some file => exact Table.get?_put_of_ne different _ _

/-- The map belongs to the diff, and of the files that were asked about it knows those that
survive. -/
structure Remembers (map : PositionMap) (diff : Diff) (asked : List Text) : Prop where
  /-- The diff never changes. -/
  diff_eq : map.diff = diff
  /-- The positions that are known under a path are those of the file that is found under it. -/
  get?_known : ∀ path, Table.get? path map.known =
    if path ∈ asked then (diff.survivorAt? path).map (·.positions) else none

theorem remembers_fresh (diff : Diff) : Remembers { diff } diff [] where
  diff_eq := rfl
  get?_known _ := rfl

/-- What is known of a file is what is found when it is looked up again. -/
theorem Remembers.positionsAt_fst (remembers : map.Remembers diff asked) (path : Text) :
    (map.positionsAt path).1 = (diff.survivorAt? path).map (·.positions) := by
  have known := remembers.get?_known path
  rw [positionsAt, remembers.diff_eq]
  cases found : Table.get? path map.known with
  | none => cases diff.survivorAt? path <;> rfl
  | some positions =>
      rw [found] at known
      split at known
      · exact known
      · contradiction

/-- Looking up a file adds its path to those that were asked about, and forgets nothing. -/
theorem Remembers.positionsAt_snd (remembers : map.Remembers diff asked) (path : Text) :
    (map.positionsAt path).2.Remembers diff (path :: asked) where
  diff_eq := diff_positionsAt.trans remembers.diff_eq
  get?_known other := by
    by_cases same : other = path
    · subst same
      rw [get?_known_positionsAt_self, remembers.positionsAt_fst, if_pos List.mem_cons_self]
    · have isAsked : other ∈ path :: asked ↔ other ∈ asked := by simp [same]
      rw [get?_known_positionsAt_of_ne same, remembers.get?_known, if_congr isAsked rfl rfl]

/-- The path of the file that a question asks about, when it asks about any. -/
def askedPath? (question : Option Text × Option Int) : Option Text :=
  (Diff.askedPlace? question.1 question.2).map (·.1)

/-- A question is answered from what is found, and not from what was asked before. -/
theorem Remembers.ask_fst (remembers : map.Remembers diff asked) (path : Option Text)
    (line : Option Int) : (map.ask path line).1 = diff.positionOf? path line := by
  rw [ask, Diff.positionOf?]
  cases Diff.askedPlace? path line with
  | none => rfl
  | some place =>
      obtain ⟨path, line⟩ := place
      simp only [remembers.positionsAt_fst path, Option.bind_map]
      rfl

theorem Remembers.ask_snd (remembers : map.Remembers diff asked) (path : Option Text)
    (line : Option Int) :
    (map.ask path line).2.Remembers diff ((askedPath? (path, line)).toList ++ asked) := by
  rw [ask, askedPath?]
  cases Diff.askedPlace? path line with
  | none => exact remembers
  | some place => exact remembers.positionsAt_snd place.1

/-! ## Runs of questions -/

/-- The map after a sequence of questions. -/
def after (map : PositionMap) (questions : List (Option Text × Option Int)) : PositionMap :=
  questions.foldl (fun map question => (map.ask question.1 question.2).2) map

theorem Remembers.after (remembers : map.Remembers diff asked)
    (questions : List (Option Text × Option Int)) :
    (map.after questions).Remembers diff
      ((questions.filterMap askedPath?).reverse ++ asked) := by
  induction questions generalizing map asked with
  | nil => exact remembers
  | cons question questions induct =>
      have next := induct (remembers.ask_snd question.1 question.2)
      cases isAsked : askedPath? question with
      | none => simpa [PositionMap.after, isAsked] using next
      | some path => simpa [PositionMap.after, isAsked] using next

theorem Remembers.askAll (remembers : map.Remembers diff asked)
    (questions : List (Option Text × Option Int)) :
    map.askAll questions =
      questions.map fun question => diff.positionOf? question.1 question.2 := by
  induction questions generalizing map asked with
  | nil => rfl
  | cons question questions induct =>
      have first := remembers.ask_fst question.1 question.2
      have others := induct (remembers.ask_snd question.1 question.2)
      rw [List.map_cons, ← first, ← others]
      rfl

/-- To every question in a sequence a map gives the answer that a map gives that was asked nothing
before.  What it remembers in the end are the positions of the surviving files that it was asked
about, under the paths under which they are found. -/
theorem remembering_changes_no_answer (diff : Diff)
    (questions : List (Option Text × Option Int)) :
    ∃ fresh, ofDiff (some diff) = .ok fresh ∧
      fresh.askAll questions =
        questions.map (fun question => (fresh.ask question.1 question.2).1) ∧
      questions.mapM (fun question => Diff.positionIn (some diff) question.1 question.2) =
        .ok (fresh.askAll questions) ∧
      ∀ path positions,
        Table.get? path (fresh.after questions).known = some positions ↔
          (path ≠ [] ∧ ∃ line, 0 < line ∧ (some path, some line) ∈ questions) ∧
            ∃ file, diff.fileAt? path = some file ∧ file.isDeleted = false ∧
              file.positions = positions := by
  have fresh := remembers_fresh diff
  refine ⟨{ diff }, rfl, ?_, ?_, fun path positions => ?_⟩
  · rw [fresh.askAll]
    exact List.map_congr_left fun question _ => (fresh.ask_fst question.1 question.2).symm
  · rw [fresh.askAll]
    exact mapM_eq_ok_map fun _ _ => rfl
  · have wasAsked : path ∈ (questions.filterMap askedPath?).reverse ++ [] ↔
        path ≠ [] ∧ ∃ line, 0 < line ∧ (some path, some line) ∈ questions := by
      simp only [List.append_nil, List.mem_reverse, List.mem_filterMap, askedPath?,
        Option.map_eq_some_iff, Diff.askedPlace?_eq_some_iff]
      constructor
      · rintro ⟨question, isQuestion, place, ⟨isPath, isLine, named, positive⟩, rfl⟩
        exact ⟨named, place.2, positive, isPath ▸ isLine ▸ isQuestion⟩
      · rintro ⟨named, line, positive, isQuestion⟩
        exact ⟨_, isQuestion, (path, line), ⟨rfl, rfl, named, positive⟩, rfl⟩
    rw [(fresh.after questions).get?_known, Option.ite_none_right_eq_some, wasAsked,
      Option.map_eq_some_iff]
    simp only [Diff.survivorAt?_eq_some_iff, and_assoc]

end PositionMap

end Marginalia
