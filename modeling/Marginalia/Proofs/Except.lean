import Mathlib.Data.List.Forall2
import Mathlib.Tactic.Common

/-!
# Runs that may fail

A run of several steps gives a result exactly when every step does.
-/

namespace Marginalia

variable {Fault Other Middle Result : Type}

instance decidableSucceeds (run : Except Fault Result) : Decidable (∃ result, run = .ok result) :=
  match run with
  | .ok result => isTrue ⟨result, rfl⟩
  | .error _ => isFalse nofun

theorem bind_eq_ok_iff {run : Except Fault Middle} {next : Middle → Except Fault Result}
    {result : Result} :
    run >>= next = .ok result ↔ ∃ middle, run = .ok middle ∧ next middle = .ok result := by
  cases run <;> simp [bind, Except.bind]

theorem bind_pure_eq_map (run : Except Fault Middle) (view : Middle → Result) :
    (run >>= fun middle => pure (view middle)) = run.map view := by
  cases run <;> rfl

/-- What is made of a result afterwards cannot fail. -/
theorem exists_bind_pure_eq_ok_iff {run : Except Fault Middle} {view : Middle → Result} :
    (∃ result, (run >>= fun middle => pure (view middle)) = .ok result) ↔
      ∃ middle, run = .ok middle := by
  cases run <;> simp [bind, Except.bind, pure, Except.pure]

theorem map_eq_ok_iff {run : Except Fault Middle} {view : Middle → Result} {result : Result} :
    run.map view = .ok result ↔ ∃ middle, run = .ok middle ∧ view middle = result := by
  cases run <;> simp [Except.map]

theorem exists_map_eq_ok_iff {run : Except Fault Middle} {view : Middle → Result} :
    (∃ result, run.map view = .ok result) ↔ ∃ middle, run = .ok middle := by
  cases run <;> simp [Except.map]

theorem mapError_eq_ok_iff {run : Except Fault Result} {view : Fault → Other} {result : Result} :
    run.mapError view = .ok result ↔ run = .ok result := by
  cases run <;> simp [Except.mapError]

theorem mapError_map (run : Except Fault Middle) (view : Middle → Result) (cause : Fault → Other) :
    (run.map view).mapError cause = (run.mapError cause).map view := by
  cases run <;> rfl

/-- What is seen of a result that was computed is seen of the result. -/
theorem exists_of_toOption_map {run : Except Fault Middle} {view : Middle → Result}
    {result : Result} (seen : run.toOption.map view = some result) :
    ∃ middle, run = .ok middle ∧ view middle = result := by
  cases run with
  | error fault => contradiction
  | ok middle => exact ⟨middle, rfl, Option.some.inj seen⟩

/-- The results of several steps are what the steps give. -/
theorem mem_iff_of_mapM_eq_ok {step : Middle → Except Fault Result} {items : List Middle}
    {results : List Result} (found : items.mapM step = .ok results) (result : Result) :
    result ∈ results ↔ ∃ item ∈ items, step item = .ok result := by
  induction items generalizing results with
  | nil =>
      obtain rfl : [] = results := Except.ok.inj found
      simp
  | cons item items induct =>
      rw [List.mapM_cons] at found
      obtain ⟨first, isFirst, rest⟩ := bind_eq_ok_iff.mp found
      obtain ⟨others, areOthers, last⟩ := bind_eq_ok_iff.mp rest
      obtain rfl := Except.ok.inj last
      simp only [List.mem_cons, or_and_right, exists_or, exists_eq_left]
      rw [isFirst, Except.ok.injEq, induct areOthers, eq_comm]

/-- Each of several items gives one of the results, in order. -/
theorem mapM_eq_ok_iff_forall₂ {step : Middle → Except Fault Result} {items : List Middle}
    {results : List Result} :
    items.mapM step = .ok results ↔
      List.Forall₂ (fun item result => step item = .ok result) items results := by
  induction items generalizing results with
  | nil =>
      rw [List.forall₂_nil_left_iff, List.mapM_nil]
      exact ⟨fun found => (Except.ok.inj found).symm, fun none => none ▸ rfl⟩
  | cons item items induct =>
      rw [List.mapM_cons, List.forall₂_cons_left_iff]
      constructor
      · intro found
        obtain ⟨first, isFirst, rest⟩ := bind_eq_ok_iff.mp found
        obtain ⟨others, areOthers, last⟩ := bind_eq_ok_iff.mp rest
        exact ⟨first, others, isFirst, induct.mp areOthers, (Except.ok.inj last).symm⟩
      · rintro ⟨first, others, isFirst, areOthers, rfl⟩
        rw [isFirst, induct.mpr areOthers]
        rfl

/-- What is seen of the results, one after the other, is what is seen of the items. -/
theorem flatMap_eq_of_mapM_eq_ok {Item : Type} {step : Middle → Except Fault Result}
    {items : List Middle} {results : List Result} {view : Result → List Item}
    {source : Middle → List Item} (found : items.mapM step = .ok results)
    (seen : ∀ item result, step item = .ok result → view result = source item) :
    results.flatMap view = items.flatMap source := by
  rw [mapM_eq_ok_iff_forall₂] at found
  induction found with
  | nil => rfl
  | cons isFirst _ induct => rw [List.flatMap_cons, List.flatMap_cons, seen _ _ isFirst, induct]

/-- Steps whose results are known give these results. -/
theorem mapM_eq_ok_map {step : Middle → Except Fault Result} {view : Middle → Result}
    {items : List Middle} (steps : ∀ item ∈ items, step item = .ok (view item)) :
    items.mapM step = .ok (items.map view) := by
  induction items with
  | nil => rfl
  | cons item items induct =>
      obtain ⟨first, others⟩ := List.forall_mem_cons.mp steps
      rw [List.mapM_cons, first, induct others]
      rfl

/-- Several steps succeed when each of them does. -/
theorem exists_mapM_eq_ok_iff {step : Middle → Except Fault Result} {items : List Middle} :
    (∃ results, items.mapM step = .ok results) ↔
      ∀ item ∈ items, ∃ result, step item = .ok result := by
  induction items with
  | nil => exact iff_of_true ⟨[], rfl⟩ (by simp)
  | cons item items induct =>
      rw [List.mapM_cons, List.forall_mem_cons, ← induct]
      cases step item <;> cases items.mapM step <;> simp [bind, Except.bind, pure, Except.pure]

/-- Steps in groups, group after group, give together what they give in one row. -/
theorem flatten_mapM_flatMap {Item : Type} {step : Middle → Except Fault (List Result)}
    (parts : Item → List Middle) (items : List Item) :
    (items.mapM fun item => ((parts item).mapM step).map List.flatten).map List.flatten =
      ((items.flatMap parts).mapM step).map List.flatten := by
  induction items with
  | nil => rfl
  | cons item items induct =>
      rw [List.mapM_cons, List.flatMap_cons, List.mapM_append]
      cases (parts item).mapM step with
      | error fault => rfl
      | ok first =>
          -- The groups behind the first one give what they give in one row, or fail alike.
          cases grouped : items.mapM fun item => ((parts item).mapM step).map List.flatten <;>
            cases inRow : (items.flatMap parts).mapM step <;>
            simp_all [bind, Except.bind, pure, Except.pure, Except.map]

/-- Several steps fail with the fault of the first one that does. -/
theorem mapM_eq_error_iff {step : Middle → Except Fault Result} {items : List Middle}
    {fault : Fault} :
    items.mapM step = .error fault ↔
      ∃ front item back, items = front ++ item :: back ∧
        (∀ former ∈ front, ∃ result, step former = .ok result) ∧ step item = .error fault := by
  constructor
  · intro failed
    induction items with
    | nil => cases failed
    | cons first items induct =>
        rw [List.mapM_cons] at failed
        cases stepped : step first with
        | error cause =>
            rw [stepped] at failed
            obtain rfl : cause = fault := Except.error.inj failed
            exact ⟨[], first, items, rfl, by simp, stepped⟩
        | ok result =>
            rw [stepped] at failed
            cases later : items.mapM step with
            | ok results =>
                rw [later] at failed
                cases failed
            | error cause =>
                rw [later] at failed
                obtain rfl : cause = fault := Except.error.inj failed
                obtain ⟨front, item, back, rfl, passed, failing⟩ := induct later
                exact ⟨first :: front, item, back, rfl,
                  List.forall_mem_cons.mpr ⟨⟨result, stepped⟩, passed⟩, failing⟩
  · rintro ⟨front, item, back, rfl, passed, failing⟩
    obtain ⟨results, done⟩ := exists_mapM_eq_ok_iff.mpr passed
    rw [List.mapM_append, done, List.mapM_cons, failing]
    rfl

end Marginalia
