import Mathlib.Data.List.Nodup
import Mathlib.Tactic.Common
import Marginalia.Proofs.Context.AllOrNothing
import Marginalia.Proofs.Sorting

/-!
# The order of registration

Strategies of distinct priorities are started in the order of their priorities, however they were
registered, and the list of allowed names is asked for nothing but whether a name is in it.  Two
orchestrators with the same strategies and the same allowed names therefore do the same.
-/

namespace Marginalia

variable {Call : Type}

namespace Orchestrator

variable {given others : List (Strategy Call)} {settings : ContextSettings} {names : List Text}

/-- The strategies that may look, and their order, do not depend on the order of registration. -/
theorem allowed_make_of_perm (apart : (given.map (·.priority)).Nodup) (perm : others.Perm given)
    (sameNames : ∀ name, name ∈ names ↔ name ∈ settings.strategies) :
    (make others { settings with strategies := names }).allowed =
      (make given settings).allowed := by
  have sorted : (others.mergeSort fun left right => left.priority ≤ right.priority) =
      given.mergeSort fun left right => left.priority ≤ right.priority := by
    refine mergeSort_eq_of_perm (by simp; omega) (by simp; omega) perm
      fun former isFormer latter isLatter earlier later => ?_
    have samePriority : former.priority = latter.priority :=
      Int.le_antisymm (of_decide_eq_true earlier) (of_decide_eq_true later)
    exact List.inj_on_of_nodup_map apart isFormer isLatter samePriority
  rw [allowed_make, allowed_make, sorted]
  exact List.filter_congr fun strategy _ => decide_eq_decide.mpr (sameNames strategy.name)

section

variable {one other : Orchestrator Call} (sameAllowed : other.allowed = one.allowed)
  (sameSettings : other.settings = { one.settings with strategies := other.settings.strategies })

include sameAllowed sameSettings

/-- Whether a change is skipped depends on the allowed names through the strategies that may look
only. -/
theorem skip?_congr (bundle : Bundle) : other.skip? bundle = one.skip? bundle := by
  rw [skip?, skip?, sameAllowed, sameSettings]

theorem runAll_congr (bundle : Bundle) : other.runAll bundle = one.runAll bundle := by
  have sameTime : limits other.settings = limits one.settings := by
    rw [sameSettings]
    rfl
  simp only [runAll, jobs, sameAllowed, sameTime]

theorem run_congr (bundle : Option Bundle) : other.run bundle = one.run bundle := by
  cases bundle with
  | none => rfl
  | some bundle =>
      simp only [run, skip?_congr sameAllowed sameSettings bundle,
        runAll_congr sameAllowed sameSettings bundle]

end

/-- Whatever the order in which strategies of distinct priorities were registered, and however the
allowed names are listed, the same changes are skipped, and a retrieval calls, starts and cancels in
the same order and comes to the same end. -/
theorem run_make_of_perm (apart : (given.map (·.priority)).Nodup) (perm : others.Perm given)
    (sameNames : ∀ name, name ∈ names ↔ name ∈ settings.strategies) :
    (∀ bundle, (make others { settings with strategies := names }).skip? bundle =
      (make given settings).skip? bundle) ∧
    ∀ bundle, (make others { settings with strategies := names }).run bundle =
      (make given settings).run bundle := by
  have sameAllowed := allowed_make_of_perm apart perm sameNames
  exact ⟨skip?_congr sameAllowed rfl, run_congr sameAllowed rfl⟩

/-- Strategies that fail, hang and return, in the order of their names. -/
def byNames : List (Strategy Empty) :=
  [atOnce ['a'] 30 (.failed (.collaborator ['a'])), atOnce ['b'] 20 .hanging,
    atOnce ['c'] 10 (.returned [])]

theorem run_make_of_perm_reversed :
    (byNames.map (·.priority)).Nodup ∧ byNames.reverse.Perm byNames ∧
      (∀ name, name ∈ [['b'], ['a'], ['d'], ['c'], ['a']] ↔ name ∈ allowing.strategies) ∧
      (make byNames.reverse
          { allowing with strategies := [['b'], ['a'], ['d'], ['c'], ['a']] }).run
            (some { diff := {} }) =
        (make byNames allowing).run (some { diff := {} }) := by
  have apart : (byNames.map (·.priority)).Nodup := by decide
  have perm : byNames.reverse.Perm byNames := byNames.reverse_perm
  have sameNames (name : Text) :
      name ∈ [['b'], ['a'], ['d'], ['c'], ['a']] ↔ name ∈ allowing.strategies := by
    simp only [allowing, List.mem_cons, List.not_mem_nil, or_false]
    tauto
  exact ⟨apart, perm, sameNames, (run_make_of_perm apart perm sameNames).2 _⟩

end Orchestrator

end Marginalia
