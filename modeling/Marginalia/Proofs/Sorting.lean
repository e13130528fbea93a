import Mathlib.Data.List.Basic
import Mathlib.Tactic.Common

/-!
# Stable sorting

Sorting moves an item past others only where the order asks for it: items of one level, none of
which has to stand before another, keep their order.  Where the order leaves no choice, it does not
matter in which order the items were given.
-/

namespace Marginalia

variable {Item : Type} {mayPrecede : Item → Item → Bool}

/-- Items among which every order is allowed keep theirs. -/
theorem filter_mergeSort
    (trans : ∀ first second third, mayPrecede first second = true →
      mayPrecede second third = true → mayPrecede first third = true)
    (total : ∀ first second, (mayPrecede first second || mayPrecede second first) = true)
    {passes : Item → Bool}
    (level : ∀ former latter, passes former = true → passes latter = true →
      mayPrecede former latter = true) (items : List Item) :
    (items.mergeSort mayPrecede).filter passes = items.filter passes := by
  have sorted : (items.filter passes).Pairwise fun former latter =>
      mayPrecede former latter = true :=
    List.pairwise_of_forall_mem_list fun former isFormer latter isLatter =>
      level former latter (List.mem_filter.mp isFormer).2 (List.mem_filter.mp isLatter).2
  have kept : (items.filter passes).Sublist (items.mergeSort mayPrecede) :=
    List.sublist_mergeSort trans total sorted List.filter_sublist
  -- What passes before is a sublist of what passes afterwards, and of the same length.
  have within : (items.filter passes).Sublist ((items.mergeSort mayPrecede).filter passes) := by
    simpa only [List.filter_filter, Bool.and_self] using kept.filter passes
  have perm := (items.mergeSort_perm mayPrecede).filter passes
  exact (within.eq_of_length perm.length_eq.symm).symm

/-- Items of which any two have to stand in one order are sorted in one way. -/
theorem mergeSort_eq_of_perm
    (trans : ∀ first second third, mayPrecede first second = true →
      mayPrecede second third = true → mayPrecede first third = true)
    (total : ∀ first second, (mayPrecede first second || mayPrecede second first) = true)
    {items others : List Item} (perm : others.Perm items)
    (apart : ∀ former ∈ items, ∀ latter ∈ items, mayPrecede former latter = true →
      mayPrecede latter former = true → former = latter) :
    others.mergeSort mayPrecede = items.mergeSort mayPrecede := by
  have sorted := List.pairwise_mergeSort trans total items
  have sortedOthers := List.pairwise_mergeSort trans total others
  have samePerm : (others.mergeSort mayPrecede).Perm (items.mergeSort mayPrecede) :=
    (others.mergeSort_perm _).trans (perm.trans (items.mergeSort_perm _).symm)
  refine List.Perm.eq_of_pairwise (fun former latter isFormer isLatter => ?_) sortedOthers sorted
    samePerm
  exact apart former (perm.subset (List.mem_mergeSort.mp isFormer)) latter
    (List.mem_mergeSort.mp isLatter)

/-- What holds of an item and every later one holds after sorting of an item and every later one of
the same level. -/
theorem pairwise_mergeSort_level {Level : Type} [DecidableEq Level] {levelOf : Item → Level}
    {holds : Item → Item → Prop}
    (trans : ∀ first second third, mayPrecede first second = true →
      mayPrecede second third = true → mayPrecede first third = true)
    (total : ∀ first second, (mayPrecede first second || mayPrecede second first) = true)
    (level : ∀ former latter, levelOf former = levelOf latter → mayPrecede former latter = true)
    {items : List Item} (pairwise : items.Pairwise holds) :
    (items.mergeSort mayPrecede).Pairwise fun former latter =>
      mayPrecede former latter = true ∧
        (levelOf former = levelOf latter → holds former latter) := by
  have sorted := List.pairwise_mergeSort trans total items
  refine sorted.and (List.pairwise_iff_forall_sublist.mpr fun {former latter} inOrder same => ?_)
  have level : ∀ first second, decide (levelOf first = levelOf latter) = true →
      decide (levelOf second = levelOf latter) = true → mayPrecede first second = true := by
    intro first second isFirst isSecond
    exact level first second ((of_decide_eq_true isFirst).trans (of_decide_eq_true isSecond).symm)
  have kept :
      [former, latter].Sublist (items.filter fun item => levelOf item = levelOf latter) := by
    rw [← filter_mergeSort trans total level items]
    simpa [same] using inOrder.filter fun item => levelOf item = levelOf latter
  exact List.pairwise_iff_forall_sublist.mp pairwise (kept.trans List.filter_sublist)

end Marginalia
