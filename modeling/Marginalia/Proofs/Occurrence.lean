import Mathlib.Data.List.Induction
import Mathlib.Data.List.Nodup
import Mathlib.Tactic.Common

/-!
# First occurrences

What is left of a list without its repetitions stands in the order of first occurrence.
-/

namespace Marginalia

variable {Item : Type} [BEq Item] [LawfulBEq Item] {items : List Item} {item : Item}

/-- What comes again at the end is not counted again. -/
theorem eraseDups_concat_of_mem (present : item ∈ items) :
    (items ++ [item]).eraseDups = items.eraseDups := by
  rw [List.eraseDups_append]
  simp [List.removeAll, present]

theorem eraseDups_concat_of_notMem (absent : item ∉ items) :
    (items ++ [item]).eraseDups = items.eraseDups ++ [item] := by
  rw [List.eraseDups_append]
  simp [List.removeAll, absent, List.eraseDups_cons]

theorem nodup_eraseDups (items : List Item) : items.eraseDups.Nodup := by
  induction items using List.reverseRecOn with
  | nil => simp
  | append_singleton items item induct =>
      by_cases present : item ∈ items
      · rwa [eraseDups_concat_of_mem present]
      · rw [eraseDups_concat_of_notMem present, List.nodup_append]
        have apart : ∀ other ∈ items.eraseDups, ∀ last ∈ [item], other ≠ last := by
          rintro other isOther last isLast rfl
          exact present (List.mem_singleton.mp isLast ▸ List.mem_eraseDups.mp isOther)
        exact ⟨induct, List.nodup_singleton item, apart⟩

theorem eraseDups_of_nodup (distinct : items.Nodup) : items.eraseDups = items := by
  induction items using List.reverseRecOn with
  | nil => rfl
  | append_singleton items item induct =>
      obtain ⟨front, -, apart⟩ := List.nodup_append.mp distinct
      have absent : item ∉ items := fun present => apart item present item (by simp) rfl
      rw [eraseDups_concat_of_notMem absent, induct front]

/-- Repetitions may be left out of the ending before they are left out of the whole. -/
theorem eraseDups_append_eraseDups (front back : List Item) :
    (front ++ back.eraseDups).eraseDups = (front ++ back).eraseDups := by
  induction back using List.reverseRecOn with
  | nil => simp
  | append_singleton back item induct =>
      by_cases present : item ∈ back
      · rw [eraseDups_concat_of_mem present, induct, ← List.append_assoc,
          eraseDups_concat_of_mem (List.mem_append_right front present)]
      · rw [eraseDups_concat_of_notMem present, ← List.append_assoc, ← List.append_assoc]
        have same : item ∈ front ++ back.eraseDups ↔ item ∈ front ++ back := by simp
        by_cases known : item ∈ front ++ back
        · rw [eraseDups_concat_of_mem known, eraseDups_concat_of_mem (same.mpr known), induct]
        · rw [eraseDups_concat_of_notMem known, eraseDups_concat_of_notMem (mt same.mp known),
            induct]

/-- Repetitions may be left out of the beginning before they are left out of the whole. -/
theorem eraseDups_eraseDups_append (front back : List Item) :
    (front.eraseDups ++ back).eraseDups = (front ++ back).eraseDups := by
  have same : back.removeAll front.eraseDups = back.removeAll front := by
    simp [List.removeAll]
  rw [List.eraseDups_append, List.eraseDups_append, same,
    eraseDups_of_nodup (nodup_eraseDups front)]

/-- What is left out for another reason may be left out before or after the repetitions. -/
theorem eraseDups_filter (passes : Item → Bool) (items : List Item) :
    (items.filter passes).eraseDups = items.eraseDups.filter passes := by
  induction items using List.reverseRecOn with
  | nil => simp
  | append_singleton items item induct =>
      by_cases passing : passes item = true
      · have kept : (items ++ [item]).filter passes = items.filter passes ++ [item] := by
          simp [passing]
        by_cases present : item ∈ items
        · rw [kept, eraseDups_concat_of_mem (List.mem_filter.mpr ⟨present, passing⟩),
            eraseDups_concat_of_mem present, induct]
        · rw [kept, eraseDups_concat_of_notMem (mt List.mem_of_mem_filter present),
            eraseDups_concat_of_notMem present, induct]
          simp [passing]
      · have dropped : (items ++ [item]).filter passes = items.filter passes := by simp [passing]
        by_cases present : item ∈ items
        · rw [dropped, eraseDups_concat_of_mem present, induct]
        · rw [dropped, eraseDups_concat_of_notMem present, induct]
          simp [passing]

/-- Without repetitions, items stand in the order of first occurrence. -/
theorem pairwise_idxOf_eraseDups (items : List Item) :
    items.eraseDups.Pairwise fun former latter => items.idxOf former < items.idxOf latter := by
  induction items using List.reverseRecOn with
  | nil => simp
  | append_singleton items item induct =>
      have moved : items.eraseDups.Pairwise fun former latter =>
          (items ++ [item]).idxOf former < (items ++ [item]).idxOf latter := by
        refine induct.imp_of_mem fun isFormer isLatter earlier => ?_
        rwa [List.idxOf_append_of_mem (List.mem_eraseDups.mp isFormer),
          List.idxOf_append_of_mem (List.mem_eraseDups.mp isLatter)]
      by_cases present : item ∈ items
      · rwa [eraseDups_concat_of_mem present]
      · rw [eraseDups_concat_of_notMem present, List.pairwise_append]
        refine ⟨moved, List.pairwise_singleton _ _, fun former isFormer latter isLatter => ?_⟩
        obtain rfl := List.mem_singleton.mp isLatter
        have isKnown : former ∈ items := List.mem_eraseDups.mp isFormer
        calc
          (items ++ [latter]).idxOf former = items.idxOf former := List.idxOf_append_of_mem isKnown
          _ < items.length := List.idxOf_lt_length_of_mem isKnown
          _ = (items ++ [latter]).idxOf latter := by
            simp [List.idxOf_append_of_notMem present]

end Marginalia
