import Mathlib.Data.List.Induction
import Mathlib.Tactic.Common
import Marginalia.Number.Total
import Marginalia.Proofs.Occurrence
import Marginalia.Proofs.Table

/-!
# Tallies

A tally has every item that occurs as a key, in the order of first occurrence, and under it how
often it occurs.  Tallies of several lists are added up to the tally of all lists in a row.
-/

namespace Marginalia

namespace Table

variable {Key : Type} [DecidableEq Key] [BEq Key] [LawfulBEq Key]

omit [BEq Key] [LawfulBEq Key] in
theorem tally_concat (items : List Key) (item : Key) :
    tally (items ++ [item]) = add item 1 (tally items) := by
  rw [tally, List.foldl_concat, tally]

theorem keys_tally (items : List Key) : keys (tally items) = items.eraseDups := by
  induction items using List.reverseRecOn with
  | nil => rfl
  | append_singleton items item induct =>
      rw [tally_concat, add, keys_put, induct]
      by_cases present : item ∈ items
      · rw [if_pos (List.mem_eraseDups.mpr present), eraseDups_concat_of_mem present]
      · rw [if_neg (mt List.mem_eraseDups.mp present), eraseDups_concat_of_notMem present]

theorem get?_tally (key : Key) (items : List Key) :
    get? key (tally items) = if key ∈ items then some (items.count key) else none := by
  induction items using List.reverseRecOn with
  | nil => rfl
  | append_singleton items item induct =>
      rw [tally_concat, add]
      by_cases same : key = item
      · subst same
        rw [get?_put_self, induct]
        by_cases present : key ∈ items
        · simp [present]
        · simp [present, List.count_eq_zero_of_not_mem present]
      · rw [get?_put_of_ne same, induct]
        simp [same, Ne.symm same]

theorem nodup_keys_tally (items : List Key) : (keys (tally items)).Nodup :=
  keys_tally items ▸ nodup_eraseDups items

omit [BEq Key] [LawfulBEq Key] in
theorem total_add (key : Key) (amount : Nat) (table : Table Key Nat) :
    total ((add key amount table).map (·.2)) = total (table.map (·.2)) + amount := by
  induction table with
  | nil => simp [add, put, get?]
  | cons entry table induct =>
      obtain ⟨present, count⟩ := entry
      by_cases same : present = key
      · simp [add, put, get?, same, Nat.add_right_comm]
      · rw [add] at induct
        simp only [add, put, get?, same, if_false, List.map_cons, total_cons, induct,
          Nat.add_assoc]

omit [BEq Key] [LawfulBEq Key] in
/-- The counts of a tally add up to the number of items. -/
theorem total_tally (items : List Key) : total ((tally items).map (·.2)) = items.length := by
  induction items using List.reverseRecOn with
  | nil => rfl
  | append_singleton items item induct =>
      rw [tally_concat, total_add, induct, List.length_append, List.length_singleton]

/-! ## Adding up tallies -/

omit [BEq Key] [LawfulBEq Key] in
theorem addAll_concat (more : Table Key Nat) (entry : Key × Nat) (table : Table Key Nat) :
    addAll (more ++ [entry]) table = add entry.1 entry.2 (addAll more table) := by
  rw [addAll, List.foldl_concat, addAll]

theorem keys_addAll (more : Table Key Nat) {table : Table Key Nat} (distinct : (keys table).Nodup) :
    keys (addAll more table) = (keys table ++ keys more).eraseDups := by
  induction more using List.reverseRecOn with
  | nil => simpa [addAll] using (eraseDups_of_nodup distinct).symm
  | append_singleton more entry induct =>
      have keysMore : keys (more ++ [entry]) = keys more ++ [entry.1] := by simp [keys]
      rw [addAll_concat, add, keys_put, induct, keysMore, ← List.append_assoc]
      by_cases known : entry.1 ∈ keys table ++ keys more
      · rw [if_pos (List.mem_eraseDups.mpr known), eraseDups_concat_of_mem known]
      · rw [if_neg (mt List.mem_eraseDups.mp known), eraseDups_concat_of_notMem known]

omit [BEq Key] [LawfulBEq Key] in
theorem get?_addAll {more : Table Key Nat} (distinct : (keys more).Nodup) (key : Key)
    (table : Table Key Nat) :
    get? key (addAll more table) =
      (get? key more).elim (get? key table)
        fun count => some ((get? key table).getD 0 + count) := by
  induction more generalizing table with
  | nil => rfl
  | cons entry more induct =>
      obtain ⟨present, count⟩ := entry
      obtain ⟨fresh, distinct⟩ := List.nodup_cons.mp distinct
      have rest : get? key (addAll ((present, count) :: more) table) =
          (get? key more).elim (get? key (add present count table)) fun further =>
            some ((get? key (add present count table)).getD 0 + further) :=
        induct distinct (add present count table)
      by_cases same : present = key
      · subst same
        rw [rest, (get?_eq_none_iff present more).mpr fresh, Option.elim_none, add, get?_put_self,
          get?, if_pos rfl, Option.elim_some]
      · rw [rest, add, get?_put_of_ne (Ne.symm same), get?, if_neg same]

/-- Two tallies are added up to the tally of all items. -/
theorem addAll_tally (front back : List Key) :
    addAll (tally back) (tally front) = tally (front ++ back) := by
  have keysEq : keys (addAll (tally back) (tally front)) = keys (tally (front ++ back)) := by
    rw [keys_addAll _ (nodup_keys_tally front), keys_tally, keys_tally, keys_tally,
      eraseDups_append_eraseDups, eraseDups_eraseDups_append]
  refine ext_of_get? (keysEq ▸ nodup_keys_tally (front ++ back)) keysEq fun key => ?_
  rw [get?_addAll (nodup_keys_tally back), get?_tally, get?_tally, get?_tally]
  rw [List.count_append]
  by_cases earlier : key ∈ front <;> by_cases later : key ∈ back <;>
    simp [earlier, later, List.count_eq_zero_of_not_mem]

end Table

end Marginalia
