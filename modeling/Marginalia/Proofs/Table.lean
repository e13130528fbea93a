import Mathlib.Data.List.Nodup
import Mathlib.Tactic.Common
import Marginalia.Table

/-!
# Tables by their keys

A table without repeated keys is known by its keys, in order, and by what it answers to each of
them.
-/

namespace Marginalia

namespace Table

variable {Key Entry : Type}

/-- The keys of a table, in the order of first arrival. -/
def keys (table : Table Key Entry) : List Key := table.map (·.1)

@[simp]
theorem keys_nil : keys ([] : Table Key Entry) = [] := rfl

@[simp]
theorem keys_cons (entry : Key × Entry) (table : Table Key Entry) :
    keys (entry :: table) = entry.1 :: keys table := rfl

theorem nodup_keys_nil : (keys ([] : Table Key Entry)).Nodup := List.nodup_nil

variable [DecidableEq Key]

theorem get?_eq_none_iff (key : Key) (table : Table Key Entry) :
    get? key table = none ↔ key ∉ keys table := by
  induction table with
  | nil => simp [get?]
  | cons entry table induct =>
      by_cases same : entry.1 = key
      · simp [get?, same]
      · simp [get?, same, Ne.symm same, induct]

/-- Setting a key to the value that it has changes nothing. -/
theorem put_of_get?_eq_some {key : Key} {value : Entry} {table : Table Key Entry}
    (found : get? key table = some value) : put key value table = table := by
  induction table with
  | nil => simp [get?] at found
  | cons entry table induct =>
      obtain ⟨present, old⟩ := entry
      by_cases same : present = key
      · obtain rfl : old = value := by simpa [get?, same] using found
        simp [put, same]
      · simp [put, same, induct (by simpa [get?, same] using found)]

theorem put_of_notMem {key : Key} {table : Table Key Entry} (absent : key ∉ keys table)
    (value : Entry) : put key value table = table ++ [(key, value)] := by
  induction table with
  | nil => rfl
  | cons entry table induct =>
      obtain ⟨different, absent⟩ := not_or.mp (mt List.mem_cons.mpr absent)
      simp [put, Ne.symm different, induct absent]

/-- A key that is present gets its new value in its place. -/
theorem exists_put_eq_of_get?_eq_some {key : Key} {old : Entry} {table : Table Key Entry}
    (found : get? key table = some old) (value : Entry) :
    ∃ front back, table = front ++ (key, old) :: back ∧
      put key value table = front ++ (key, value) :: back := by
  induction table with
  | nil => simp [get?] at found
  | cons entry table induct =>
      obtain ⟨present, other⟩ := entry
      by_cases same : present = key
      · obtain rfl : other = old := by simpa [get?, same] using found
        exact ⟨[], table, by rw [same]; rfl, by simp [put, same]⟩
      · obtain ⟨front, back, rfl, isPut⟩ := induct (by simpa [get?, same] using found)
        exact ⟨(present, other) :: front, back, rfl, by simp [put, same, isPut]⟩

theorem keys_put (key : Key) (value : Entry) (table : Table Key Entry) :
    keys (put key value table) = if key ∈ keys table then keys table else keys table ++ [key] := by
  induction table with
  | nil => simp [put]
  | cons entry table induct =>
      by_cases same : entry.1 = key
      · simp [put, same]
      · simp only [put, if_neg same, keys_cons, induct, List.mem_cons, Ne.symm same, false_or]
        split <;> simp

/-- Where no key comes twice, a key has its value and no other. -/
theorem filter_key {table : Table Key Entry} (distinct : (keys table).Nodup) (key : Key) :
    table.filter (·.1 = key) = ((get? key table).map fun value => (key, value)).toList := by
  induction table with
  | nil => rfl
  | cons entry table induct =>
      obtain ⟨present, value⟩ := entry
      obtain ⟨fresh, distinct⟩ := List.nodup_cons.mp distinct
      by_cases same : present = key
      · subst same
        have none : get? present table = none := (get?_eq_none_iff present table).mpr fresh
        rw [List.filter_cons_of_pos (by simp), induct distinct, none]
        simp [get?]
      · rw [List.filter_cons_of_neg (by simpa using same), induct distinct, get?, if_neg same]

theorem get?_of_mem {key : Key} {value : Entry} {table : Table Key Entry}
    (distinct : (keys table).Nodup) (isEntry : (key, value) ∈ table) :
    get? key table = some value := by
  have filtered : (key, value) ∈ table.filter (·.1 = key) := by simpa using isEntry
  simpa [filter_key distinct] using filtered

theorem get?_eq_some_iff {key : Key} {value : Entry} {table : Table Key Entry}
    (distinct : (keys table).Nodup) : get? key table = some value ↔ (key, value) ∈ table := by
  refine ⟨fun found => ?_, get?_of_mem distinct⟩
  have filtered : (key, value) ∈ table.filter (·.1 = key) := by simp [filter_key distinct, found]
  exact List.mem_of_mem_filter filtered

/-- Setting distinct keys one after the other gives the table of them. -/
theorem foldl_put_of_nodup {table entries : Table Key Entry}
    (distinct : (keys (table ++ entries)).Nodup) :
    entries.foldl (fun table (key, value) => put key value table) table = table ++ entries := by
  induction entries generalizing table with
  | nil => simp
  | cons entry entries induct =>
      obtain ⟨key, value⟩ := entry
      have split : table ++ (key, value) :: entries = table ++ [(key, value)] ++ entries := by simp
      have absent : key ∉ keys table := by
        intro present
        rw [keys, List.map_append, List.nodup_append] at distinct
        exact distinct.2.2 key present key (by simp) rfl
      rw [split] at distinct ⊢
      simp only [List.foldl_cons, put_of_notMem absent]
      exact induct distinct

/-- Tables with the same keys and the same answers are the same. -/
theorem ext_of_get? {table other : Table Key Entry} (distinct : (keys table).Nodup)
    (sameKeys : keys table = keys other) (same : ∀ key, get? key table = get? key other) :
    table = other := by
  induction table generalizing other with
  | nil => simpa [keys] using sameKeys.symm
  | cons entry table induct =>
      obtain ⟨key, value⟩ := entry
      cases other with
      | nil => simp at sameKeys
      | cons head other =>
          obtain ⟨present, found⟩ := head
          obtain ⟨rfl, sameRest⟩ : key = present ∧ keys table = keys other :=
            List.cons.inj sameKeys
          obtain ⟨fresh, distinct⟩ := List.nodup_cons.mp distinct
          obtain rfl : value = found := by simpa [get?] using same key
          have rest : table = other := by
            refine induct distinct sameRest fun asked => ?_
            by_cases isKey : key = asked
            · subst isKey
              rw [(get?_eq_none_iff _ _).mpr fresh,
                (get?_eq_none_iff _ _).mpr (sameRest ▸ fresh)]
            · simpa [get?, isKey] using same asked
          rw [rest]

/-! ## Filing under keys -/

section

variable {Item : Type}

theorem filed_file_self (key : Key) (item : Item) (table : Table Key (List Item)) :
    filed key (file key item table) = filed key table ++ [item] := by
  rw [filed, file, get?_put_self, Option.getD_some, filed]

theorem filed_file_of_ne {key other : Key} (different : other ≠ key) (item : Item)
    (table : Table Key (List Item)) : filed other (file key item table) = filed other table := by
  rw [filed, file, get?_put_of_ne different, filed]

theorem filed_file [DecidableEq Item] (key other : Key) (item : Item)
    (table : Table Key (List Item)) :
    filed other (file key item table) =
      filed other table ++ if key = other then [item] else [] := by
  split
  · rename_i same
    rw [same, filed_file_self]
  · rename_i different
    rw [filed_file_of_ne (Ne.symm different), List.append_nil]

theorem nodup_keys_file {table : Table Key (List Item)} (distinct : (keys table).Nodup) (key : Key)
    (item : Item) : (keys (file key item table)).Nodup := by
  rw [file, keys_put]
  split
  · exact distinct
  · rename_i absent
    exact List.nodup_append'.mpr ⟨distinct, List.nodup_singleton key, by simpa using absent⟩

end

end Table

end Marginalia
