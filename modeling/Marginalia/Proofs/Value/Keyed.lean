import Marginalia.Proofs.Value.SameKey

/-!
# Keys of mappings

A mapping has each key once.  Setting a key keeps that, and changes what is found under that key and
under no other; for keys that are texts, being the same key is being equal.
-/

namespace Marginalia

namespace Value

variable {Foreign : Type} [Scalar Foreign]

/-! ## Texts as keys -/

theorem sameKey_text_iff (value : Value Foreign) (name : Text) :
    value.sameKey (.text name) = true ↔ value = .text name := by
  cases value <;> simp [sameKey, wholeNumber?]

/-! ## Setting a key -/

theorem field?_put_of_ne {key : Value Foreign} {name : Text} (other : key ≠ .text name)
    (value : Value Foreign) (entries : Entries Foreign) :
    field? name (put key value entries) = field? name entries := by
  rw [field?, lookup?_put, if_neg (mt (sameKey_text_iff _ _).mp other), field?]

/-- An entry is as it was, or it has the value that was set. -/
theorem eq_or_mem_of_mem_put {key value : Value Foreign} {entries : Entries Foreign}
    {entry : Value Foreign × Value Foreign} (isEntry : entry ∈ put key value entries) :
    entry.2 = value ∨ entry ∈ entries := by
  induction entries with
  | nil => exact .inl (by simp_all [put])
  | cons head entries induct =>
      obtain ⟨present, old⟩ := head
      rw [put] at isEntry
      split at isEntry
      · rcases List.mem_cons.mp isEntry with rfl | isRest
        · exact .inl rfl
        · exact .inr (List.mem_cons_of_mem _ isRest)
      · rcases List.mem_cons.mp isEntry with rfl | isRest
        · exact .inr List.mem_cons_self
        · exact (induct isRest).imp_right (List.mem_cons_of_mem _)

/-- A key is one that was there, or it is the one that was set. -/
theorem key_of_mem_put {key value : Value Foreign} {entries : Entries Foreign}
    {entry : Value Foreign × Value Foreign} (isEntry : entry ∈ put key value entries) :
    entry.1 = key ∨ ∃ former ∈ entries, former.1 = entry.1 := by
  induction entries with
  | nil => exact .inl (by simp_all [put])
  | cons head entries induct =>
      obtain ⟨present, old⟩ := head
      rw [put] at isEntry
      split at isEntry
      · rcases List.mem_cons.mp isEntry with rfl | isRest
        · exact .inr ⟨_, List.mem_cons_self, rfl⟩
        · exact .inr ⟨_, List.mem_cons_of_mem _ isRest, rfl⟩
      · rcases List.mem_cons.mp isEntry with rfl | isRest
        · exact .inr ⟨_, List.mem_cons_self, rfl⟩
        · rcases induct isRest with same | ⟨former, isFormer, same⟩
          · exact .inl same
          · exact .inr ⟨former, List.mem_cons_of_mem _ isFormer, same⟩

/-! ## Distinct keys -/

/-- No key comes twice. -/
def DistinctKeys (entries : Entries Foreign) : Prop :=
  entries.Pairwise fun former latter => former.1.sameKey latter.1 = false

theorem DistinctKeys.put {entries : Entries Foreign} (distinct : DistinctKeys entries)
    (key value : Value Foreign) : DistinctKeys (put key value entries) := by
  induction entries with
  | nil => exact List.pairwise_singleton _ _
  | cons head entries induct =>
      obtain ⟨present, old⟩ := head
      obtain ⟨fresh, distinct⟩ := List.pairwise_cons.mp distinct
      rw [Value.put]
      split
      · exact List.pairwise_cons.mpr ⟨fresh, distinct⟩
      · rename_i other
        refine List.pairwise_cons.mpr ⟨fun entry isEntry => ?_, induct distinct⟩
        rcases key_of_mem_put isEntry with same | ⟨former, isFormer, same⟩
        · rw [same]
          exact Bool.eq_false_iff.mpr other
        · rw [← same]
          exact fresh former isFormer

/-- Under distinct keys, the key of the first entry is not found again. -/
theorem DistinctKeys.lookup?_eq_none {key value : Value Foreign} {entries : Entries Foreign}
    (distinct : DistinctKeys ((key, value) :: entries)) : lookup? key entries = none := by
  obtain ⟨fresh, -⟩ := List.pairwise_cons.mp distinct
  refine Option.eq_none_iff_forall_ne_some.mpr fun other found => ?_
  obtain ⟨present, same, isEntry⟩ := exists_mem_of_lookup? found
  have different : key.sameKey present = false := fresh _ isEntry
  rw [sameKey_comm, same] at different
  contradiction

/-- Under distinct keys, an entry is found under its key, unless that is no scalar. -/
theorem DistinctKeys.lookup?_of_mem {key value : Value Foreign} {entries : Entries Foreign}
    (distinct : DistinctKeys entries) (scalar : key.sameKey key = true)
    (isEntry : (key, value) ∈ entries) : lookup? key entries = some value := by
  induction entries with
  | nil => contradiction
  | cons entry entries induct =>
      obtain ⟨present, other⟩ := entry
      obtain ⟨fresh, distinct⟩ := List.pairwise_cons.mp distinct
      rw [lookup?_cons]
      rcases List.mem_cons.mp isEntry with same | isEntry
      · obtain ⟨rfl, rfl⟩ := Prod.mk.inj same
        rw [if_pos scalar]
      · rw [if_neg (Bool.eq_false_iff.mp (fresh _ isEntry)), induct distinct isEntry]

/-- A value in which no mapping has a key twice. -/
inductive IsKeyed : Value Foreign → Prop where
  | null : IsKeyed .null
  | bool (truth : Bool) : IsKeyed (.bool truth)
  | integer (number : Int) : IsKeyed (.integer number)
  | decimal (number : Float) : IsKeyed (.decimal number)
  | text (content : Text) : IsKeyed (.text content)
  | list {items : List (Value Foreign)} (keyed : ∀ item ∈ items, IsKeyed item) :
      IsKeyed (.list items)
  | mapping {entries : Entries Foreign} (distinct : DistinctKeys entries)
      (keyed : ∀ entry ∈ entries, IsKeyed entry.2) : IsKeyed (.mapping entries)
  | foreign (scalar : Foreign) : IsKeyed (.foreign scalar)

theorem isKeyed_list_iff (items : List (Value Foreign)) :
    IsKeyed (.list items) ↔ ∀ item ∈ items, item.IsKeyed := by
  constructor
  · rintro (_ | _ | _ | _ | _ | keyed)
    exact keyed
  · exact .list

theorem isKeyed_mapping_iff (entries : Entries Foreign) :
    IsKeyed (.mapping entries) ↔ DistinctKeys entries ∧ ∀ entry ∈ entries, entry.2.IsKeyed := by
  constructor
  · rintro (_ | _ | _ | _ | _ | _ | ⟨distinct, keyed⟩)
    exact ⟨distinct, keyed⟩
  · exact fun ⟨distinct, keyed⟩ => .mapping distinct keyed

/-- A mapping without entries has no key twice. -/
theorem isKeyed_nil : IsKeyed (.mapping [] : Value Foreign) :=
  .mapping .nil (by simp)

theorem IsKeyed.of_lookup? {key value : Value Foreign} {entries : Entries Foreign}
    (keyed : IsKeyed (.mapping entries)) (found : lookup? key entries = some value) :
    value.IsKeyed := by
  obtain ⟨present, -, isEntry⟩ := exists_mem_of_lookup? found
  exact ((isKeyed_mapping_iff entries).mp keyed).2 _ isEntry

theorem IsKeyed.put {entries : Entries Foreign} {value : Value Foreign}
    (keyed : IsKeyed (.mapping entries)) (key : Value Foreign) (valueKeyed : value.IsKeyed) :
    IsKeyed (.mapping (Value.put key value entries)) := by
  obtain ⟨distinct, keyed⟩ := (isKeyed_mapping_iff entries).mp keyed
  refine .mapping (distinct.put key value) fun entry isEntry => ?_
  rcases eq_or_mem_of_mem_put isEntry with same | isFormer
  · rw [same]
    exact valueKeyed
  · exact keyed entry isFormer

end Value

end Marginalia
