import Marginalia.Proofs.Number.Order
import Marginalia.Value.Basic

/-!
# Being the same key

Two values are the same key exactly when they have one form as keys: nothing, a text, an integer in
whatever kind of number it is written, or the place of another double.  So being the same key is
symmetric and transitive, collections alone are not the same key as themselves, and what a mapping
has under a key depends only on the form of that key.
-/

namespace Marginalia

namespace Value

variable {Foreign : Type}

/-! ## Forms of keys -/

/-- Doubles of one place are the same whole number, or neither is one. -/
theorem wholeNumber?_congr {left right : Float} (same : Number.rank? left = Number.rank? right) :
    (Value.decimal left : Value Foreign).wholeNumber? =
      (Value.decimal right : Value Foreign).wholeNumber? := by
  cases place : Number.rank? left with
  | none =>
      have leftNaN := Number.rank?_eq_none_iff.mp place
      have rightNaN := Number.rank?_eq_none_iff.mp (same ▸ place)
      rw [wholeNumber?, wholeNumber?, leftNaN, rightNaN, Bool.true_or, Bool.true_or, if_pos rfl,
        if_pos rfl]
  | some rank =>
      have ranked : Number.rank? right = some rank := same ▸ place
      have leftNumber : left.isNaN = false := by
        rw [← Bool.not_eq_true, ← Number.rank?_eq_none_iff, place]
        simp
      have rightNumber : right.isNaN = false := by
        rw [← Bool.not_eq_true, ← Number.rank?_eq_none_iff, ranked]
        simp
      have areSame := Number.areSame_of_rank? place ranked
      simp only [wholeNumber?, leftNumber, rightNumber, areSame.isInfinite_eq,
        areSame.truncate_eq, same]

/-- A double that is a whole number has the place of that number. -/
theorem rank?_of_wholeNumber? {number : Float} {whole : Int}
    (isWhole : (Value.decimal number : Value Foreign).wholeNumber? = some whole) :
    Number.rank? number = Number.rank? (Number.ofInteger whole) := by
  simp only [wholeNumber?] at isWhole
  split at isWhole
  · contradiction
  · simp only [Option.ite_none_right_eq_some, Option.some_inj] at isWhole
    obtain ⟨same, rfl⟩ := isWhole
    exact same.symm

/-- What a scalar is as a key. -/
inductive KeyForm where
  /-- Nothing. -/
  | null
  /-- A text. -/
  | text (content : Text)
  /-- A whole number, of whatever kind. -/
  | whole (number : Int)
  /-- Another double, by its place. -/
  | place (rank : Option Int)
  /-- A scalar of a further kind, by its name as a key. -/
  | foreign (name : Text)

variable [Scalar Foreign]

/-- The form of a key; collections have none. -/
def keyForm? : Value Foreign → Option KeyForm
  | .null => some .null
  | .text content => some (.text content)
  | .decimal number =>
      match (Value.decimal number : Value Foreign).wholeNumber? with
      | some whole => some (.whole whole)
      | none => some (.place (Number.rank? number))
  | .foreign scalar => (Scalar.keyName? scalar).map .foreign
  | value => value.wholeNumber?.map .whole

theorem keyForm?_eq_whole_iff {value : Value Foreign} {number : Int} :
    value.keyForm? = some (.whole number) ↔ value.wholeNumber? = some number := by
  cases value with
  | decimal number =>
      simp only [keyForm?]
      split <;> rename_i found <;> simp [found]
  | _ => simp [keyForm?, wholeNumber?]

theorem keyForm?_eq_null_iff {value : Value Foreign} :
    value.keyForm? = some .null ↔ value = .null := by
  cases value with
  | decimal number =>
      simp only [keyForm?]
      split <;> simp
  | _ => simp [keyForm?]

theorem keyForm?_eq_text_iff {value : Value Foreign} {content : Text} :
    value.keyForm? = some (.text content) ↔ value = .text content := by
  cases value with
  | decimal number =>
      simp only [keyForm?]
      split <;> simp
  | _ => simp [keyForm?]

theorem exists_decimal_of_keyForm? {value : Value Foreign} {rank : Option Int}
    (isPlace : value.keyForm? = some (.place rank)) : ∃ number, value = .decimal number := by
  cases value with
  | decimal number => exact ⟨number, rfl⟩
  | _ => simp [keyForm?] at isPlace

theorem exists_foreign_of_keyForm? {value : Value Foreign} {name : Text}
    (isForeign : value.keyForm? = some (.foreign name)) : ∃ scalar, value = .foreign scalar := by
  cases value with
  | decimal number =>
      simp only [keyForm?] at isForeign
      split at isForeign <;> simp at isForeign
  | foreign scalar => exact ⟨scalar, rfl⟩
  | _ => simp [keyForm?] at isForeign

theorem keyForm?_decimal_eq_iff {left right : Float} :
    (Value.decimal left : Value Foreign).keyForm? =
        (Value.decimal right : Value Foreign).keyForm? ↔
      Number.rank? left = Number.rank? right := by
  constructor
  · intro same
    simp only [keyForm?] at same
    split at same <;> rename_i foundLeft <;> split at same <;> rename_i foundRight
    · obtain rfl := KeyForm.whole.inj (Option.some.inj same)
      rw [rank?_of_wholeNumber? foundLeft, rank?_of_wholeNumber? foundRight]
    · cases Option.some.inj same
    · cases Option.some.inj same
    · exact KeyForm.place.inj (Option.some.inj same)
  · intro same
    simp only [keyForm?, wholeNumber?_congr same, same]

theorem exists_keyForm?_decimal (number : Float) :
    ∃ form, (Value.decimal number : Value Foreign).keyForm? = some form := by
  simp only [keyForm?]
  split <;> exact ⟨_, rfl⟩

/-- Being the same key is having one form. -/
theorem sameKey_iff (left right : Value Foreign) :
    left.sameKey right = true ↔
      ∃ form, left.keyForm? = some form ∧ right.keyForm? = some form := by
  fun_cases sameKey left right with
  | case1 => simp [keyForm?]
  | case2 left right => simp [keyForm?, eq_comm]
  | case3 left right =>
      obtain ⟨form, isForm⟩ := @exists_keyForm?_decimal Foreign _ left
      rw [decide_eq_true_eq, ← @keyForm?_decimal_eq_iff Foreign, isForm]
      simp [eq_comm]
  | case4 left right first second isFirst isSecond => simp [keyForm?, isFirst, isSecond, eq_comm]
  | case5 left right nameless =>
      refine iff_of_false Bool.false_ne_true fun ⟨form, isLeft, isRight⟩ => ?_
      obtain ⟨name, isName, rfl⟩ := Option.map_eq_some_iff.mp isLeft
      obtain ⟨other, isOther, -⟩ := Option.map_eq_some_iff.mp isRight
      exact nameless name other isName isOther
  | case6 left right _ _ _ _ first second leftWhole rightWhole =>
      rw [keyForm?_eq_whole_iff.mpr leftWhole, keyForm?_eq_whole_iff.mpr rightWhole]
      simp [eq_comm]
  | case7 left right notNull notText notDecimal notForeign notWhole =>
      refine iff_of_false Bool.false_ne_true fun ⟨form, isLeft, isRight⟩ => ?_
      cases form with
      | null => exact notNull (keyForm?_eq_null_iff.mp isLeft) (keyForm?_eq_null_iff.mp isRight)
      | text content =>
          exact notText _ _ (keyForm?_eq_text_iff.mp isLeft) (keyForm?_eq_text_iff.mp isRight)
      | whole number =>
          exact notWhole _ _ (keyForm?_eq_whole_iff.mp isLeft) (keyForm?_eq_whole_iff.mp isRight)
      | place rank =>
          obtain ⟨first, rfl⟩ := exists_decimal_of_keyForm? isLeft
          obtain ⟨second, rfl⟩ := exists_decimal_of_keyForm? isRight
          exact notDecimal _ _ rfl rfl
      | foreign name =>
          obtain ⟨first, rfl⟩ := exists_foreign_of_keyForm? isLeft
          obtain ⟨second, rfl⟩ := exists_foreign_of_keyForm? isRight
          exact notForeign _ _ rfl rfl

theorem sameKey_comm (left right : Value Foreign) : left.sameKey right = right.sameKey left := by
  rw [Bool.eq_iff_iff, sameKey_iff, sameKey_iff]
  exact exists_congr fun form => and_comm

/-- What is the same key as one of two keys that are the same is the same key as the other. -/
theorem sameKey_congr {left right : Value Foreign} (same : left.sameKey right = true)
    (other : Value Foreign) :
    left.sameKey other = right.sameKey other := by
  obtain ⟨form, isLeft, isRight⟩ := (sameKey_iff left right).mp same
  rw [Bool.eq_iff_iff, sameKey_iff, sameKey_iff, isLeft, isRight]

/-! ## What is found under a key -/

theorem lookup?_cons (asked key value : Value Foreign) (entries : Entries Foreign) :
    lookup? asked ((key, value) :: entries) =
      if key.sameKey asked then some value else lookup? asked entries := rfl

/-- What is found depends on the form of the key that is asked for only. -/
theorem lookup?_congr {asked other : Value Foreign} (same : asked.sameKey other = true)
    (entries : Entries Foreign) : lookup? asked entries = lookup? other entries := by
  induction entries with
  | nil => rfl
  | cons entry entries induct =>
      obtain ⟨key, value⟩ := entry
      rw [lookup?_cons, lookup?_cons, sameKey_comm key asked, sameKey_congr same,
        sameKey_comm other key, induct]

/-- Setting a key changes what is found under it and under no other. -/
theorem lookup?_put (asked key value : Value Foreign) (entries : Entries Foreign) :
    lookup? asked (put key value entries) =
      if key.sameKey asked then some value else lookup? asked entries := by
  induction entries with
  | nil => rfl
  | cons entry entries induct =>
      obtain ⟨present, old⟩ := entry
      rw [put]
      split
      · rename_i same
        rw [lookup?_cons, lookup?_cons, sameKey_congr same]
        split <;> rfl
      · rename_i different
        rw [lookup?_cons, lookup?_cons, induct]
        by_cases isKey : key.sameKey asked = true
        · have other : present.sameKey asked = false := by
            rw [sameKey_comm, ← sameKey_congr isKey, sameKey_comm]
            exact Bool.eq_false_iff.mpr different
          simp [isKey, other]
        · simp [isKey]

/-- Setting a key to what is found under it changes nothing. -/
theorem put_of_lookup? {key value : Value Foreign} {entries : Entries Foreign}
    (found : lookup? key entries = some value) : put key value entries = entries := by
  induction entries with
  | nil => contradiction
  | cons entry entries induct =>
      obtain ⟨present, old⟩ := entry
      rw [lookup?_cons] at found
      rw [put]
      split at found
      · rename_i same
        rw [if_pos same, Option.some.inj found]
      · rename_i different
        rw [if_neg different, induct found]

/-- What is found stands under a key that is the same. -/
theorem exists_mem_of_lookup? {asked value : Value Foreign} {entries : Entries Foreign}
    (found : lookup? asked entries = some value) :
    ∃ key, key.sameKey asked = true ∧ (key, value) ∈ entries := by
  induction entries with
  | nil => contradiction
  | cons entry entries induct =>
      obtain ⟨key, present⟩ := entry
      rw [lookup?_cons] at found
      split at found
      · rename_i same
        obtain rfl := Option.some.inj found
        exact ⟨key, same, List.mem_cons_self⟩
      · obtain ⟨other, same, isEntry⟩ := induct found
        exact ⟨other, same, List.mem_cons_of_mem _ isEntry⟩

end Value

end Marginalia
