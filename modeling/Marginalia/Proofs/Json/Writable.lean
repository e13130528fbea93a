import Mathlib.Tactic.Common
import Marginalia.Proofs.Json.Nesting
import Marginalia.Proofs.Text.Numeral
import Marginalia.Proofs.Value.Keyed

/-!
# What is read can be written

No integer in a JSON text has more digits than are written, so a value that was read can be written
again, and so can every part of it.
-/

namespace Marginalia

namespace Value

variable {Foreign : Type} [Scalar Foreign]

theorem areWritable_iff {items : List (Value Foreign)} :
    areWritable items = true ↔ ∀ item ∈ items, item.isWritable = true := by
  induction items with
  | nil => simp [areWritable]
  | cons item items induct => rw [areWritable, Bool.and_eq_true, induct, List.forall_mem_cons]

theorem haveWritable_iff {entries : Entries Foreign} :
    haveWritable entries = true ↔
      ∀ entry ∈ entries, entry.1.isWritable = true ∧ entry.2.isWritable = true := by
  induction entries with
  | nil => simp [haveWritable]
  | cons entry entries induct =>
      rw [haveWritable, Bool.and_eq_true, Bool.and_eq_true, induct, List.forall_mem_cons]

/-- Setting a key to what can be written leaves entries that can be. -/
theorem haveWritable_put {key value : Value Foreign} {entries : Entries Foreign}
    (isKey : key.isWritable = true) (isValue : value.isWritable = true)
    (writable : haveWritable entries = true) : haveWritable (put key value entries) = true := by
  rw [haveWritable_iff] at writable ⊢
  intro entry isEntry
  constructor
  · rcases key_of_mem_put isEntry with same | ⟨former, isFormer, same⟩
    · rwa [same]
    · rw [← same]
      exact (writable former isFormer).1
  · rcases eq_or_mem_of_mem_put isEntry with same | isFormer
    · rwa [same]
    · exact (writable entry isFormer).2

theorem isWritable_of_field? {name : Text} {value : Value Foreign} {entries : Entries Foreign}
    (writable : haveWritable entries = true) (found : field? name entries = some value) :
    value.isWritable = true := by
  obtain ⟨key, -, isEntry⟩ := exists_mem_of_lookup? found
  exact (haveWritable_iff.mp writable _ isEntry).2

end Value

namespace Json

/-- A reader that gives only what can be written. -/
def GivesWritable (reader : Text → Partial Value) : Prop :=
  ∀ {text rest : Text} {value : Value}, reader text = .ok (value, rest) → value.isWritable = true

variable {text rest : Text} {value : Value}

namespace GivesWritable

variable {reader : Text → Partial Value} {bound : Nat}

theorem members (writable : GivesWritable reader) {entries : List (Value × Value)}
    (before : Value.haveWritable entries = true)
    (isRead : readMembers reader bound entries text = .ok (value, rest)) :
    value.isWritable = true := by
  induction bound generalizing entries text with
  | zero => cases isRead
  | succ bound induct =>
      obtain ⟨_, name, _, _, member, _, rfl, -, -, isMember, next⟩ :=
        readMembers_succ_eq_ok_iff.mp isRead
      have now : Value.haveWritable (Value.put (.text name) member entries) = true :=
        Value.haveWritable_put rfl (writable isMember) before
      obtain ⟨-, rfl⟩ | ⟨_, -, isRest⟩ := next
      · exact now
      · exact induct now isRest

theorem items (writable : GivesWritable reader) {items : List Value}
    (before : Value.areWritable items = true)
    (isRead : readItems reader bound items text = .ok (value, rest)) :
    value.isWritable = true := by
  induction bound generalizing items text with
  | zero => cases isRead
  | succ bound induct =>
      obtain ⟨item, _, isItem, next⟩ := readItems_succ_eq_ok_iff.mp isRead
      have now : Value.areWritable (item :: items) = true := by
        rw [Value.areWritable, writable isItem, before, Bool.and_self]
      obtain ⟨-, rfl⟩ | ⟨_, -, isRest⟩ := next
      · rw [Value.isWritable, Value.areWritable_iff]
        exact fun other isIn => Value.areWritable_iff.mp now other (List.mem_reverse.mp isIn)
      · exact induct now isRest

end GivesWritable

/-- The figures of a number are decimal digits. -/
theorem isDigit_of_integerPart? {whole : Text} (split : integerPart? text = some (whole, rest)) :
    ∀ char ∈ whole, char.isDigit = true := by
  rw [integerPart?.eq_def] at split
  split at split
  · obtain ⟨rfl, -⟩ := Prod.mk.inj (Option.some.inj split)
    simp [Char.isDigit]
  · split at split
    · cases split
    · obtain ⟨rfl, -⟩ := Prod.mk.inj (Option.some.inj split)
      exact fun char isIn => List.mem_takeWhile_imp isIn

/-- A number that is read has not too many digits, or is no integer. -/
theorem isWritable_of_numeral? {numeral : Numeral} (split : numeral? text = some (numeral, rest))
    (isValue : numeral.value = .ok value) : value.isWritable = true := by
  obtain ⟨⟨whole, left⟩, isWhole, made⟩ := Option.map_eq_some_iff.mp split
  have sameWhole : numeral.whole = whole := by
    simp only at made
    split at made <;> obtain ⟨rfl, -⟩ := Prod.mk.inj made <;> rfl
  have small : ∀ digit ∈ numeral.whole.map fun char => char.toNat - 48, digit < 10 := by
    rw [sameWhole, List.forall_mem_map]
    intro char isIn
    have bounds := Char.isDigit_iff_toNat.mp (isDigit_of_integerPart? isWhole char isIn)
    simp only [Char.reduceToNat] at bounds
    omega
  rw [Numeral.value.eq_def] at isValue
  simp only at isValue
  split at isValue
  · obtain rfl := Except.ok.inj isValue
    rfl
  · split at isValue
    · split at isValue
      · cases isValue
      · rename_i short
        obtain rfl := Except.ok.inj isValue
        have size := Text.ofDigits_lt _ small
        rw [List.length_map] at size
        have bound : 10 ^ numeral.whole.length ≤ 10 ^ Text.digitLimit :=
          Nat.pow_le_pow_right (by decide) (Nat.not_lt.mp short)
        rw [Value.isWritable, Text.isWritable_iff_isReadable, Text.isReadable_iff_natAbs_lt]
        cases numeral.negative <;> simp <;> omega
    · obtain rfl := Except.ok.inj isValue
      rfl

theorem givesWritable_readScalar : GivesWritable readScalar := by
  intro text rest value isRead
  cases found : word? text with
  | some result =>
      obtain ⟨word, isWord, rfl⟩ := exists_word_of_word? found
      rw [readScalar_word isWord] at isRead
      obtain ⟨rfl, -⟩ := Prod.mk.inj (Except.ok.inj isRead)
      have all : ∀ entry ∈ words, entry.2.isWritable = true := by
        simp [words, Value.isWritable]
      exact all _ isWord
  | none =>
      rw [readScalar_of_word?_eq_none found, readNumber?_eq] at isRead
      cases split : numeral? text with
      | none => simp [split] at isRead
      | some result =>
          obtain ⟨numeral, left⟩ := result
          rw [split] at isRead
          obtain ⟨_, isValue, same⟩ := map_eq_ok_iff.mp isRead
          obtain ⟨rfl, -⟩ := Prod.mk.inj same
          exact isWritable_of_numeral? split isValue

/-- Whatever is read can be written. -/
theorem givesWritable_readValue (nesting : Nat) : GivesWritable (readValue nesting) := by
  induction nesting using Nat.strongRecOn with
  | ind nesting induct =>
      intro text rest value isRead
      obtain ⟨_, content, rfl, -, rfl⟩ | ⟨depth, inner, rfl, rfl, made⟩ |
        ⟨depth, inner, rfl, rfl, made⟩ | ⟨-, isScalar⟩ := readValue_eq_ok_iff.mp isRead
      · rfl
      · obtain ⟨-, rfl⟩ | isMembers := made
        · rfl
        · exact GivesWritable.members (induct depth (Nat.lt_succ_self depth)) rfl isMembers
      · obtain ⟨-, rfl⟩ | isItems := made
        · rfl
        · exact GivesWritable.items (induct depth (Nat.lt_succ_self depth)) rfl isItems
      · exact givesWritable_readScalar isScalar

/-- A value that was read from a text can be written. -/
theorem isWritable_of_read {nesting : Nat} (isRead : read text nesting = .ok value) :
    value.isWritable = true := by
  rw [read.eq_def] at isRead
  split at isRead
  · cases isRead
  · obtain ⟨⟨found, left⟩, isValue, made⟩ := bind_eq_ok_iff.mp isRead
    simp only at made
    split at made
    · obtain rfl := Except.ok.inj made
      exact givesWritable_readValue nesting isValue
    · cases made

end Json

end Marginalia
