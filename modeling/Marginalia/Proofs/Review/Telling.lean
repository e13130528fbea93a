import Mathlib.Tactic.Common
import Marginalia.Proofs.Except
import Marginalia.Proofs.Json.Writable
import Marginalia.Proofs.Review.Acceptance
import Marginalia.Review.Placement

/-!
# Misplacements can be told

A misplacement names a line, and a line number of more than 4300 digits cannot be written.  Such a
number can be asked for, but it never comes out of a review that was read: the integers of a JSON
text are shorter, those of numerals are refused, and those of decimals are far smaller.
-/

namespace Marginalia

/-! ## Line numbers -/

namespace Number

theorem mantissa_ofBits_lt (bits : UInt64) : (Binary.ofBits bits).mantissa < 2 ^ 53 := by
  have fraction : (bits &&& 0xFFFFFFFFFFFFF).toNat ≤ 0xFFFFFFFFFFFFF := by
    rw [UInt64.toNat_and]
    exact Nat.and_le_right
  rw [Binary.ofBits]
  split
  · simp only
    omega
  · simp only [Nat.pow_eq]
    omega

theorem exponent_ofBits_le (bits : UInt64) : (Binary.ofBits bits).exponent ≤ 972 := by
  have exponent : ((bits >>> 52) &&& 0x7FF).toNat ≤ 0x7FF := by
    rw [UInt64.toNat_and]
    exact Nat.and_le_right
  rw [Binary.ofBits]
  split
  · simp
  · simp only
    omega

theorem mul_two_pow_lt {mantissa exponent width most digits : Nat} (small : mantissa < 2 ^ width)
    (atMost : exponent ≤ most) (fewer : width + most < digits) :
    mantissa * 2 ^ exponent < 10 ^ digits := by
  calc
    mantissa * 2 ^ exponent ≤ 2 ^ width * 2 ^ most :=
      Nat.mul_le_mul (Nat.le_of_lt small) (Nat.pow_le_pow_right Nat.two_pos atMost)
    _ = 2 ^ (width + most) := by rw [← Nat.pow_add]
    _ ≤ 10 ^ (width + most) := Nat.pow_le_pow_left (by decide) _
    _ < 10 ^ digits := Nat.pow_lt_pow_right (by decide) fewer

/-- What is left of a decimal without its fraction is far below what can be written. -/
theorem natAbs_truncate_lt (value : Float) : (truncate value).natAbs < 10 ^ Text.digitLimit := by
  have exponent : (Binary.ofBits value.toBits).exponent.toNat ≤ 972 :=
    Int.toNat_le.mpr (exponent_ofBits_le value.toBits)
  have size : (truncate value).natAbs ≤ (Binary.ofBits value.toBits).mantissa *
      2 ^ (Binary.ofBits value.toBits).exponent.toNat := by
    rw [truncate]
    split <;> simp only [Int.natAbs_neg, Int.natAbs_natCast] <;> exact Nat.div_le_self _ _
  exact Nat.lt_of_le_of_lt size
    (mul_two_pow_lt (mantissa_ofBits_lt value.toBits) exponent (by decide))

end Number

/-- The integer that a value stands for can be written if the value can. -/
theorem Value.isWritable_of_toInteger {value : Value} {number : Int}
    (writable : value.isWritable = true) (isNumber : value.toInteger = .ok number) :
    Text.isWritable number = true := by
  cases value with
  | bool truth =>
      obtain rfl := Except.ok.inj isNumber
      cases truth <;> decide
  | integer whole =>
      obtain rfl := Except.ok.inj isNumber
      exact writable
  | decimal decimal =>
      rw [toInteger] at isNumber
      split at isNumber
      · cases isNumber
      · split at isNumber
        · cases isNumber
        · obtain rfl := Except.ok.inj isNumber
          rw [Text.isWritable_iff_isReadable, Text.isReadable_iff_natAbs_lt]
          exact Number.natAbs_truncate_lt decimal
  | text content =>
      rw [toInteger] at isNumber
      split at isNumber
      · rename_i isRead
        obtain rfl := Except.ok.inj isNumber
        rw [Text.isWritable_iff_isReadable]
        exact Text.isReadable_of_readInteger isRead
      · cases isNumber
      · cases isNumber
  | foreign scalar => exact scalar.elim
  | _ => cases isNumber

/-- Whether the number of a line can be written, if there is one. -/
def IsTellable (line : Option Int) : Prop :=
  ∀ number ∈ line, Text.isWritable number = true

section

variable {entries : List (Value × Value)}

theorem Value.haveWritable_of_entries {value : Value} (writable : value.isWritable = true)
    (areEntries : value.entries = .ok entries) : Value.haveWritable entries = true := by
  cases value with
  | mapping => exact Except.ok.inj areEntries ▸ writable
  | _ => cases areEntries

theorem isWritable_of_firstField? {names : List String} {value : Value}
    (writable : Value.haveWritable entries = true)
    (found : firstField? names entries = some value) : value.isWritable = true := by
  obtain ⟨name, -, isField⟩ := List.exists_of_findSome?_eq_some found
  split at isField
  · cases isField
  · exact Value.isWritable_of_field? writable isField

theorem isTellable_of_readLineNumber {names : List String} {line : Option Int}
    (writable : Value.haveWritable entries = true)
    (isRead : readLineNumber (firstField? names entries) = .ok line) : IsTellable line := by
  cases found : firstField? names entries with
  | none =>
      rw [found] at isRead
      obtain rfl := Except.ok.inj isRead
      simp [IsTellable]
  | some value =>
      rw [found, readLineNumber] at isRead
      split at isRead
      · rename_i isNumber
        obtain rfl := Except.ok.inj isRead
        rintro _ ⟨⟩
        exact Value.isWritable_of_toInteger (isWritable_of_firstField? writable found) isNumber
      · cases isRead
      · obtain rfl := Except.ok.inj isRead
        simp [IsTellable]

end

theorem Issue.isTellable_of_ofValue {value : Value} {issue : Issue}
    (writable : value.isWritable = true) (isRead : ofValue value = .ok issue) :
    IsTellable issue.line := by
  obtain ⟨entries, areEntries, made⟩ := bind_eq_ok_iff.mp isRead
  obtain ⟨line, isLine, made⟩ := bind_eq_ok_iff.mp made
  obtain ⟨score, -, made⟩ := bind_eq_ok_iff.mp made
  obtain rfl := Except.ok.inj made
  exact isTellable_of_readLineNumber (Value.haveWritable_of_entries writable areEntries) isLine

theorem Note.isTellable_of_ofValue {value : Value} {note : Note}
    (writable : value.isWritable = true) (isRead : ofValue value = .ok note) :
    IsTellable note.line := by
  obtain ⟨entries, areEntries, made⟩ := bind_eq_ok_iff.mp isRead
  obtain ⟨line, isLine, made⟩ := bind_eq_ok_iff.mp made
  obtain rfl := Except.ok.inj made
  exact isTellable_of_readLineNumber (Value.haveWritable_of_entries writable areEntries) isLine

/-! ## Reviews -/

namespace Review

theorem areWritable_of_findings {key : Text} {found : Option Value} {items : List Value}
    (writable : ∀ value ∈ found, value.isWritable = true)
    (areItems : findings key found = .ok items) : ∀ item ∈ items, item.isWritable = true := by
  rw [findings.eq_def] at areItems
  split at areItems
  · obtain rfl := Except.ok.inj areItems
    simp
  · obtain rfl := Except.ok.inj areItems
    simp
  · split at areItems
    · cases areItems
    · obtain rfl := Except.ok.inj areItems
      exact Value.areWritable_iff.mp (writable _ rfl)
  · cases areItems

theorem exists_of_readAll {Finding : Type} {read : Value → Except Value.Fault Finding}
    {items : List Value} {findings : List Finding} (areRead : readAll read items = .ok findings)
    {finding : Finding} (isFinding : finding ∈ findings) :
    ∃ item ∈ items, read item = .ok finding := by
  rw [readAll] at areRead
  split at areRead
  · rename_i isRead
    obtain rfl := Except.ok.inj areRead
    exact (mem_iff_of_mapM_eq_ok isRead finding).mp isFinding
  · cases areRead

/-- The lines of a review can be told if the value can be written from which it was read. -/
theorem isTellable_of_ofValue {value : Value} {review : Review}
    (writable : value.isWritable = true) (isRead : ofValue value = .ok review) :
    (∀ issue ∈ review.issues, IsTellable issue.line) ∧
      ∀ note ∈ review.notes, IsTellable note.line := by
  cases value with
  | mapping entries =>
      obtain ⟨issueItems, areIssueItems, made⟩ := bind_eq_ok_iff.mp isRead
      obtain ⟨issues, areIssues, made⟩ := bind_eq_ok_iff.mp made
      obtain ⟨noteItems, areNoteItems, made⟩ := bind_eq_ok_iff.mp made
      obtain ⟨notes, areNotes, made⟩ := bind_eq_ok_iff.mp made
      obtain rfl := Except.ok.inj made
      constructor
      · intro issue isIssue
        obtain ⟨item, isItem, isRead⟩ := exists_of_readAll areIssues isIssue
        refine Issue.isTellable_of_ofValue (areWritable_of_findings ?_ areIssueItems item isItem)
          isRead
        exact fun value found => Value.isWritable_of_field? writable found
      · intro note isNote
        obtain ⟨item, isItem, isRead⟩ := exists_of_readAll areNotes isNote
        refine Note.isTellable_of_ofValue (areWritable_of_findings ?_ areNoteItems item isItem)
          isRead
        exact fun value found => isWritable_of_firstField? writable found
  | _ => cases isRead

theorem isWritable_of_readOr {otherwise : Json.Fault → Except Fault Value} {text : Text}
    {nesting : Nat} {value : Value} (isRead : readOr otherwise text nesting = .ok value)
    (writable : ∀ cause value, otherwise cause = .ok value → value.isWritable = true) :
    value.isWritable = true := by
  rw [readOr] at isRead
  split at isRead
  · rename_i found
    obtain rfl := Except.ok.inj isRead
    exact Json.isWritable_of_read found
  · cases isRead
  · cases isRead
  · exact writable _ _ isRead

/-- The value in the answer of a language model can be written. -/
theorem isWritable_of_document {raw : Option Text} {nesting : Nat} {value : Value}
    (isRead : document raw nesting = .ok value) : value.isWritable = true := by
  rw [document.eq_def] at isRead
  split at isRead
  · cases isRead
  · split at isRead
    · cases isRead
    · refine isWritable_of_readOr isRead fun cause found isFound => ?_
      rw [search] at isFound
      split at isFound
      · cases isFound
      · refine isWritable_of_readOr isFound fun _ _ refused => ?_
        cases refused

end Review

/-! ## Misplacements -/

/-- Why a line cannot carry a remark can be told if its number can. -/
theorem Diff.isWritable_of_misplacement? {diff : Option Diff} {path : Option Text}
    {line : Option Int} {problem : Misplacement} (tellable : IsTellable line)
    (found : misplacement? diff path line = some problem) : problem.isWritable = true := by
  cases problem with
  | badLine asked =>
      obtain rfl : asked = line := by
        cases diff <;> cases path <;> cases line <;> grind [misplacement?]
      cases asked with
      | none => rfl
      | some number => exact tellable number rfl
  | outside number name =>
      obtain rfl : line = some number := by
        cases diff <;> cases path <;> cases line <;> grind [misplacement?]
      exact tellable number rfl
  | _ => rfl

/-- Why findings of a review that was read cannot go inline can always be told. -/
theorem Review.isWritable_misplacement {raw : Option Text} {nesting : Nat} {review : Review}
    (isRead : read raw nesting = .ok review) (diff : Option Diff) :
    (∀ issue ∈ review.issues, ∀ problem ∈ issue.misplacement? diff, problem.isWritable = true) ∧
      ∀ note ∈ review.notes, ∀ problem ∈ note.misplacement? diff, problem.isWritable = true := by
  obtain ⟨value, isDocument, isReview⟩ := bind_eq_ok_iff.mp isRead
  obtain ⟨issues, notes⟩ := isTellable_of_ofValue (isWritable_of_document isDocument) isReview
  exact ⟨fun issue isIssue problem => Diff.isWritable_of_misplacement? (issues issue isIssue),
    fun note isNote problem => Diff.isWritable_of_misplacement? (notes note isNote)⟩

end Marginalia
