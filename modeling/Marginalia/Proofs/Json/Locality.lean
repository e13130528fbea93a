import Mathlib.Data.List.TakeWhile
import Mathlib.Tactic.Common
import Marginalia.Proofs.Json.Nesting

/-!
# Values in front of other text

A value is read as far as it goes, whatever stands behind what was left.  Only words and numbers
need something behind them at which they end, which inside a list or an object is always there, so
an object can be read off a text of which it is the beginning.
-/

namespace Marginalia

namespace Json

section

variable {text rest : Text} {value : Value}

/-- What stands before a closing bracket or a comma ends there. -/
theorem isDelimited_of_next {closing : Char} (delimits : isDelimiter closing = true)
    {isLast : Prop} {goesOn : Text → Prop}
    (next : skipSpace text = closing :: rest ∧ isLast ∨
      ∃ others, skipSpace text = ',' :: others ∧ goesOn others) : IsDelimited text := by
  obtain ⟨closed, -⟩ | ⟨others, comma, -⟩ := next
  · exact isDelimited_of_skipSpace closed delimits
  · exact isDelimited_of_skipSpace comma (by decide)

/-- A delimiter that was left is left where there is more text. -/
theorem skipSpace_append_of_cons {char : Char} (left : skipSpace text = char :: rest)
    (more : Text) : skipSpace (text ++ more) = char :: (rest ++ more) := by
  rw [skipSpace_append_of_ne_nil (left ▸ List.cons_ne_nil char rest), left, List.cons_append]

/-- What is read is read in the same way whatever is put behind the text.  A word or a number has to
end where it did. -/
def IsLocal (reader : Text → Partial Value) : Prop :=
  ∀ {text rest : Text} {value : Value}, reader text = .ok (value, rest) →
    (∃ char ∈ text.head?, isOpening char = true) ∨ IsDelimited rest →
    ∀ more : Text, reader (text ++ more) = .ok (value, rest ++ more)

namespace IsLocal

variable {reader : Text → Partial Value} {bound : Nat}

theorem members (isLocal : IsLocal reader) (advances : Advances reader)
    {entries : List (Value × Value)}
    (isRead : readMembers reader bound entries text = .ok (value, rest)) (more : Text) :
    readMembers reader bound entries (text ++ more) = .ok (value, rest ++ more) := by
  induction bound generalizing entries text with
  | zero => cases isRead
  | succ bound induct =>
      obtain ⟨quoted, name, afterName, valueText, member, afterMember, rfl, isName, colon,
        isMember, next⟩ := readMembers_succ_eq_ok_iff.mp isRead
      have delimited := isDelimited_of_next (by decide) next
      have isMember_append := isLocal isMember (.inr delimited) more
      rw [← skipSpace_append_of_ne_nil (advances.ne_nil isMember)] at isMember_append
      refine readMembers_succ_eq_ok_iff.mpr ⟨quoted ++ more, name, afterName ++ more,
        valueText ++ more, member, afterMember ++ more, rfl, readString_append isName _ more,
        skipSpace_append_of_cons colon more, isMember_append, ?_⟩
      obtain ⟨closed, rfl⟩ | ⟨others, comma, isRest⟩ := next
      · exact .inl ⟨skipSpace_append_of_cons closed more, rfl⟩
      · have left : skipSpace others ≠ [] :=
          List.ne_nil_of_length_pos (Nat.zero_lt_of_lt (advances.members isRest))
        refine .inr ⟨others ++ more, skipSpace_append_of_cons comma more, ?_⟩
        rw [skipSpace_append_of_ne_nil left]
        exact induct isRest

theorem items (isLocal : IsLocal reader) (advances : Advances reader) {items : List Value}
    (isRead : readItems reader bound items text = .ok (value, rest)) (more : Text) :
    readItems reader bound items (text ++ more) = .ok (value, rest ++ more) := by
  induction bound generalizing items text with
  | zero => cases isRead
  | succ bound induct =>
      obtain ⟨item, afterItem, isItem, next⟩ := readItems_succ_eq_ok_iff.mp isRead
      have delimited := isDelimited_of_next (by decide) next
      refine readItems_succ_eq_ok_iff.mpr ⟨item, afterItem ++ more,
        isLocal isItem (.inr delimited) more, ?_⟩
      obtain ⟨closed, rfl⟩ | ⟨others, comma, isRest⟩ := next
      · exact .inl ⟨skipSpace_append_of_cons closed more, rfl⟩
      · have left : skipSpace others ≠ [] :=
          List.ne_nil_of_length_pos (Nat.zero_lt_of_lt (advances.items isRest))
        refine .inr ⟨others ++ more, skipSpace_append_of_cons comma more, ?_⟩
        rw [skipSpace_append_of_ne_nil left]
        exact induct isRest

end IsLocal

/-- More text behind a value gives room for more items, of which none is read. -/
theorem isLocal_readValue (nesting : Nat) : IsLocal (readValue nesting) := by
  induction nesting using Nat.strongRecOn with
  | ind nesting induct =>
      intro text rest value isRead ends more
      have advances : Advances (readValue nesting) := advances_readValue nesting
      have nonempty := advances.ne_nil isRead
      have longer (text : Text) : text.length + 1 ≤ (text ++ more).length + 1 := by simp
      apply readValue_eq_ok_iff.mpr
      obtain ⟨quoted, content, rfl, isText, rfl⟩ | ⟨depth, inner, rfl, rfl, made⟩ |
        ⟨depth, inner, rfl, rfl, made⟩ | ⟨noOpening, isScalar⟩ := readValue_eq_ok_iff.mp isRead
      · exact .inl ⟨quoted ++ more, content, rfl, readString_append isText _ more, rfl⟩
      · have inside : IsLocal (readValue depth) := induct depth (Nat.lt_succ_self depth)
        have deeper : Advances (readValue depth) := advances_readValue depth
        refine .inr (.inl ⟨depth, inner ++ more, rfl, rfl, ?_⟩)
        obtain ⟨closed, rfl⟩ | isMembers := made
        · exact .inl ⟨skipSpace_append_of_cons closed more, rfl⟩
        · rw [skipSpace_append_of_ne_nil
            (List.ne_nil_of_length_pos (Nat.zero_lt_of_lt (deeper.members isMembers)))]
          rw [← deeper.readMembers_of_le (Nat.lt_succ_self _) (longer _)] at isMembers
          exact .inr (inside.members deeper isMembers more)
      · have inside : IsLocal (readValue depth) := induct depth (Nat.lt_succ_self depth)
        have deeper : Advances (readValue depth) := advances_readValue depth
        refine .inr (.inr (.inl ⟨depth, inner ++ more, rfl, rfl, ?_⟩))
        obtain ⟨closed, rfl⟩ | isItems := made
        · exact .inl ⟨skipSpace_append_of_cons closed more, rfl⟩
        · rw [skipSpace_append_of_ne_nil
            (List.ne_nil_of_length_pos (Nat.zero_lt_of_lt (deeper.items isItems)))]
          rw [← deeper.readItems_of_le (Nat.lt_succ_self _) (longer _)] at isItems
          exact .inr (inside.items deeper isItems more)
      · obtain ⟨char, isFirst, opens⟩ | delimited := ends
        · simp [noOpening char isFirst] at opens
        · refine .inr (.inr (.inr ⟨?_, readScalar_append isScalar delimited more⟩))
          rwa [List.head?_append_of_ne_nil _ nonempty]

end

/-! ## Whole texts -/

section

variable {text front : Text} {value : Value} {nesting : Nat}

/-- Reading begins with a visible character at once. -/
theorem read_of_head {char : Char} (rest : Text) (noMark : char ≠ '\ufeff')
    (noSpace : isSpace char = false) (nesting : Nat) :
    read (char :: rest) nesting = (do
      let (value, left) ← readValue nesting (char :: rest)
      match skipSpace left with
      | [] => .ok value
      | left => .error (.misread .nothing left)) := by
  have visible : skipSpace (char :: rest) = char :: rest :=
    List.dropWhile_cons_of_neg (by simp [noSpace])
  rw [read.eq_def]
  split
  case h_1 tail same => exact absurd (List.cons.inj same).1 noMark
  case h_2 => exact congrArg (fun start => Except.bind (readValue nesting start) _) visible

/-- Behind an object there may be space, and nothing else. -/
theorem read_object_append (opens : text.head? = some '\x7b')
    (isRead : read text nesting = .ok value) (more : Text) :
    read (text ++ more) nesting =
      match skipSpace more with
      | [] => .ok value
      | rest => .error (.misread .nothing rest) := by
  obtain ⟨text, rfl⟩ := List.head?_eq_some_iff.mp opens
  rw [read_of_head text (by decide) (by decide)] at isRead
  rw [List.cons_append, read_of_head (text ++ more) (by decide) (by decide)]
  obtain ⟨⟨object, left⟩, isObject, made⟩ := bind_eq_ok_iff.mp isRead
  simp only at made
  split at made
  · rename_i blank
    obtain rfl := Except.ok.inj made
    have again := isLocal_readValue nesting isObject (.inl ⟨_, rfl, by decide⟩) more
    rw [List.cons_append] at again
    simp only [again, bind, Except.bind, skipSpace_append_of_eq_nil blank]
  · cases made

theorem splitMinus_subset (text : Text) : (splitMinus text).2 ⊆ text := by
  rw [splitMinus.eq_def]
  split
  · exact List.subset_cons_self _ _
  · exact List.Subset.refl _

theorem notMem_of_word {word : Text} (isWord : (word, value) ∈ words) : '\x7b' ∉ word := by
  simp only [words, List.mem_cons, Prod.mk.injEq, List.not_mem_nil, or_false] at isWord
  rcases isWord with ⟨rfl, -⟩ | ⟨rfl, -⟩ | ⟨rfl, -⟩ | ⟨rfl, -⟩ | ⟨rfl, -⟩ | ⟨rfl, -⟩ <;> decide

theorem readScalar_of_front (visible : front ≠ [])
    (noDigit : ∀ char ∈ front, char.isDigit = false) (back : Text) :
    readScalar (front ++ '\x7b' :: back) =
        .error (.misread .value (front ++ '\x7b' :: back)) ∨
      ∃ value rest, readScalar (front ++ '\x7b' :: back) = .ok (value, rest) ∧ '\x7b' ∈ rest := by
  cases found : word? (front ++ '\x7b' :: back) with
  | some result =>
      obtain ⟨word, isWord, same⟩ := exists_word_of_word? found
      refine .inr ⟨result.1, result.2, ?_, ?_⟩
      · rw [same, readScalar_word isWord]
      · have isIn : '\x7b' ∈ word ++ result.2 := by
          rw [← same]
          simp
        exact (List.mem_append.mp isIn).resolve_left (notMem_of_word isWord)
  | none =>
      have noNumber : readNumber? (front ++ '\x7b' :: back) = none := by
        apply readNumber?_eq_none
        rw [splitMinus_append visible]
        intro char isFirst
        rw [List.head?_append, Option.mem_def, Option.or_eq_some_iff] at isFirst
        obtain isFirst | ⟨-, isFirst⟩ := isFirst
        · exact noDigit char (splitMinus_subset front (List.mem_of_head? isFirst))
        · obtain rfl := Option.some.inj isFirst
          rfl
      left
      rw [readScalar_of_word?_eq_none found, noNumber, Option.getD_none]

/-- Where something that is no part of a number stands before a brace, the whole is no JSON text. -/
theorem exists_misread_of_front (opens : ∃ char ∈ front.head?, isSpace char = false)
    (noOpening : ∀ char ∈ front, isOpening char = false)
    (noDigit : ∀ char ∈ front, char.isDigit = false) (back : Text) (nesting : Nat) :
    ∃ expectation rest,
      read (front ++ '\x7b' :: back) nesting = .error (.misread expectation rest) := by
  obtain ⟨char, isFirst, noSpace⟩ := opens
  obtain ⟨front, rfl⟩ := List.head?_eq_some_iff.mp isFirst
  by_cases mark : char = '\ufeff'
  · exact ⟨_, _, by rw [mark]; rfl⟩
  have notOpening :
      ∀ first ∈ (char :: (front ++ '\x7b' :: back)).head?, isOpening first = false := by
    rintro _ ⟨⟩
    exact noOpening char List.mem_cons_self
  have scalar := readScalar_of_front (List.cons_ne_nil char front) noDigit back
  rw [List.cons_append] at scalar ⊢
  rw [read_of_head _ mark noSpace, readValue_of_noOpening notOpening]
  obtain misread | ⟨value, rest, isRead, isIn⟩ := scalar
  · rw [misread]
    exact ⟨_, _, rfl⟩
  · have left : skipSpace rest ≠ [] := by
      intro blank
      exact absurd (List.dropWhile_eq_nil_iff.mp blank _ isIn) (by decide)
    obtain ⟨next, left, isLeft⟩ := List.exists_cons_of_ne_nil left
    simp only [isRead, bind, Except.bind, isLeft]
    exact ⟨_, _, rfl⟩

end

end Json

end Marginalia
