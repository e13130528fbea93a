import Mathlib.Tactic.Common
import Marginalia.Proofs.Escape
import Marginalia.Proofs.Json.Token

/-!
# Values inside values

Arrays and objects are read item by item with a reader for what stands one level deeper.  Every item
takes characters, so the bound on the number of items is never reached.  A text that is nested too
deep is given up; any other outcome stays as it is when deeper nesting is allowed, and with as many
levels as the text has characters none is given up.
-/

namespace Marginalia

namespace Json

/-! ## Items one by one -/

section

variable {reader : Text → Partial Value} {bound nesting : Nat} {text rest : Text} {value : Value}

/-- Whether a character opens a value that has an end of its own. -/
def isOpening (char : Char) : Bool :=
  char = '\x22' || char = '\x7b' || char = '['

theorem readMembers_succ_eq_ok_iff {entries : List (Value × Value)} :
    readMembers reader (bound + 1) entries text = .ok (value, rest) ↔
      ∃ quoted name afterName valueText member afterMember,
        text = '\x22' :: quoted ∧ readString text quoted = .ok (name, afterName) ∧
          skipSpace afterName = ':' :: valueText ∧
          reader (skipSpace valueText) = .ok (member, afterMember) ∧
          (skipSpace afterMember = '\x7d' :: rest ∧
              value = .mapping (Value.put (.text name) member entries) ∨
            ∃ others, skipSpace afterMember = ',' :: others ∧
              readMembers reader bound (Value.put (.text name) member entries)
                (skipSpace others) = .ok (value, rest)) := by
  constructor
  · intro isRead
    rw [readMembers.eq_def] at isRead
    simp only at isRead
    split at isRead
    · obtain ⟨⟨name, afterName⟩, isName, made⟩ := bind_eq_ok_iff.mp isRead
      simp only at made
      split at made
      · obtain ⟨⟨member, afterMember⟩, isMember, made⟩ := bind_eq_ok_iff.mp made
        refine ⟨_, name, afterName, _, member, afterMember, rfl, isName, ‹_›, isMember, ?_⟩
        simp only at made
        split at made
        · obtain ⟨rfl, rfl⟩ := Prod.mk.inj (Except.ok.inj made)
          exact .inl ⟨‹_›, rfl⟩
        · exact .inr ⟨_, ‹_›, made⟩
        · cases made
      · cases made
    · cases isRead
  · rintro ⟨quoted, name, afterName, valueText, member, afterMember, rfl, isName, colon, isMember,
      made⟩
    rw [readMembers, isName]
    simp only [bind, Except.bind, colon, isMember]
    obtain ⟨closed, rfl⟩ | ⟨others, comma, isRead⟩ := made
    · rw [closed]
      rfl
    · rw [comma]
      exact isRead

theorem readItems_succ_eq_ok_iff {items : List Value} :
    readItems reader (bound + 1) items text = .ok (value, rest) ↔
      ∃ item afterItem, reader text = .ok (item, afterItem) ∧
        (skipSpace afterItem = ']' :: rest ∧ value = .list (item :: items).reverse ∨
          ∃ others, skipSpace afterItem = ',' :: others ∧
            readItems reader bound (item :: items) (skipSpace others) = .ok (value, rest)) := by
  constructor
  · intro isRead
    rw [readItems] at isRead
    obtain ⟨⟨item, afterItem⟩, isItem, made⟩ := bind_eq_ok_iff.mp isRead
    refine ⟨item, afterItem, isItem, ?_⟩
    simp only at made
    split at made
    · obtain ⟨rfl, rfl⟩ := Prod.mk.inj (Except.ok.inj made)
      exact .inl ⟨‹_›, rfl⟩
    · exact .inr ⟨_, ‹_›, made⟩
    · cases made
  · rintro ⟨item, afterItem, isItem, made⟩
    rw [readItems, isItem]
    simp only [bind, Except.bind]
    obtain ⟨closed, rfl⟩ | ⟨others, comma, isRead⟩ := made
    · rw [closed]
      rfl
    · rw [comma]
      exact isRead

theorem readValue_of_noOpening (noOpening : ∀ char ∈ text.head?, isOpening char = false) :
    readValue nesting text = readScalar text := by
  rw [readValue.eq_def]
  split
  · exact absurd (noOpening _ rfl) (by decide)
  · exact absurd (noOpening _ rfl) (by decide)
  · exact absurd (noOpening _ rfl) (by decide)
  · rfl

/-- What an object holds: nothing, or members read with a reader for what is one level deeper. -/
theorem readValue_object (nesting : Nat) (inner : Text) :
    readValue (nesting + 1) ('\x7b' :: inner) =
      match skipSpace inner with
      | '\x7d' :: rest => .ok (.mapping [], rest)
      | rest => readMembers (readValue nesting) (rest.length + 1) [] rest :=
  rfl

/-- What an array holds: nothing, or items read with a reader for what is one level deeper. -/
theorem readValue_array (nesting : Nat) (inner : Text) :
    readValue (nesting + 1) ('[' :: inner) =
      match skipSpace inner with
      | ']' :: rest => .ok (.list [], rest)
      | rest => readItems (readValue nesting) (rest.length + 1) [] rest :=
  rfl

theorem readValue_eq_ok_iff :
    readValue nesting text = .ok (value, rest) ↔
      (∃ quoted content, text = '\x22' :: quoted ∧ readString text quoted = .ok (content, rest) ∧
        value = .text content) ∨
      (∃ depth inner, nesting = depth + 1 ∧ text = '\x7b' :: inner ∧
        (skipSpace inner = '\x7d' :: rest ∧ value = .mapping [] ∨
          readMembers (readValue depth) ((skipSpace inner).length + 1) [] (skipSpace inner) =
            .ok (value, rest))) ∨
      (∃ depth inner, nesting = depth + 1 ∧ text = '[' :: inner ∧
        (skipSpace inner = ']' :: rest ∧ value = .list [] ∨
          readItems (readValue depth) ((skipSpace inner).length + 1) [] (skipSpace inner) =
            .ok (value, rest))) ∨
      ((∀ char ∈ text.head?, isOpening char = false) ∧ readScalar text = .ok (value, rest)) := by
  constructor
  · intro isRead
    rw [readValue.eq_def] at isRead
    split at isRead
    · obtain ⟨⟨content, left⟩, isText, same⟩ := map_eq_ok_iff.mp isRead
      obtain ⟨rfl, rfl⟩ := Prod.mk.inj same
      exact .inl ⟨_, content, rfl, isText, rfl⟩
    · cases nesting with
      | zero => cases isRead
      | succ depth =>
          refine .inr (.inl ⟨depth, _, rfl, rfl, ?_⟩)
          simp only at isRead
          split at isRead
          · obtain ⟨rfl, rfl⟩ := Prod.mk.inj (Except.ok.inj isRead)
            exact .inl ⟨‹_›, rfl⟩
          · exact .inr isRead
    · cases nesting with
      | zero => cases isRead
      | succ depth =>
          refine .inr (.inr (.inl ⟨depth, _, rfl, rfl, ?_⟩))
          simp only at isRead
          split at isRead
          · obtain ⟨rfl, rfl⟩ := Prod.mk.inj (Except.ok.inj isRead)
            exact .inl ⟨‹_›, rfl⟩
          · exact .inr isRead
    · rename_i noText noObject noList
      refine .inr (.inr (.inr ⟨?_, isRead⟩))
      intro char isFirst
      obtain ⟨text, rfl⟩ := List.head?_eq_some_iff.mp isFirst
      simp only [isOpening, Bool.or_eq_false_iff, decide_eq_false_iff_not]
      refine ⟨⟨?_, ?_⟩, ?_⟩
      · rintro rfl
        exact noText _ rfl
      · rintro rfl
        exact noObject _ rfl
      · rintro rfl
        exact noList _ rfl
  · rintro (⟨quoted, content, rfl, isText, rfl⟩ | ⟨depth, inner, rfl, rfl, made⟩ |
      ⟨depth, inner, rfl, rfl, made⟩ | ⟨noOpening, isRead⟩)
    · rw [readValue, isText]
      rfl
    · rw [readValue_object]
      obtain ⟨closed, rfl⟩ | isRead := made
      · rw [closed]
        rfl
      · split
        -- No name of a property begins with a brace.
        · rename_i closed
          rw [closed] at isRead
          cases isRead
        · exact isRead
    · rw [readValue_array]
      obtain ⟨closed, rfl⟩ | isRead := made
      · rw [closed]
        rfl
      · split
        -- No value begins with a closing bracket.
        · rename_i closed
          obtain ⟨item, afterItem, isItem, -⟩ := readItems_succ_eq_ok_iff.mp isRead
          rw [closed, readValue_of_noOpening (by rintro _ ⟨⟩; decide)] at isItem
          cases isItem
        · exact isRead
    · rw [readValue_of_noOpening noOpening, isRead]

end

/-! ## Characters taken -/

theorem length_skipSpace_le (text : Text) : (skipSpace text).length ≤ text.length :=
  (List.dropWhile_suffix _).length_le

/-- What stands behind space and a character is shorter than what stands before them. -/
theorem length_skipSpace_lt_of_cons {char : Char} {text rest : Text}
    (left : skipSpace text = char :: rest) : (skipSpace rest).length < text.length := by
  have whole := length_skipSpace_le text
  rw [left, List.length_cons] at whole
  exact Nat.lt_of_le_of_lt (length_skipSpace_le rest) whole

/-- The value of a member is shorter than the member. -/
theorem length_lt_of_colon {quoted name afterName valueText : Text}
    (isName : readString ('\x22' :: quoted) quoted = .ok (name, afterName))
    (colon : skipSpace afterName = ':' :: valueText) :
    (skipSpace valueText).length < quoted.length :=
  Nat.lt_trans (length_skipSpace_lt_of_cons colon) (length_lt_of_readString isName)

/-- A reader that takes a character at least. -/
def Advances (reader : Text → Partial Value) : Prop :=
  ∀ {text rest : Text} {value : Value}, reader text = .ok (value, rest) → rest.length < text.length

namespace Advances

variable {reader : Text → Partial Value} {bound larger : Nat} {text rest : Text} {value : Value}

theorem ne_nil (advances : Advances reader) (isRead : reader text = .ok (value, rest)) :
    text ≠ [] :=
  List.ne_nil_of_length_pos (Nat.zero_lt_of_lt (advances isRead))

/-- What stands behind a value and the character after it is shorter than what begins with the
value. -/
theorem length_lt_of_next (advances : Advances reader) (isRead : reader text = .ok (value, rest))
    {char : Char} {others : Text} (next : skipSpace rest = char :: others) :
    (skipSpace others).length < text.length :=
  Nat.lt_trans (length_skipSpace_lt_of_cons next) (advances isRead)

theorem members (advances : Advances reader) {entries : List (Value × Value)}
    (isRead : readMembers reader bound entries text = .ok (value, rest)) :
    rest.length < text.length := by
  induction bound generalizing entries text with
  | zero => cases isRead
  | succ bound induct =>
      obtain ⟨quoted, name, afterName, valueText, member, afterMember, rfl, isName, colon,
        isMember, next⟩ := readMembers_succ_eq_ok_iff.mp isRead
      have valueLeft := length_lt_of_colon isName colon
      rw [List.length_cons]
      obtain ⟨closed, -⟩ | ⟨others, comma, isRest⟩ := next
      · have taken := advances isMember
        have nextLeft := length_skipSpace_le afterMember
        rw [closed, List.length_cons] at nextLeft
        omega
      · have othersLeft := advances.length_lt_of_next isMember comma
        have shorter := induct isRest
        omega

theorem items (advances : Advances reader) {items : List Value}
    (isRead : readItems reader bound items text = .ok (value, rest)) :
    rest.length < text.length := by
  induction bound generalizing items text with
  | zero => cases isRead
  | succ bound induct =>
      obtain ⟨item, afterItem, isItem, next⟩ := readItems_succ_eq_ok_iff.mp isRead
      obtain ⟨closed, -⟩ | ⟨others, comma, isRest⟩ := next
      · have taken := advances isItem
        have nextLeft := length_skipSpace_le afterItem
        rw [closed, List.length_cons] at nextLeft
        omega
      · exact Nat.lt_trans (induct isRest) (advances.length_lt_of_next isItem comma)

/-- An object has fewer members than characters, so that more of them are allowed makes no
difference. -/
theorem readMembers_of_le (advances : Advances reader) {entries : List (Value × Value)}
    (enough : text.length < bound) (more : bound ≤ larger) :
    readMembers reader larger entries text = readMembers reader bound entries text := by
  induction bound generalizing larger entries text with
  | zero => exact absurd enough (Nat.not_lt_zero _)
  | succ bound induct =>
      obtain ⟨larger, rfl⟩ := Nat.exists_eq_succ_of_ne_zero (Nat.ne_zero_of_lt more)
      rw [readMembers.eq_def reader (larger + 1), readMembers.eq_def reader (bound + 1)]
      simp only
      split
      · rename_i quoted
        rw [List.length_cons] at enough
        cases isName : readString ('\x22' :: quoted) quoted with
        | error fault => rfl
        | ok named =>
            simp only [bind, Except.bind]
            split
            · rename_i valueText colon
              have valueLeft := length_lt_of_colon isName colon
              cases isMember : reader (skipSpace valueText) with
              | error fault => rfl
              | ok member =>
                  simp only
                  split
                  · rfl
                  · rename_i others comma
                    have othersLeft := advances.length_lt_of_next isMember comma
                    exact induct (by omega) (Nat.le_of_succ_le_succ more)
                  · rfl
            · rfl
      · rfl

/-- An array has fewer items than characters, so that more of them are allowed makes no
difference. -/
theorem readItems_of_le (advances : Advances reader) {items : List Value}
    (enough : text.length < bound) (more : bound ≤ larger) :
    readItems reader larger items text = readItems reader bound items text := by
  induction bound generalizing larger items text with
  | zero => exact absurd enough (Nat.not_lt_zero _)
  | succ bound induct =>
      obtain ⟨larger, rfl⟩ := Nat.exists_eq_succ_of_ne_zero (Nat.ne_zero_of_lt more)
      rw [readItems, readItems]
      cases isItem : reader text with
      | error fault => rfl
      | ok item =>
          simp only [bind, Except.bind]
          split
          · rfl
          · rename_i others comma
            have othersLeft := advances.length_lt_of_next isItem comma
            exact induct (by omega) (Nat.le_of_succ_le_succ more)
          · rfl

end Advances

/-- Whatever is read takes a character at least. -/
theorem advances_readValue (nesting : Nat) : Advances (readValue nesting) := by
  induction nesting using Nat.strongRecOn with
  | ind nesting induct =>
      intro text rest value isRead
      obtain ⟨quoted, content, rfl, isText, -⟩ | ⟨depth, inner, rfl, rfl, made⟩ |
        ⟨depth, inner, rfl, rfl, made⟩ | ⟨-, isScalar⟩ := readValue_eq_ok_iff.mp isRead
      · exact Nat.lt_succ_of_lt (length_lt_of_readString isText)
      · have left := length_skipSpace_le inner
        obtain ⟨closed, -⟩ | isMembers := made
        · rw [closed, List.length_cons] at left
          exact Nat.lt_succ_of_lt left
        · have shorter := Advances.members (induct depth (Nat.lt_succ_self depth)) isMembers
          exact Nat.lt_succ_of_lt (Nat.lt_of_lt_of_le shorter left)
      · have left := length_skipSpace_le inner
        obtain ⟨closed, -⟩ | isItems := made
        · rw [closed, List.length_cons] at left
          exact Nat.lt_succ_of_lt left
        · have shorter := Advances.items (induct depth (Nat.lt_succ_self depth)) isItems
          exact Nat.lt_succ_of_lt (Nat.lt_of_lt_of_le shorter left)
      · exact length_lt_of_readScalar isScalar

/-! ## Deeper nesting -/

/-- One reader does as another one does wherever that one does not give up. -/
def Outlasts (larger reader : Text → Partial Value) : Prop :=
  ∀ text, ¬Escapes Fault.family (reader text) → larger text = reader text

namespace Outlasts

variable {larger reader : Text → Partial Value} {bound : Nat} {text : Text}

theorem members (outlasts : Outlasts larger reader) {entries : List (Value × Value)}
    (stays : ¬Escapes Fault.family (readMembers reader bound entries text)) :
    readMembers larger bound entries text = readMembers reader bound entries text := by
  induction bound generalizing entries text with
  | zero => rfl
  | succ bound induct =>
      rw [readMembers.eq_def] at stays
      rw [readMembers.eq_def larger, readMembers.eq_def reader]
      simp only at stays ⊢
      split
      · rename_i quoted
        simp only [escapes_bind_iff, not_or, not_exists, not_and] at stays
        cases isName : readString ('\x22' :: quoted) quoted with
        | error fault => rfl
        | ok named =>
            have behind := stays.2 named isName
            simp only [bind, Except.bind]
            split
            · rename_i valueText colon
              simp only [colon, escapes_bind_iff, not_or, not_exists, not_and] at behind
              rw [outlasts _ behind.1]
              cases isMember : reader (skipSpace valueText) with
              | error fault => rfl
              | ok member =>
                  have next := behind.2 member isMember
                  simp only
                  split
                  · rfl
                  · rename_i others comma
                    simp only [comma] at next
                    exact induct next
                  · rfl
            · rfl
      · rfl

theorem items (outlasts : Outlasts larger reader) {items : List Value}
    (stays : ¬Escapes Fault.family (readItems reader bound items text)) :
    readItems larger bound items text = readItems reader bound items text := by
  induction bound generalizing items text with
  | zero => rfl
  | succ bound induct =>
      rw [readItems] at stays
      rw [readItems, readItems]
      simp only [escapes_bind_iff, not_or, not_exists, not_and] at stays
      rw [outlasts _ stays.1]
      cases isItem : reader text with
      | error fault => rfl
      | ok item =>
          have next := stays.2 item isItem
          simp only [bind, Except.bind]
          split
          · rfl
          · rename_i others comma
            simp only [comma] at next
            exact induct next
          · rfl

end Outlasts

/-- Where deeper nesting is allowed, the same is read or refused as long as nothing is given up. -/
theorem outlasts_readValue {nesting larger : Nat} (deeper : nesting ≤ larger) :
    Outlasts (readValue larger) (readValue nesting) := by
  induction nesting generalizing larger with
  | zero =>
      intro text stays
      rw [readValue.eq_def] at stays
      rw [readValue.eq_def larger, readValue.eq_def 0]
      split
      · rfl
      · exact absurd (escapes_error_iff.mpr (by decide)) stays
      · exact absurd (escapes_error_iff.mpr (by decide)) stays
      · rfl
  | succ nesting induct =>
      obtain ⟨larger, rfl⟩ := Nat.exists_eq_succ_of_ne_zero (Nat.ne_zero_of_lt deeper)
      have inside := induct (Nat.le_of_succ_le_succ deeper)
      intro text stays
      rw [readValue.eq_def] at stays
      rw [readValue.eq_def (larger + 1), readValue.eq_def (nesting + 1)]
      split
      · rfl
      · simp only at stays ⊢
        split
        · rfl
        · rename_i inner _ noEnd
          split at stays
          · rename_i closed
            exact absurd closed (noEnd _)
          · exact inside.members stays
      · simp only at stays ⊢
        split
        · rfl
        · rename_i inner _ noEnd
          split at stays
          · rename_i closed
            exact absurd closed (noEnd _)
          · exact inside.items stays
      · rfl

/-! ## Enough nesting -/

theorem not_escapes_withHead (char : Char) {result : Partial Text}
    (stays : ¬Escapes Fault.family result) : ¬Escapes Fault.family (withHead char result) :=
  mt escapes_map_iff.mp stays

theorem not_escapes_readString (opening text : Text) :
    ¬Escapes Fault.family (readString opening text) := by
  -- All cases that are not named are refusals.
  fun_induction readString opening text
  case case2 => exact not_escapes_ok _ _
  case case7 induct | case8 induct | case9 induct | case10 induct | case12 induct | case15 induct =>
    exact not_escapes_withHead _ induct
  all_goals exact fun escapes => escapes_error_iff.mp escapes rfl

theorem not_escapes_value (numeral : Numeral) : ¬Escapes Fault.family numeral.value := by
  rw [Numeral.value.eq_def]
  simp only
  split
  · exact not_escapes_ok _ _
  · split
    · split
      · exact fun escapes => escapes_error_iff.mp escapes rfl
      · exact not_escapes_ok _ _
    · exact not_escapes_ok _ _

theorem not_escapes_readScalar (text : Text) : ¬Escapes Fault.family (readScalar text) := by
  cases found : word? text with
  | some result =>
      obtain ⟨word, isWord, rfl⟩ := exists_word_of_word? found
      rw [readScalar_word isWord]
      exact not_escapes_ok _ _
  | none =>
      rw [readScalar_of_word?_eq_none found, readNumber?_eq]
      cases numeral? text with
      | none => exact fun escapes => escapes_error_iff.mp escapes rfl
      | some split => exact mt escapes_map_iff.mp (not_escapes_value split.1)

section

variable {reader : Text → Partial Value} {bound size : Nat} {text : Text}
  (advances : Advances reader)
  (serves : ∀ {text : Text}, text.length ≤ size → ¬Escapes Fault.family (reader text))

include advances serves

theorem not_escapes_readMembers {entries : List (Value × Value)} (fits : text.length ≤ size) :
    ¬Escapes Fault.family (readMembers reader bound entries text) := by
  induction bound generalizing entries text with
  | zero => exact fun escapes => escapes_error_iff.mp escapes rfl
  | succ bound induct =>
      rw [readMembers.eq_def]
      simp only
      split
      · rename_i quoted
        simp only [escapes_bind_iff, not_or, not_exists, not_and]
        refine ⟨not_escapes_readString _ _, fun named isName => ?_⟩
        rw [List.length_cons] at fits
        split
        · rename_i valueText colon
          have valueLeft := length_lt_of_colon isName colon
          simp only [escapes_bind_iff, not_or, not_exists, not_and]
          refine ⟨serves (by omega), fun member isMember => ?_⟩
          split
          · exact not_escapes_ok _ _
          · rename_i others comma
            have othersLeft := advances.length_lt_of_next isMember comma
            exact induct (by omega)
          · exact fun escapes => escapes_error_iff.mp escapes rfl
        · exact fun escapes => escapes_error_iff.mp escapes rfl
      · exact fun escapes => escapes_error_iff.mp escapes rfl

theorem not_escapes_readItems {items : List Value} (fits : text.length ≤ size) :
    ¬Escapes Fault.family (readItems reader bound items text) := by
  induction bound generalizing items text with
  | zero => exact fun escapes => escapes_error_iff.mp escapes rfl
  | succ bound induct =>
      rw [readItems]
      simp only [escapes_bind_iff, not_or, not_exists, not_and]
      refine ⟨serves fits, fun item isItem => ?_⟩
      split
      · exact not_escapes_ok _ _
      · rename_i others comma
        have othersLeft := advances.length_lt_of_next isItem comma
        exact induct (by omega)
      · exact fun escapes => escapes_error_iff.mp escapes rfl

end

/-- A text that is not longer than nesting is allowed to be deep is not given up. -/
theorem not_escapes_readValue {nesting : Nat} {text : Text} (fits : text.length ≤ nesting) :
    ¬Escapes Fault.family (readValue nesting text) := by
  induction nesting generalizing text with
  | zero =>
      obtain rfl := List.length_eq_zero_iff.mp (Nat.le_zero.mp fits)
      exact not_escapes_readScalar []
  | succ nesting induct =>
      have inside : Advances (readValue nesting) := advances_readValue nesting
      rw [readValue.eq_def]
      split
      · exact mt escapes_map_iff.mp (not_escapes_readString _ _)
      · rename_i inner
        have left := length_skipSpace_le inner
        rw [List.length_cons] at fits
        simp only
        split
        · exact not_escapes_ok _ _
        · exact not_escapes_readMembers inside induct (by omega)
      · rename_i inner
        have left := length_skipSpace_le inner
        rw [List.length_cons] at fits
        simp only
        split
        · exact not_escapes_ok _ _
        · exact not_escapes_readItems inside induct (by omega)
      · exact not_escapes_readScalar text

/-! ## Whole texts -/

theorem escapes_read_iff {text : Text} {nesting : Nat} :
    Escapes Fault.family (read text nesting) ↔
      text.head? ≠ some '\ufeff' ∧
        Escapes Fault.family (readValue nesting (skipSpace text)) := by
  rw [read.eq_def]
  split
  · simp [escapes_error_iff, Fault.family]
  · rename_i noMark
    rw [escapes_bind_of_total, and_iff_right]
    · intro mark
      obtain ⟨rest, same⟩ := List.head?_eq_some_iff.mp mark
      exact noMark rest same
    · rintro ⟨value, rest⟩
      simp only
      split
      · exact not_escapes_ok _ _
      · exact fun escapes => escapes_error_iff.mp escapes rfl

/-- A whole text that is not given up is read or refused in the same way where deeper nesting is
allowed. -/
theorem read_of_le {text : Text} {nesting larger : Nat} (deeper : nesting ≤ larger)
    (stays : ¬Escapes Fault.family (read text nesting)) : read text larger = read text nesting := by
  rw [escapes_read_iff, not_and] at stays
  rw [read.eq_def, read.eq_def]
  split
  · rfl
  · rename_i noMark
    rw [outlasts_readValue deeper (skipSpace text) (stays ?_)]
    intro mark
    obtain ⟨rest, same⟩ := List.head?_eq_some_iff.mp mark
    exact noMark rest same

theorem not_escapes_read {text : Text} {nesting : Nat} (fits : text.length ≤ nesting) :
    ¬Escapes Fault.family (read text nesting) := by
  rw [escapes_read_iff, not_and]
  intro _
  exact not_escapes_readValue (Nat.le_trans (length_skipSpace_le text) fits)

end Json

end Marginalia
