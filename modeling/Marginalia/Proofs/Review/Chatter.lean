import Mathlib.Tactic.Common
import Marginalia.Proofs.Json.Locality
import Marginalia.Proofs.Text.Blank
import Marginalia.Review.Reader

/-!
# Chatter around an object

What a language model says before and after an object does not change what is read, as long as it
holds nothing that could belong to an object itself.  Trimming and the removal of a fence touch
only what stands around the object.  What is left of the chatter keeps the text from being JSON,
and then the object stands from the first opening brace to the last closing one.
-/

namespace Marginalia

namespace Review

/-- A text with no brace, bracket, quote or digit. -/
def IsChatter (text : Text) : Prop :=
  ∀ char ∈ text, char ∉ ['\x7b', '\x7d', '[', ']', '\x22'] ∧ char.isDigit = false

instance (text : Text) : Decidable (IsChatter text) :=
  List.decidableBAll
    (fun char => char ∉ ['\x7b', '\x7d', '[', ']', '\x22'] ∧ char.isDigit = false) text

theorem IsChatter.of_subset {text part : Text} (chatter : IsChatter text) (subset : part ⊆ text) :
    IsChatter part :=
  fun char isIn => chatter char (subset isIn)

theorem IsChatter.isOpening_eq_false {text : Text} (chatter : IsChatter text) {char : Char}
    (isIn : char ∈ text) : Json.isOpening char = false := by
  have absent := (chatter char isIn).1
  simp only [List.mem_cons, not_or] at absent
  simp [Json.isOpening, absent]

/-- What counts as space in JSON is blank. -/
theorem isSpace_of_visible {char : Char} (visible : Text.isBlankChar char = false) :
    Json.isSpace char = false := by
  rw [← Bool.not_eq_true]
  intro space
  simp only [Json.isSpace, Bool.or_eq_true, decide_eq_true_eq, or_assoc] at space
  rcases space with rfl | rfl | rfl | rfl <;> exact absurd visible (by decide)

/-! ## Fences -/

/-- Whether a word opens a text is decided before a character that is not in the word. -/
theorem isPrefixOf?_append {word text : Text} (stops : ∃ char ∈ text.head?, char ∉ word)
    (front : Text) :
    word.isPrefixOf? (front ++ text) = (word.isPrefixOf? front).map (· ++ text) := by
  induction word generalizing front with
  | nil => cases front <;> rfl
  | cons letter word induct =>
      obtain ⟨stop, isFirst, notIn⟩ := stops
      obtain ⟨different, notIn⟩ := not_or.mp (mt List.mem_cons.mpr notIn)
      cases front with
      | nil =>
          obtain ⟨text, rfl⟩ := List.head?_eq_some_iff.mp isFirst
          simp [List.isPrefixOf?, Ne.symm different]
      | cons first front =>
          simp only [List.cons_append, List.isPrefixOf?]
          split
          · exact induct ⟨stop, isFirst, notIn⟩ front
          · rfl

section

variable {object : Text}

theorem withoutOpening_append (opens : object.head? = some '\x7b') (front : Text) :
    withoutOpening (front ++ object) = withoutOpening front ++ object := by
  rw [withoutOpening, withoutOpening, isPrefixOf?_append ⟨_, opens, by decide⟩]
  cases fence.isPrefixOf? front with
  | none => rfl
  | some rest =>
      simp only [Option.map_some]
      rw [isPrefixOf?_append ⟨_, opens, by decide⟩]
      cases "json".toList.isPrefixOf? rest with
      | none => exact Text.trimLeft_append ⟨_, opens, by decide⟩ rest
      | some rest => exact Text.trimLeft_append ⟨_, opens, by decide⟩ rest

theorem withoutClosing_append (closes : object.getLast? = some '\x7d') (back : Text) :
    withoutClosing (object ++ back) = object ++ withoutClosing back := by
  have stops : ∃ char ∈ object.reverse.head?, char ∉ fence :=
    ⟨_, List.head?_reverse.trans closes, by decide⟩
  rw [withoutClosing, withoutClosing, List.reverse_append, isPrefixOf?_append stops]
  cases fence.isPrefixOf? back.reverse with
  | none => rfl
  | some rest =>
      simp only [Option.map_some, List.reverse_append, List.reverse_reverse]
      exact Text.trimRight_append ⟨_, closes, by decide⟩ rest.reverse

end

theorem withoutOpening_suffix_self (text : Text) : withoutOpening text <:+ text := by
  rw [withoutOpening]
  cases opened : fence.isPrefixOf? text with
  | none => exact List.suffix_refl text
  | some rest =>
      have behindFence : rest <:+ text :=
        ⟨fence, List.isPrefixOf?_eq_some_iff_append_eq.mp opened⟩
      refine (Text.trimLeft_suffix _).trans (List.IsSuffix.trans ?_ behindFence)
      cases named : "json".toList.isPrefixOf? rest with
      | none => exact List.suffix_refl rest
      | some content => exact ⟨_, List.isPrefixOf?_eq_some_iff_append_eq.mp named⟩

theorem withoutClosing_prefix_self (text : Text) : withoutClosing text <+: text := by
  rw [withoutClosing]
  cases closed : fence.isPrefixOf? text.reverse with
  | none => exact List.prefix_refl text
  | some rest =>
      refine (Text.trimRight_prefix_self _).trans ?_
      rw [← List.reverse_suffix, List.reverse_reverse]
      exact ⟨fence, List.isPrefixOf?_eq_some_iff_append_eq.mp closed⟩

section

variable {object front back : Text} {value : Value} {nesting : Nat}

/-- What is left of a text with an object in it: the fences and blanks around the object go, and
nothing of the object itself. -/
theorem unfenced_append (opens : object.head? = some '\x7b')
    (closes : object.getLast? = some '\x7d') (front back : Text) :
    unfenced (front ++ object ++ back) =
      Text.trimLeft (withoutOpening (Text.trimLeft front)) ++ object ++
        withoutClosing (Text.trimRight back) := by
  have opens_append (back : Text) : (object ++ back).head? = some '\x7b' := by
    rw [List.head?_append, opens]
    rfl
  have closes_append (front : Text) : (front ++ object).getLast? = some '\x7d' := by
    rw [List.getLast?_append, closes]
    rfl
  have trim_append (front back : Text) :
      Text.trim (front ++ object ++ back) =
        Text.trimLeft front ++ object ++ Text.trimRight back := by
    rw [Text.trim, List.append_assoc,
      Text.trimLeft_append ⟨_, opens_append back, by decide⟩, ← List.append_assoc,
      Text.trimRight_append ⟨_, closes_append _, by decide⟩]
  rw [unfenced, trim_append, List.append_assoc, withoutOpening_append (opens_append _),
    ← List.append_assoc, trim_append, withoutClosing_append (closes_append _),
    Text.trimRight_trimRight]

/-- The object stands between the first opening brace and the last closing one. -/
theorem braced?_append (chatterFront : IsChatter front) (chatterBack : IsChatter back)
    (opens : object.head? = some '\x7b') (closes : object.getLast? = some '\x7d') :
    braced? (front ++ object ++ back) = some object := by
  have noOpening : ∀ char ∈ front, (char ≠ '\x7b' : Bool) = true := by
    intro char isIn
    have absent := (chatterFront char isIn).1
    simp only [List.mem_cons, not_or] at absent
    simpa using absent.1
  have noClosing : ∀ char ∈ back.reverse, (char ≠ '\x7d' : Bool) = true := by
    intro char isIn
    have absent := (chatterBack char (List.mem_reverse.mp isIn)).1
    simp only [List.mem_cons, not_or] at absent
    simpa using absent.2.1
  have fromBrace : (front ++ object ++ back).dropWhile (· ≠ '\x7b') = object ++ back := by
    obtain ⟨inner, rfl⟩ := List.head?_eq_some_iff.mp opens
    rw [List.append_assoc, List.dropWhile_append_of_pos noOpening]
    rfl
  have toBrace : (object ++ back).reverse.dropWhile (· ≠ '\x7d') = object.reverse := by
    obtain ⟨inner, rfl⟩ := List.getLast?_eq_some_iff.mp closes
    rw [List.reverse_append, List.dropWhile_append_of_pos noClosing, List.reverse_append]
    rfl
  have nonempty : object.isEmpty = false := by
    obtain ⟨inner, rfl⟩ := List.head?_eq_some_iff.mp opens
    rfl
  simp only [braced?, fromBrace, toBrace, List.reverse_reverse, nonempty, Bool.false_eq_true,
    if_false]

/-- What stands in front of an object and is no space keeps the text from being JSON, and so does
what stands behind it. -/
theorem read_or_misread (chatterFront : IsChatter front) (opens : object.head? = some '\x7b')
    (isObject : Json.read object nesting = .ok value) (back : Text) :
    Json.read (Text.trimLeft front ++ object ++ back) nesting = .ok value ∨
      ∃ expectation rest,
        Json.read (Text.trimLeft front ++ object ++ back) nesting =
          .error (.misread expectation rest) := by
  have chatter := chatterFront.of_subset (Text.trimLeft_suffix front).subset
  cases trimmed : Text.trimLeft front with
  | nil =>
      rw [List.nil_append, Json.read_object_append opens isObject]
      cases Json.skipSpace back with
      | nil => exact .inl rfl
      | cons char rest => exact .inr ⟨_, _, rfl⟩
  | cons char rest =>
      right
      obtain ⟨inner, rfl⟩ := List.head?_eq_some_iff.mp opens
      rw [trimmed] at chatter
      rw [List.append_assoc]
      apply Json.exists_misread_of_front
      · have visible := (Text.trimLeft_eq_self_iff _).mp (Text.trimLeft_trimLeft front)
        rw [trimmed] at visible
        exact ⟨char, rfl, isSpace_of_visible (visible char rfl)⟩
      · exact fun char isIn => chatter.isOpening_eq_false isIn
      · exact fun char isIn => (chatter char isIn).2

/-- However deep nesting may be, a review is read from an object in the same way, whatever chatter
and fences stand around the object. -/
theorem read_between (chatterFront : IsChatter front) (chatterBack : IsChatter back)
    (opens : object.head? = some '\x7b') (closes : object.getLast? = some '\x7d')
    (isObject : Json.read object nesting = .ok value) :
    read (some (front ++ object ++ back)) nesting = ofValue value := by
  have visible : ¬Text.isBlank (front ++ object ++ back) = true := by
    rw [Text.isBlank, List.all_eq_true]
    intro blank
    have isIn : '\x7b' ∈ front ++ object ++ back := by
      simp [List.mem_of_head? opens]
    exact absurd (blank _ isIn) (by decide +kernel)
  have before := chatterFront.of_subset
    ((withoutOpening_suffix_self _).trans (Text.trimLeft_suffix front)).subset
  have behind := chatterBack.of_subset
    ((withoutClosing_prefix_self _).trans (Text.trimRight_prefix_self back)).subset
  have isDocument : document (some (front ++ object ++ back)) nesting = .ok value := by
    rw [document, if_neg visible, unfenced_append opens closes, readOr]
    obtain isRead | ⟨expectation, rest, misread⟩ :=
      read_or_misread before opens isObject (withoutClosing (Text.trimRight back))
    · simp only [isRead]
    · have bounded := braced?_append (before.of_subset (Text.trimLeft_suffix _).subset) behind
        opens closes
      simp only [misread, search, bounded, readOr, isObject]
  rw [read, isDocument]
  rfl

end

/-- An object with a fence inside a text of its own. -/
def fencedSummary : Text :=
  "\x7b\"summary\": \"\x60\x60\x60json \x7b\x7d \x60\x60\x60\"\x7d".toList

theorem read_between_fences :
    ∃ value, Json.read fencedSummary = .ok value ∧
      read (some ("Well: \x60\x60\x60json\n".toList ++ fencedSummary ++
        "\n\x60\x60\x60\n".toList)) = ofValue value := by
  obtain ⟨value, isObject⟩ : ∃ value, Json.read fencedSummary = .ok value := by decide +kernel
  exact ⟨value, isObject,
    read_between (by decide) (by decide) (by decide) (by decide) isObject⟩

end Review

end Marginalia
