import Mathlib.Tactic.Common
import Marginalia.Proofs.Json.Nesting
import Marginalia.Proofs.Value.Conversion
import Marginalia.Review.Reader

/-!
# What reading a review ends in

A caller of the reader tells the user of a faulty value, and of nothing else.  Reading ends in a
review or in such a fault on every text, unless its document is given up because it is nested too
deep, or the first finding of the document that cannot be read has an infinite line, or a score that
is a list, a mapping or too large an integer.
-/

namespace Marginalia

/-! ## Fields -/

theorem escapes_readLineNumber_iff {found : Option Value} :
    Escapes Value.Fault.family (readLineNumber found) ↔ ∃ value ∈ found, value.IsInfinite := by
  cases found with
  | none => simp [readLineNumber, not_escapes_ok]
  | some value =>
      rw [readLineNumber]
      simp only [Option.mem_def, Option.some.injEq, exists_eq_left',
        ← Value.toInteger_eq_infinity_iff]
      split
      · rename_i number isNumber
        simp [isNumber, not_escapes_ok]
      · rename_i isInfinity
        simp [isInfinity, escapes_error_iff, Value.Fault.family]
      · rename_i fault other isFault
        simpa [isFault, not_escapes_ok] using other

/-! ## Findings -/

/-- The mapping is an issue with an infinite line, or with a score that no decimal is made from. -/
def Issue.IsSpoiled (entries : List (Value × Value)) : Prop :=
  (∃ value ∈ firstField? ["start_line", "startLine", "line"] entries, value.IsInfinite) ∨
    ∃ value ∈ firstField? ["confidence_score", "confidenceScore"] entries, value.IsBeyondDecimals

/-- The mapping is a note with an infinite line. -/
def Note.IsSpoiled (entries : List (Value × Value)) : Prop :=
  ∃ value ∈ firstField? ["line", "start_line", "startLine"] entries, value.IsInfinite

variable {entries : List (Value × Value)}

theorem exists_readLineNumber_iff {found : Option Value} :
    (∃ line, readLineNumber found = .ok line) ↔ ¬∃ value ∈ found, value.IsInfinite := by
  rw [← escapes_readLineNumber_iff, not_escapes_iff]
  constructor
  · exact .inl
  · rintro (isLine | ⟨fault, failed, faulty⟩)
    · exact isLine
    · rw [readLineNumber.eq_def] at failed
      split at failed
      · cases failed
      · split at failed
        · cases failed
        · obtain rfl := Except.error.inj failed
          cases faulty
        · cases failed

theorem Issue.escapes_ofValue_iff :
    Escapes Value.Fault.family (ofValue (.mapping entries)) ↔ IsSpoiled entries := by
  have scores : Escapes Value.Fault.family
      ((firstField? ["confidence_score", "confidenceScore"] entries).mapM (·.toDecimal)) ↔
        ∃ value ∈ firstField? ["confidence_score", "confidenceScore"] entries,
          value.IsBeyondDecimals := by
    cases firstField? ["confidence_score", "confidenceScore"] entries with
    | none => simp [not_escapes_pure]
    | some value => simp [escapes_map_iff, escapes_toDecimal_iff]
  change Escapes _ (readLineNumber _ >>= fun line => Option.mapM _ _ >>= fun score => pure _) ↔ _
  rw [escapes_bind_iff]
  simp only [escapes_bind_of_total fun _ => not_escapes_pure _ _, scores]
  -- The score is only looked at when the line was read, but a line that was not escapes by itself.
  rw [exists_and_right, exists_readLineNumber_iff, escapes_readLineNumber_iff, IsSpoiled,
    or_and_left, and_iff_right (Classical.em _)]

theorem Note.escapes_ofValue_iff :
    Escapes Value.Fault.family (ofValue (.mapping entries)) ↔ IsSpoiled entries := by
  change Escapes _ (readLineNumber _ >>= fun line => pure _) ↔ _
  rw [escapes_bind_of_total fun _ => not_escapes_pure _ _, escapes_readLineNumber_iff, IsSpoiled]

namespace Review

/-! ## Reviews -/

theorem exists_mapping_of_strayEntry? {key : Text} {index : Nat} {items : List Value}
    (noStray : strayEntry? key index items = none) :
    ∀ item ∈ items, ∃ entries, item = .mapping entries := by
  induction items generalizing index with
  | nil => simp
  | cons item items induct =>
      rw [List.forall_mem_cons]
      cases item with
      | mapping entries => exact ⟨⟨entries, rfl⟩, induct noStray⟩
      | _ => cases noStray

theorem family_of_strayEntry? {key : Text} {index : Nat} {items : List Value} {fault : Fault}
    (stray : strayEntry? key index items = some fault) : fault.family = .value := by
  induction items generalizing index with
  | nil => cases stray
  | cons item items induct =>
      cases item with
      | mapping entries => exact induct stray
      | _ =>
          obtain rfl := Option.some.inj stray
          rfl

/-- What stands in a list of findings is a mapping. -/
theorem exists_mapping_of_findings {key : Text} {found : Option Value} {items : List Value}
    (isList : findings key found = .ok items) :
    ∀ item ∈ items, ∃ entries, item = .mapping entries := by
  rw [findings.eq_def] at isList
  split at isList
  · obtain rfl := Except.ok.inj isList
    simp
  · obtain rfl := Except.ok.inj isList
    simp
  · split at isList
    · cases isList
    · rename_i noStray
      obtain rfl := Except.ok.inj isList
      exact exists_mapping_of_strayEntry? noStray
  · cases isList

theorem not_escapes_findings (key : Text) (found : Option Value) :
    ¬Escapes Fault.family (findings key found) := by
  rw [findings.eq_def]
  split
  · exact not_escapes_ok _ _
  · exact not_escapes_ok _ _
  · split
    · rename_i fault stray
      simp [escapes_error_iff, family_of_strayEntry? stray]
    · exact not_escapes_ok _ _
  · simp [escapes_error_iff, Fault.family]

section

variable {Finding : Type} {read : Value → Except Value.Fault Finding}
  {Spoiled : List (Value × Value) → Prop} {items : List Value}

/-- The first of several findings that cannot be read is spoiled. -/
def StopsAtSpoiled (read : Value → Except Value.Fault Finding)
    (Spoiled : List (Value × Value) → Prop) (items : List Value) : Prop :=
  ∃ front entries back, items = front ++ .mapping entries :: back ∧
    (∀ former ∈ front, ∃ finding, read former = .ok finding) ∧ Spoiled entries

theorem exists_readAll_iff :
    (∃ findings, readAll read items = .ok findings) ↔
      ∀ item ∈ items, ∃ finding, read item = .ok finding := by
  rw [← exists_mapM_eq_ok_iff, readAll]
  cases items.mapM read <;> simp

theorem escapes_readAll_iff
    (spoiled : ∀ entries, Escapes Value.Fault.family (read (.mapping entries)) ↔ Spoiled entries)
    (mappings : ∀ item ∈ items, ∃ entries, item = .mapping entries) :
    Escapes Fault.family (readAll read items) ↔ StopsAtSpoiled read Spoiled items := by
  have lifted : Escapes Fault.family (readAll read items) ↔
      Escapes Value.Fault.family (items.mapM read) := by
    rw [readAll]
    cases items.mapM read with
    | error cause => simp [escapes_error_iff, Fault.family]
    | ok findings => simp [not_escapes_ok]
  rw [lifted, StopsAtSpoiled]
  constructor
  · rintro ⟨fault, failed, escapes⟩
    obtain ⟨front, item, back, rfl, passed, failing⟩ := mapM_eq_error_iff.mp failed
    obtain ⟨entries, rfl⟩ := mappings item (by simp)
    exact ⟨front, entries, back, rfl, passed, (spoiled entries).mp ⟨fault, failing, escapes⟩⟩
  · rintro ⟨front, entries, back, rfl, passed, isSpoiled⟩
    obtain ⟨fault, failing, escapes⟩ := (spoiled entries).mpr isSpoiled
    exact ⟨fault, mapM_eq_error_iff.mpr ⟨front, _, back, rfl, passed, failing⟩, escapes⟩

end

/-- The first of the findings that cannot be read is spoiled, where the issues come first and each
kind of findings is looked at only when it is a list of mappings. -/
def IsSpoiled (entries : List (Value × Value)) : Prop :=
  ∃ issues, findings "issues".toList (Value.field? "issues".toList entries) = .ok issues ∧
    (StopsAtSpoiled Issue.ofValue Issue.IsSpoiled issues ∨
      (∀ item ∈ issues, ∃ issue, Issue.ofValue item = .ok issue) ∧
        ∃ notes, findings "notes".toList
            (firstField? ["non_blocking_notes", "nonBlockingNotes", "notes"] entries) = .ok notes ∧
          StopsAtSpoiled Note.ofValue Note.IsSpoiled notes)

theorem escapes_notes_iff {found : Option Value} (view : List Note → Review) :
    Escapes Fault.family (do
        let notes ← findings "notes".toList found
        let notes ← readAll Note.ofValue notes
        pure (view notes)) ↔
      ∃ notes, findings "notes".toList found = .ok notes ∧
        StopsAtSpoiled Note.ofValue Note.IsSpoiled notes := by
  rw [escapes_bind_iff, or_iff_right (not_escapes_findings _ _)]
  refine exists_congr fun notes => and_congr_right fun areNotes => ?_
  rw [escapes_bind_of_total fun _ => not_escapes_pure _ _]
  exact escapes_readAll_iff (fun _ => Note.escapes_ofValue_iff)
    (exists_mapping_of_findings areNotes)

theorem escapes_ofValue_iff {value : Value} :
    Escapes Fault.family (ofValue value) ↔
      ∃ entries, value = .mapping entries ∧ IsSpoiled entries := by
  cases value with
  | mapping entries =>
      simp only [Value.mapping.injEq, exists_eq_left']
      rw [ofValue, escapes_bind_iff, or_iff_right (not_escapes_findings _ _)]
      refine exists_congr fun issues => and_congr_right fun areIssues => ?_
      rw [escapes_bind_iff,
        escapes_readAll_iff (fun _ => Issue.escapes_ofValue_iff)
          (exists_mapping_of_findings areIssues)]
      -- Whether the notes escape does not depend on what the issues were read as.
      simp only [escapes_notes_iff]
      rw [exists_and_right, exists_readAll_iff]
  | _ => simp [ofValue, escapes_error_iff, Fault.family]

/-! ## Documents -/

section

variable {raw : Option Text} {text : Text} {nesting larger : Nat}
  {otherwise other : Json.Fault → Except Fault Value}

theorem escapes_readOr_iff :
    Escapes Fault.family (readOr otherwise text nesting) ↔
      Escapes Json.Fault.family (Json.read text nesting) ∨
        ∃ expectation rest, Json.read text nesting = .error (.misread expectation rest) ∧
          Escapes Fault.family (otherwise (.misread expectation rest)) := by
  rw [readOr]
  cases Json.read text nesting with
  | ok value => simp [not_escapes_ok]
  | error cause => cases cause <;> simp [escapes_error_iff, Fault.family, Json.Fault.family]

/-- What is not given up stays as it is where deeper nesting is allowed. -/
theorem readOr_of_le (deeper : nesting ≤ larger)
    (same : ∀ cause, ¬Escapes Fault.family (otherwise cause) → other cause = otherwise cause)
    (stays : ¬Escapes Fault.family (readOr otherwise text nesting)) :
    readOr other text larger = readOr otherwise text nesting := by
  rw [escapes_readOr_iff, not_or] at stays
  rw [readOr, readOr, Json.read_of_le deeper stays.1]
  cases isRead : Json.read text nesting with
  | ok value => rfl
  | error cause =>
      cases cause with
      | misread expectation rest =>
          exact same _ fun escapes => stays.2 ⟨expectation, rest, isRead, escapes⟩
      | numeralTooLong digits => rfl
      | tooDeep opening => rfl

theorem search_of_le (deeper : nesting ≤ larger) (cause : Json.Fault)
    (stays : ¬Escapes Fault.family (search text nesting cause)) :
    search text larger cause = search text nesting cause := by
  rw [search.eq_def] at stays ⊢
  rw [search.eq_def text nesting]
  cases found : braced? text with
  | none => rfl
  | some body =>
      rw [found] at stays
      exact readOr_of_le deeper (fun _ _ => rfl) stays

theorem document_of_le (deeper : nesting ≤ larger)
    (stays : ¬Escapes Fault.family (document raw nesting)) :
    document raw larger = document raw nesting := by
  rw [document.eq_def] at stays ⊢
  rw [document.eq_def raw nesting]
  cases raw with
  | none => rfl
  | some raw =>
      simp only at stays ⊢
      split
      · rfl
      · rename_i visible
        rw [if_neg visible] at stays
        exact readOr_of_le deeper (search_of_le deeper) stays

theorem length_le_of_braced? {body : Text} (found : braced? text = some body) :
    body.length ≤ text.length := by
  have fromBrace := (List.dropWhile_suffix (l := text) (· ≠ '\x7b')).length_le
  have toBrace := (List.dropWhile_suffix (l := (text.dropWhile (· ≠ '\x7b')).reverse)
    (· ≠ '\x7d')).length_le
  simp only [braced?, Option.ite_none_left_eq_some, Option.some.injEq] at found
  rw [List.length_reverse] at toBrace
  rw [← found.2, List.length_reverse]
  exact toBrace.trans fromBrace

theorem not_escapes_search (cause : Json.Fault) (fits : text.length ≤ nesting) :
    ¬Escapes Fault.family (search text nesting cause) := by
  rw [search.eq_def]
  split
  · exact fun escapes => escapes_error_iff.mp escapes rfl
  · rename_i body found
    rw [escapes_readOr_iff, not_or]
    refine ⟨Json.not_escapes_read ((length_le_of_braced? found).trans fits), ?_⟩
    rintro ⟨expectation, rest, -, escapes⟩
    exact escapes_error_iff.mp escapes rfl

/-- No text is given up where nesting is allowed to be deep enough. -/
theorem exists_not_escapes_document (raw : Option Text) (nesting : Nat) :
    ∃ room, nesting ≤ room ∧ ¬Escapes Fault.family (document raw room) := by
  cases raw with
  | none => exact ⟨nesting, Nat.le_refl nesting, fun escapes => escapes_error_iff.mp escapes rfl⟩
  | some raw =>
      by_cases blank : Text.isBlank raw = true
      · refine ⟨nesting, Nat.le_refl nesting, ?_⟩
        rw [document, if_pos blank]
        exact fun escapes => escapes_error_iff.mp escapes rfl
      · have fits := Nat.le_max_right nesting (unfenced raw).length
        refine ⟨max nesting (unfenced raw).length, Nat.le_max_left _ _, ?_⟩
        rw [document, if_neg blank, escapes_readOr_iff, not_or]
        refine ⟨Json.not_escapes_read fits, ?_⟩
        rintro ⟨expectation, rest, -, escapes⟩
        exact not_escapes_search _ fits escapes

/-- A document is given up exactly when it would be another one if nesting were allowed to be
deeper. -/
theorem not_escapes_document_iff :
    ¬Escapes Fault.family (document raw nesting) ↔
      ∀ room, nesting ≤ room → document raw room = document raw nesting := by
  constructor
  · exact fun stays room deeper => document_of_le deeper stays
  · intro same
    obtain ⟨room, deeper, stays⟩ := exists_not_escapes_document raw nesting
    rwa [same room deeper] at stays

end

/-- However deep nesting may be, reading ends in a review or in a faulty value exactly when deeper
nesting would make no difference to the document and the document is not spoiled. -/
theorem read_or_faulty_value_iff (raw : Option Text) (nesting : Nat) :
    ((∃ review, read raw nesting = .ok review) ∨
        ∃ fault, read raw nesting = .error fault ∧ fault.family = .value) ↔
      (∀ room, nesting ≤ room → document raw room = document raw nesting) ∧
        ∀ entries, document raw nesting = .ok (.mapping entries) → ¬IsSpoiled entries := by
  rw [← not_escapes_document_iff, ← not_escapes_iff, read, escapes_bind_iff, not_or]
  refine and_congr_right fun _ => ?_
  simp only [escapes_ofValue_iff]
  constructor
  · intro never entries isDocument isSpoiled
    exact never ⟨_, isDocument, entries, rfl, isSpoiled⟩
  · rintro never ⟨value, isDocument, entries, rfl, isSpoiled⟩
    exact never entries isDocument isSpoiled

/-- An issue at an infinite line. -/
theorem exists_read_escapes :
    ∃ (raw : Text) (fault : Fault), read (some raw) = .error fault ∧ fault.family ≠ .value := by
  have escapes : Escapes Fault.family
      (read (some "\x7b\"issues\":[\x7b\"line\":Infinity\x7d]\x7d".toList)) := by
    decide +kernel
  exact ⟨_, escapes⟩

end Review

end Marginalia
