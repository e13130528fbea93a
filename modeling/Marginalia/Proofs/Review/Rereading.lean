import Mathlib.Tactic.Common
import Marginalia.Proofs.Review.Handling
import Marginalia.Proofs.Text.Lowercase

/-!
# Reading a review again

A review is written with one key for each field, and keys that may be spelled in several ways are
read in the spelling in which they are written.  Lower-casing the gravity of an issue is all that
reading changes, and it changes nothing the second time, so a review that was read is what reading
it again gives.
-/

namespace Marginalia

/-- The first value that is not null, of those that are there under several keys. -/
theorem firstField?_eq (names : List String) (entries : List (Value × Value)) :
    firstField? names entries =
      (names.filterMap fun name => Value.field? name.toList entries).find? (·.kind ≠ .null) := by
  rw [firstField?]
  induction names with
  | nil => rfl
  | cons name names induct =>
      rw [List.findSome?_cons, List.filterMap_cons, induct]
      cases found : Value.field? name.toList entries with
      | none => rfl
      | some value => cases value <;> rfl

theorem Issue.ofValue_toValue (issue : Issue) :
    ofValue issue.toValue = .ok { issue with severity := Text.lowercase issue.severity } := by
  obtain ⟨file, line, severity, title, suggestion, score⟩ := issue
  cases line <;> cases score <;> rfl

theorem Note.ofValue_toValue (note : Note) : ofValue note.toValue = .ok note := by
  obtain ⟨file, line, content⟩ := note
  cases line <;> rfl

/-- The gravity of an issue that was read is in lower case. -/
theorem Issue.lowercase_severity_of_ofValue {value : Value} {issue : Issue}
    (isRead : ofValue value = .ok issue) : Text.lowercase issue.severity = issue.severity := by
  obtain ⟨entries, -, made⟩ := bind_eq_ok_iff.mp isRead
  obtain ⟨line, -, made⟩ := bind_eq_ok_iff.mp made
  obtain ⟨score, -, last⟩ := bind_eq_ok_iff.mp made
  obtain rfl := Except.ok.inj last
  exact Text.lowercase_lowercase _

namespace Review

section

variable {Finding : Type} {read : Value → Except Value.Fault Finding} {found : Option Value}
  {results : List Finding}

/-- Each item of a list is read, in order; where there is no list or null, there are no findings. -/
def IsReadOneByOne (read : Value → Except Value.Fault Finding) (found : Option Value)
    (results : List Finding) : Prop :=
  (found = none ∨ found = some .null) ∧ results = [] ∨
    ∃ items, found = some (.list items) ∧
      List.Forall₂ (fun item finding => read item = .ok finding) items results

theorem readAll_eq_ok_iff {items : List Value} :
    readAll read items = .ok results ↔ items.mapM read = .ok results := by
  rw [readAll]
  cases items.mapM read <;> simp

theorem isReadOneByOne_of_readAll {key : Text} {items : List Value}
    (isList : findings key found = .ok items) (areRead : readAll read items = .ok results) :
    IsReadOneByOne read found results := by
  rw [readAll_eq_ok_iff, mapM_eq_ok_iff_forall₂] at areRead
  rw [findings.eq_def] at isList
  split at isList
  · obtain rfl := Except.ok.inj isList
    exact .inl ⟨.inl rfl, List.forall₂_nil_left_iff.mp areRead⟩
  · obtain rfl := Except.ok.inj isList
    exact .inl ⟨.inr rfl, List.forall₂_nil_left_iff.mp areRead⟩
  · split at isList
    · cases isList
    · obtain rfl := Except.ok.inj isList
      exact .inr ⟨_, rfl, areRead⟩
  · cases isList

end

theorem strayEntry?_map_mapping {Finding : Type} (key : Text) (index : Nat)
    {view : Finding → Value} (mappings : ∀ finding, ∃ entries, view finding = .mapping entries)
    (items : List Finding) : strayEntry? key index (items.map view) = none := by
  induction items generalizing index with
  | nil => rfl
  | cons finding items induct =>
      obtain ⟨entries, isMapping⟩ := mappings finding
      rw [List.map_cons, isMapping]
      exact induct (index + 1)

theorem findings_map_mapping {Finding : Type} (key : Text) (view : Finding → Value)
    (mappings : ∀ finding, ∃ entries, view finding = .mapping entries)
    (items : List Finding) :
    findings key (some (.list (items.map view))) = .ok (items.map view) := by
  rw [findings, strayEntry?_map_mapping key 0 mappings]

/-- Findings that were read are read again as they are. -/
theorem readAll_map {Finding : Type} {read : Value → Except Value.Fault Finding}
    {view : Finding → Value} {items : List Finding}
    (again : ∀ finding ∈ items, read (view finding) = .ok finding) :
    readAll read (items.map view) = .ok items := by
  rw [readAll_eq_ok_iff, mapM_eq_ok_iff_forall₂, List.forall₂_map_left_iff, List.forall₂_same]
  exact again

/-- Each finding is written under the first key at which it is looked for. -/
theorem ofValue_toValue {review : Review}
    (lower : ∀ issue ∈ review.issues, Text.lowercase issue.severity = issue.severity) :
    ofValue review.toValue = .ok review := by
  have issues : readAll Issue.ofValue (review.issues.map Issue.toValue) = .ok review.issues := by
    apply readAll_map
    intro issue isIssue
    rw [Issue.ofValue_toValue, lower issue isIssue]
  have notes : readAll Note.ofValue (review.notes.map Note.toValue) = .ok review.notes :=
    readAll_map fun note _ => note.ofValue_toValue
  have issueItems := findings_map_mapping "issues".toList Issue.toValue
    (fun issue => ⟨_, rfl⟩) review.issues
  have noteItems := findings_map_mapping "notes".toList Note.toValue
    (fun note => ⟨_, rfl⟩) review.notes
  exact ofValue_eq_ok_iff.mpr ⟨_, _, _, rfl, issueItems, issues, noteItems, notes, rfl⟩

/-- A review that was read is written so that reading it gives it again, and it has one finding for
each that was there to read: the issues stand under one key, the notes under the first of several
keys that is there and is not null. -/
theorem read_again {value : Value} {review : Review} (isRead : ofValue value = .ok review) :
    ofValue review.toValue = .ok review ∧
      ∃ entries, value = .mapping entries ∧
        IsReadOneByOne Issue.ofValue (Value.field? "issues".toList entries) review.issues ∧
        IsReadOneByOne Note.ofValue
          ((["non_blocking_notes", "nonBlockingNotes", "notes"].filterMap fun name =>
            Value.field? name.toList entries).find? (·.kind ≠ .null)) review.notes := by
  obtain ⟨entries, issueItems, noteItems, rfl, areIssues, issuesRead, areNotes, notesRead, -⟩ :=
    ofValue_eq_ok_iff.mp isRead
  rw [firstField?_eq] at areNotes
  refine ⟨?again, entries, rfl, isReadOneByOne_of_readAll areIssues issuesRead,
    isReadOneByOne_of_readAll areNotes notesRead⟩
  apply ofValue_toValue
  intro issue isIssue
  rw [readAll_eq_ok_iff] at issuesRead
  obtain ⟨item, -, itemRead⟩ := (mem_iff_of_mapM_eq_ok issuesRead issue).mp isIssue
  exact Issue.lowercase_severity_of_ofValue itemRead

/-- A document with other spellings of its keys, a score that is no number, a line that is a text
and notes under the last of their keys. -/
def freelySpelled : Value :=
  .mapping
    [entry "issues" (.list [.mapping
      [entry "path" (.text "a".toList), entry "startLine" (.text " 7 ".toList),
        entry "severity" (.text "ΜΕΓΑΣ".toList), entry "confidenceScore" (.decimal (0 / 0))]]),
    entry "non_blocking_notes" .null,
    entry "notes" (.list [.mapping [entry "file" .null, entry "note" (.bool true)], .mapping []])]

theorem read_again_freelySpelled :
    ∃ review, ofValue freelySpelled = .ok review ∧ ofValue review.toValue = .ok review := by
  obtain ⟨review, isRead⟩ : ∃ review, ofValue freelySpelled = .ok review := by decide +kernel
  exact ⟨review, isRead, (read_again isRead).1⟩

end Review

end Marginalia
