import Mathlib.Data.List.Forall2
import Mathlib.Tactic.Common
import Marginalia.Diff.Position
import Marginalia.Proofs.Text.Numeral
import Marginalia.Review.Placement

/-!
# Routing findings

The findings of a review are divided stably by whether their lines can carry a remark, and each that
cannot has one diagnostic.  A diagnostic leaves the reason out when the message ends in the range of
the file, and no message does so but the one on a line outside every hunk, whatever the file is
called: the other messages are too short, or hold no letter of that ending.
-/

namespace Marginalia

open Text

/-! ## Problems -/

/-- The line lies outside every hunk of a file that is found and still there after the change. -/
def Diff.LiesOutside (diff : Option Diff) (path : Text) (line : Option Int) : Prop :=
  isBlank path = false ∧ ∃ shown ∈ diff, ∃ number ∈ line, 0 < number ∧
    ∃ file, shown.survivorAt? path = some file ∧ ∀ hunk ∈ file.hunks, hunk.covers number = false

/-- A problem that names a path names this one. -/
def Misplacement.IsAbout (path : Text) : Misplacement → Prop
  | .absent name => name = path
  | .deleted name => name = path
  | .outside _ name => name = path
  | _ => True

/-- What a problem says of the line: the path that was asked for, and the range only of a line that
lies outside every hunk. -/
theorem Diff.isAbout_of_misplacement? {diff : Option Diff} {path : Text} {line : Option Int}
    {problem : Misplacement} (found : misplacement? diff (some path) line = some problem) :
    problem.IsAbout path ∧
      ((∃ number, problem = .outside number path) ↔ LiesOutside diff path line) := by
  cases diff with
  | none =>
      obtain rfl : .noDiff = problem := by simpa [misplacement?] using found
      simp [Misplacement.IsAbout, LiesOutside]
  | some shown =>
      by_cases blank : isBlank path = true
      · obtain rfl : .noPath = problem := by simpa [misplacement?, blank] using found
        simp [Misplacement.IsAbout, LiesOutside, blank]
      cases line with
      | none =>
          obtain rfl : .badLine none = problem := by simpa [misplacement?, blank] using found
          simp [Misplacement.IsAbout, LiesOutside]
      | some number =>
          by_cases nonpositive : number ≤ 0
          · obtain rfl : .badLine (some number) = problem := by
              simpa [misplacement?, blank, nonpositive] using found
            simp [Misplacement.IsAbout, LiesOutside, Int.not_lt.mpr nonpositive]
          have positive : 0 < number := Int.not_le.mp nonpositive
          cases isFile : shown.fileAt? path with
          | none =>
              obtain rfl : .absent path = problem := by
                simpa [misplacement?, blank, nonpositive, isFile] using found
              simp [Misplacement.IsAbout, LiesOutside, isFile]
          | some file =>
              cases deleted : file.isDeleted with
              | true =>
                  obtain rfl : .deleted path = problem := by
                    simpa [misplacement?, blank, nonpositive, isFile, deleted] using found
                  simp [Misplacement.IsAbout, LiesOutside, isFile, deleted]
              | false =>
                  obtain ⟨uncovered, outside⟩ : (∀ hunk ∈ file.hunks, hunk.covers number = false) ∧
                      .outside number path = problem := by
                    simpa [misplacement?, blank, nonpositive, isFile, deleted] using found
                  subst outside
                  simpa [Misplacement.IsAbout, LiesOutside, isFile, deleted, positive, blank]
                    using uncovered

namespace Misplacement

/-- Only the message on a line outside every hunk of a file ends in the range of the file. -/
theorem range_suffix_message_iff {problem : Misplacement} {path : Text}
    (about : problem.IsAbout path) :
    ("is outside every hunk of ".toList ++ path) <:+ problem.message ↔
      ∃ number, problem = .outside number path := by
  have tooShort (short : problem.message.length < 25 + path.length) :
      ¬("is outside every hunk of ".toList ++ path) <:+ problem.message := by
    intro suffix
    have bound := suffix.length_le
    simp at bound
    omega
  cases problem with
  | noDiff =>
      have size : noDiff.message.length = 7 := rfl
      exact iff_of_false (tooShort (by omega)) (by simp)
  | noPath =>
      have size : noPath.message.length = 12 := rfl
      exact iff_of_false (tooShort (by omega)) (by simp)
  | badLine line =>
      refine iff_of_false ?_ (by simp)
      cases line with
      | none =>
          have size : (badLine none).message.length = 24 := rfl
          exact tooShort (by omega)
      | some number =>
          -- The number may be long, but it holds no letter.
          intro suffix
          have inRange : 'h' ∈ "is outside every hunk of ".toList ++ path := by simp
          have inMessage : 'h' ∈ "invalid line number ".toList ++ ofInteger number :=
            suffix.mem inRange
          have inNumber : 'h' ∈ ofInteger number := by simpa using inMessage
          exact absurd (toNat_of_mem_ofInteger inNumber) (by decide)
  | absent name =>
      obtain rfl : name = path := about
      have size : (absent name).message.length = name.length + 24 := List.length_append
      exact iff_of_false (tooShort (by omega)) (by simp)
  | deleted name =>
      obtain rfl : name = path := about
      have size : (deleted name).message.length = name.length + 11 := List.length_append
      exact iff_of_false (tooShort (by omega)) (by simp)
  | outside number name =>
      obtain rfl : name = path := about
      have split : (outside number name).message =
          "line ".toList ++ ofInteger number ++ [' '] ++
            ("is outside every hunk of ".toList ++ name) := by
        change "line ".toList ++ ofInteger number ++ " is outside every hunk of ".toList ++ name = _
        simp
      exact iff_of_true ⟨_, split.symm⟩ ⟨number, rfl⟩

end Misplacement

/-! ## Diagnostics -/

/-- A finding as diagnostics speak of it. -/
structure Finding where
  /-- What it is called. -/
  subject : Text
  /-- The file that it is about. -/
  file : Text
  /-- The line of the new file that it is about. -/
  line : Option Int

/-- The issue as diagnostics speak of it. -/
def Issue.finding (issue : Issue) : Finding where
  subject := "Issue '".toList ++ issue.title ++ ['\x27']
  file := issue.file
  line := issue.line

/-- The note as diagnostics speak of it. -/
def Note.finding (note : Note) : Finding where
  subject := "Note".toList
  file := note.file
  line := note.line

/-- The findings of a review, the issues before the notes. -/
def Review.allFindings (review : Review) : List Finding :=
  review.issues.map Issue.finding ++ review.notes.map Note.finding

namespace Finding

/-- How the diagnostic of a finding opens: with the file and the line. -/
def opening (finding : Finding) : Text :=
  finding.subject ++ " at ".toList ++ finding.file ++ ':' :: lineText finding.line ++
    " is outside diff range".toList

/-- An entry tells why a finding cannot go inline: it names the file and the line, and ends in the
problem in parentheses unless the line lies outside every hunk of a surviving file. -/
structure IsToldBy (diff : Option Diff) (finding : Finding) (entry : Text) : Prop where
  /-- The file and the line are named. -/
  names : finding.opening <+: entry
  /-- The problem is given exactly when it is another than the range. -/
  explains : ∃ problem, Diff.misplacement? diff (some finding.file) finding.line = some problem ∧
    ('(' :: problem.message ++ [')'] <:+ entry ↔
      ¬Diff.LiesOutside diff finding.file finding.line)

/-- The diagnostic of a finding tells of it. -/
theorem isToldBy_diagnostic (finding : Finding) {diff : Option Diff} {problem : Misplacement}
    (found : Diff.misplacement? diff (some finding.file) finding.line = some problem) :
    finding.IsToldBy diff (diagnostic finding.subject finding.file finding.line problem) := by
  obtain ⟨about, outside⟩ := Diff.isAbout_of_misplacement? found
  have isRange := (Misplacement.range_suffix_message_iff about).trans outside
  have told : diagnostic finding.subject finding.file finding.line problem =
      finding.opening ++ problem.remark finding.file := rfl
  rw [told]
  refine ⟨List.prefix_append _ _, problem, found, ?_⟩
  rw [← isRange, Misplacement.remark]
  by_cases range : ("is outside every hunk of ".toList ++ finding.file) <:+ problem.message
  · rw [if_pos (List.isSuffixOf_iff_suffix.mpr range), List.append_nil]
    refine iff_of_false ?_ (not_not_intro range)
    -- Without a remark the entry ends in a letter.
    obtain ⟨start, letter⟩ : ∃ start, finding.opening = start ++ ['e'] :=
      ⟨finding.subject ++ " at ".toList ++ finding.file ++ ':' :: lineText finding.line ++
        " is outside diff rang".toList, by simp [opening]⟩
    rintro ⟨front, same⟩
    rw [letter, ← List.append_assoc] at same
    have last := congrArg List.getLast? same
    rw [List.getLast?_concat, List.getLast?_concat] at last
    exact absurd (Option.some.inj last) (by decide)
  · rw [if_neg (mt List.isSuffixOf_iff_suffix.mp range)]
    refine iff_of_true ⟨finding.opening ++ [' '], ?_⟩ range
    simp

end Finding

/-! ## Dividing -/

/-- A list divided by a test: both parts stand in the order of the list, and every item of the list
stands in the part that the test decides. -/
inductive Divides {Item : Type} (passes : Item → Prop) :
    List Item → List Item → List Item → Prop where
  /-- Nothing is left to divide. -/
  | nil : Divides passes [] [] []
  /-- An item that passes the test is put into the first part. -/
  | pass {item : Item} {items kept others : List Item} (passing : passes item)
      (rest : Divides passes items kept others) :
      Divides passes (item :: items) (item :: kept) others
  /-- An item that does not is put into the second. -/
  | fail {item : Item} {items kept others : List Item} (failing : ¬passes item)
      (rest : Divides passes items kept others) :
      Divides passes (item :: items) kept (item :: others)

section

variable {Item Problem : Type} (problem? : Item → Option Problem) (items : List Item)

theorem divides_filter :
    Divides (fun item => problem? item = none) items
      (items.filter fun item => (problem? item).isNone)
      (items.filter fun item => (problem? item).isSome) := by
  induction items with
  | nil => exact .nil
  | cons item items induct =>
      cases found : problem? item with
      | none =>
          rw [List.filter_cons_of_pos (by simp [found]), List.filter_cons_of_neg (by simp [found])]
          exact .pass found induct
      | some problem =>
          rw [List.filter_cons_of_neg (by simp [found]), List.filter_cons_of_pos (by simp [found])]
          exact .fail (by simp [found]) induct

/-- What is told of the items with a problem stands in their order, one entry for each. -/
theorem forall₂_filterMap {Told : Item → Text → Prop} {tell : Item → Problem → Text}
    (told : ∀ item problem, problem? item = some problem → Told item (tell item problem)) :
    List.Forall₂ Told (items.filter fun item => (problem? item).isSome)
      (items.filterMap fun item => (problem? item).map (tell item)) := by
  induction items with
  | nil => exact .nil
  | cons item items induct =>
      cases found : problem? item with
      | none => simpa [List.filter_cons, List.filterMap_cons, found] using induct
      | some problem =>
          simpa [List.filter_cons, List.filterMap_cons, found] using
            ⟨told item problem found, induct⟩

/-- Nothing is left to be moved to the other side. -/
theorem filter_filter_other :
    ((items.filter fun item => (problem? item).isNone).filter fun item => (problem? item).isSome) =
        [] ∧
      ((items.filter fun item => (problem? item).isSome).filter fun item =>
        (problem? item).isNone) = [] := by
  constructor <;> simp [List.filter_eq_nil_iff, Option.isSome_iff_ne_none]

end

namespace Review

/-- Placing divides the issues and the notes of a review stably by whether they have a problem,
keeps the summary inline, and tells of every finding in the fallback in order; and there is nothing
to divide in what it has placed. -/
theorem place_divides (diff : Option Diff) (review : Review) :
    (Divides (fun issue : Issue => issue.misplacement? diff = none) review.issues
        (review.place diff).inline.issues (review.place diff).fallback.issues ∧
      Divides (fun note : Note => note.misplacement? diff = none) review.notes
        (review.place diff).inline.notes (review.place diff).fallback.notes) ∧
      ((review.place diff).inline.summary = review.summary ∧
        (review.place diff).fallback.summary = .null) ∧
      (review.place diff).total = review.itemCount ∧
      List.Forall₂ (Finding.IsToldBy diff) (review.place diff).fallback.allFindings
        (review.place diff).diagnostics ∧
      ((review.place diff).inline.place diff).fallback = {} ∧
        ((review.place diff).fallback.place diff).inline.issues = [] ∧
          ((review.place diff).fallback.place diff).inline.notes = [] := by
  have issues := filter_filter_other (Issue.misplacement? diff) review.issues
  have notes := filter_filter_other (Note.misplacement? diff) review.notes
  refine ⟨⟨divides_filter _ _, divides_filter _ _⟩, ⟨rfl, rfl⟩, review.total_place diff, ?_, ?_,
    issues.2, notes.2⟩
  · refine List.rel_append ?_ ?_
    · rw [List.forall₂_map_left_iff]
      exact forall₂_filterMap _ _ fun issue _ found => issue.finding.isToldBy_diagnostic found
    · rw [List.forall₂_map_left_iff]
      exact forall₂_filterMap _ _ fun note _ found => note.finding.isToldBy_diagnostic found
  · simp [place, issues.1, notes.1]

/-- A file may be called like the ending of the message; the reason is given all the same. -/
example :
    (({ notes := [{ file := "is outside every hunk of f".toList, line := some 1 }] } : Review).place
        (some {})).diagnostics =
      ["Note at is outside every hunk of f:1 is outside diff range (".toList ++
        "is outside every hunk of f is not part of the diff)".toList] := by
  decide

end Review

end Marginalia
