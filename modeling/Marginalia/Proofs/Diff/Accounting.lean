import Mathlib.Data.List.Forall2
import Mathlib.Tactic.Common
import Marginalia.Proofs.Diff.Provenance

/-!
# Accounting for hunks

A line that opens like a hunk header is either refused, and then the first such line is the one that
the fault names, or it opens the next hunk of the diff.  The body of a hunk is the unbroken run of
lines behind its header that the counts admit; whatever stands behind the run is never attached to
the hunk, and no line of the run is lost.
-/

namespace Marginalia

open Text

/-! ## Bodies -/

namespace Hunk

/-- The header declares more lines of the old or of the new file than stand among body lines. -/
def IsUnmetBy (hunk : Hunk) (taken : List BodyLine) : Prop :=
  (taken.countP (·.kind.inOld) : Nat) < hunk.oldCount ∨
    (taken.countP (·.kind.inNew) : Nat) < hunk.newCount

/-- The body lines that a hunk takes from the lines behind its header, when it has taken some
already: as long as a count is unmet all that are marked or empty, then only remarks about a missing
line feed, and none behind the first line that it does not take. -/
inductive Takes (hunk : Hunk) : List BodyLine → List Text → List BodyLine → Prop where
  /-- No line is left. -/
  | finish {taken : List BodyLine} : Takes hunk taken [] []
  /-- While a count is unmet, a line that can be read as body is body. -/
  | owed {taken more : List BodyLine} {line : Text} {lines : List Text} {body : BodyLine}
      (unmet : hunk.IsUnmetBy taken) (source : body.IsReadFrom [line])
      (rest : Takes hunk (taken ++ [body]) lines more) :
      Takes hunk taken (line :: lines) (body :: more)
  /-- Once the counts are met, a remark about a missing line feed is body. -/
  | remark {taken more : List BodyLine} {content : Text} {lines : List Text}
      (met : ¬hunk.IsUnmetBy taken)
      (rest : Takes hunk (taken ++ [⟨.noNewline, content⟩]) lines more) :
      Takes hunk taken (('\\' :: content) :: lines) (⟨.noNewline, content⟩ :: more)
  /-- A line that cannot be read as body ends a hunk with an unmet count. -/
  | foreign {taken : List BodyLine} {line : Text} {lines : List Text}
      (unmet : hunk.IsUnmetBy taken) (unmarked : ∀ body : BodyLine, ¬body.IsReadFrom [line]) :
      Takes hunk taken (line :: lines) []
  /-- A line that is no remark ends a hunk whose counts are met. -/
  | full {taken : List BodyLine} {line : Text} {lines : List Text}
      (met : ¬hunk.IsUnmetBy taken) (noRemark : ¬['\\'] <+: line) :
      Takes hunk taken (line :: lines) []

/-- What a hunk is owed when it has taken some body lines. -/
def owedBehind (hunk : Hunk) (taken : List BodyLine) : Diff.Owed where
  old := hunk.oldCount - (taken.countP (·.kind.inOld) : Nat)
  new := hunk.newCount - (taken.countP (·.kind.inNew) : Nat)

theorem owedBehind_nil (hunk : Hunk) : hunk.owedBehind [] = ⟨hunk.oldCount, hunk.newCount⟩ := by
  simp [owedBehind]

theorem take_owedBehind (hunk : Hunk) (taken : List BodyLine) (body : BodyLine) :
    (hunk.owedBehind taken).take body.kind = hunk.owedBehind (taken ++ [body]) := by
  cases old : body.kind.inOld <;> cases new : body.kind.inNew <;>
    simp [owedBehind, Diff.Owed.take, old, new] <;> omega

theorem isUnmet_owedBehind_iff (hunk : Hunk) (taken : List BodyLine) :
    (hunk.owedBehind taken).isUnmet = true ↔ hunk.IsUnmetBy taken := by
  simp [owedBehind, Diff.Owed.isUnmet, IsUnmetBy]

end Hunk

namespace Diff

theorem bodyLine?_eq_some_iff (line : Text) (body : BodyLine) :
    bodyLine? line = some body ↔ body.IsReadFrom [line] := by
  constructor
  · exact isReadFrom_of_bodyLine? (List.mem_singleton_self line)
  · rintro (rendered | ⟨empty, rfl⟩)
    · obtain rfl := List.mem_singleton.mp rendered
      simp [BodyLine.render, bodyLine?]
    · obtain rfl := List.mem_singleton.mp empty
      rfl

/-- Behind the last owed line nothing but a remark about a missing line feed is body. -/
theorem readOutside_eq_body_iff (line : Text) (body : BodyLine) :
    readOutside true line = .ok (.body body) ↔
      line = '\\' :: body.content ∧ body.kind = .noNewline := by
  constructor
  · intro found
    unfold readOutside at found
    split at found
    case h_3 rest =>
      cases header : readHeader ('@' :: '@' :: rest) <;> simp [header, Except.map] at found
    all_goals simp at found
    case h_4 content =>
      subst found
      exact ⟨rfl, rfl⟩
  · rintro ⟨rfl, remark⟩
    obtain ⟨kind, content⟩ := body
    subst remark
    rfl

/-- A line is body of an open hunk when it can be read as body while a count is unmet, or is a
remark about a missing line feed. -/
theorem readItem_eq_body_iff (owed : Owed) (line : Text) (body : BodyLine) :
    readItem (some owed) line = .ok (.body body) ↔
      owed.isUnmet = true ∧ body.IsReadFrom [line] ∨
        owed.isUnmet = false ∧ line = '\\' :: body.content ∧ body.kind = .noNewline := by
  rw [← bodyLine?_eq_some_iff]
  cases unmet : owed.isUnmet with
  | true =>
      cases found : bodyLine? line with
      | some other => simp [readItem, unmet, found]
      | none =>
          have notRemark : line ≠ '\\' :: body.content := by
            rintro rfl
            simp [bodyLine?, LineKind.ofMark?] at found
          simp [readItem, unmet, found, readOutside_eq_body_iff, notRemark]
  | false => simp [readItem, unmet, readOutside_eq_body_iff]

/-- A line that is not read as body ends the hunk. -/
theorem takes_nil {hunk : Hunk} {taken : List BodyLine} {line : Text}
    (refused : ∀ body, readItem (some (hunk.owedBehind taken)) line ≠ .ok (.body body))
    (lines : List Text) : hunk.Takes taken (line :: lines) [] := by
  cases unmet : (hunk.owedBehind taken).isUnmet with
  | true =>
      refine .foreign ((hunk.isUnmet_owedBehind_iff taken).mp unmet) ?_
      intro body source
      exact refused body ((readItem_eq_body_iff _ _ _).mpr (.inl ⟨unmet, source⟩))
  | false =>
      refine .full (by simp [← Hunk.isUnmet_owedBehind_iff, unmet]) ?_
      rintro ⟨content, rfl⟩
      exact refused ⟨.noNewline, content⟩
        ((readItem_eq_body_iff _ _ _).mpr (.inr ⟨unmet, rfl, rfl⟩))

/-- The body lines that are read behind a header are those that the hunk takes. -/
theorem takes_of_reads {hunk : Hunk} {taken : List BodyLine} {lines : List Text} {items : List Item}
    {after : Option Owed} (run : Reads (some (hunk.owedBehind taken)) lines items after) :
    hunk.Takes taken lines (groupItems items).1 := by
  -- By induction on the lines and not on the run, which behind the last body line is owed for
  -- another hunk.
  induction lines generalizing taken items with
  | nil =>
      cases run
      exact .finish
  | cons line lines induct =>
      cases run with
      | @cons _ _ _ _ item items first rest =>
          by_cases isBody : ∃ body, item = .body body
          · obtain ⟨body, rfl⟩ := isBody
            have rest : Reads (some (hunk.owedBehind (taken ++ [body]))) lines items after := by
              rw [← Hunk.take_owedBehind]
              exact rest
            rcases (readItem_eq_body_iff _ _ _).mp first with ⟨unmet, source⟩ | ⟨met, rfl, remark⟩
            · exact .owed ((hunk.isUnmet_owedBehind_iff taken).mp unmet) source (induct rest)
            · obtain ⟨kind, content⟩ := body
              subst remark
              refine .remark ?_ (induct rest)
              simp [← Hunk.isUnmet_owedBehind_iff, met]
          · have ended : (groupItems (item :: items)).1 = [] := by
              cases item with
              | body line => exact absurd ⟨line, rfl⟩ isBody
              | oldSide | newSide | header | other => rfl
            rw [ended]
            refine takes_nil (fun body isRead => ?_) lines
            exact isBody ⟨body, Except.ok.inj (first.symm.trans isRead)⟩

/-- No hunk can take two bodies from the same lines. -/
theorem takes_unique {hunk : Hunk} {taken body other : List BodyLine} {lines : List Text}
    (takes : hunk.Takes taken lines body) (others : hunk.Takes taken lines other) :
    body = other := by
  induction takes generalizing other with
  | finish =>
      cases others
      rfl
  | owed unmet source _ induct =>
      cases others with
      | owed _ otherSource otherRest =>
          rw [← bodyLine?_eq_some_iff] at source otherSource
          obtain rfl := Option.some.inj (source.symm.trans otherSource)
          rw [induct otherRest]
      | remark met => exact absurd unmet met
      | foreign _ unmarked => exact absurd source (unmarked _)
      | full met => exact absurd unmet met
  | remark met _ induct =>
      cases others with
      | owed unmet => exact absurd unmet met
      | remark _ otherRest => rw [induct otherRest]
      | foreign unmet => exact absurd unmet met
      | full _ noRemark => exact absurd ⟨_, rfl⟩ noRemark
  | foreign unmet unmarked =>
      cases others with
      | owed _ source => exact absurd source (unmarked _)
      | remark met => exact absurd unmet met
      | foreign => rfl
      | full => rfl
  | full met noRemark =>
      cases others with
      | owed unmet => exact absurd unmet met
      | remark => exact absurd ⟨_, rfl⟩ noRemark
      | foreign => rfl
      | full => rfl

/-! ## Headers -/

/-- The lines that open like a hunk header, each with the lines behind it. -/
def openings : List Text → List (Text × List Text)
  | [] => []
  | line :: lines =>
      if ['@', '@'].isPrefixOf line then (line, lines) :: openings lines else openings lines

/-- What opens a hunk: its header line, and the lines behind, from which it takes its body. -/
structure Opens (opening : Text × List Text) (hunk : Hunk) : Prop where
  /-- The line gives the ranges and the heading. -/
  header : hunk.IsOpenedBy opening.1
  /-- The lines behind it give the body, and no other. -/
  body (lines : List BodyLine) : hunk.Takes [] opening.2 lines ↔ lines = hunk.lines

/-- The hunk of an entry, if it is one. -/
def Entry.hunk? : Entry → Option Hunk
  | .hunk part => some part
  | _ => none

/-- Whatever files entries are collected into, the hunks stay in their order. -/
theorem hunks_collect (cursor : Cursor) (entries : List Entry) :
    (collect cursor entries).flatMap (·.hunks) =
      cursor.toList.flatMap (·.hunks) ++ entries.filterMap Entry.hunk? := by
  induction entries generalizing cursor with
  | nil => simp [collect]
  | cons entry entries induct =>
      rw [List.filterMap_cons]
      cases entry with
      | oldSide path => simp [collect, induct, Cursor.toList, Entry.hunk?]
      | newSide path => cases cursor <;> simp [collect, induct, Cursor.toList, Entry.hunk?]
      | hunk part =>
          cases cursor <;> simp [collect, induct, Cursor.toList, Cursor.withHunk, Entry.hunk?]

/-- A line is refused exactly when it opens like a header and is none, whatever is owed. -/
theorem exists_readItem_eq_error_iff (owed : Option Owed) (line : Text) :
    (∃ cause, readItem owed line = .error cause) ↔ IsMalformedHeader line := by
  by_cases opens : ['@', '@'] <+: line
  · have unopened : (∃ cause, readHeader line = .error cause) ↔
        ¬∃ hunk : Hunk, hunk.IsOpenedBy line := by
      cases header : readHeader line with
      | error cause =>
          refine iff_of_true ⟨cause, rfl⟩ ?_
          rintro ⟨hunk, opened⟩
          have isRead :=
            (readHeader_eq_ok_iff_isOpenedBy line { hunk with lines := [] }).mpr ⟨opened, rfl⟩
          simp [header] at isRead
      | ok hunk =>
          have opened := ((readHeader_eq_ok_iff_isOpenedBy line hunk).mp header).1
          simp only [reduceCtorEq, exists_false, false_iff, not_not]
          exact ⟨hunk, opened⟩
    rw [IsMalformedHeader, and_iff_right opens, ← unopened]
    obtain ⟨rest, rfl⟩ := opens
    rw [List.cons_append, List.singleton_append, readItem_header]
    cases readHeader ('@' :: '@' :: rest) <;> simp [Except.map]
  · obtain ⟨item, isRead, -⟩ := exists_readItem_of_not_header owed opens
    simp [isRead, IsMalformedHeader, opens]

theorem not_isMalformedHeader_of_reads {owed after : Option Owed} {lines : List Text}
    {items : List Item} (run : Reads owed lines items after) :
    ∀ line ∈ lines, ¬IsMalformedHeader line := by
  induction run with
  | nil => simp
  | @cons owed after line lines item items first _ induct =>
      refine List.forall_mem_cons.mpr ⟨?_, induct⟩
      rw [← exists_readItem_eq_error_iff owed]
      rintro ⟨cause, refused⟩
      simp [first] at refused

/-- A fault names the first line that opens like a header and is none. -/
theorem exists_isMalformedHeader_of_readItems {number : Nat} {owed : Option Owed}
    {lines : List Text} {fault : Fault} (found : readItems number owed lines = .error fault) :
    ∃ front line back, lines = front ++ line :: back ∧ IsMalformedHeader line ∧
      (∀ other ∈ front, ¬IsMalformedHeader other) ∧ fault.lineNumber = number + front.length := by
  induction lines generalizing number owed with
  | nil => simp [readItems] at found
  | cons line lines induct =>
      rw [readItems] at found
      cases first : readItem owed line with
      | error cause =>
          rw [first] at found
          obtain rfl := Except.error.inj found
          have malformed := (exists_readItem_eq_error_iff owed line).mp ⟨cause, first⟩
          exact ⟨[], line, lines, rfl, malformed, by simp, rfl⟩
      | ok item =>
          have sound : ¬IsMalformedHeader line := by
            rw [← exists_readItem_eq_error_iff owed]
            rintro ⟨cause, refused⟩
            simp [first] at refused
          cases later : readItems (number + 1) (owedAfter owed item) lines with
          | ok items => simp [first, later, Except.map] at found
          | error other =>
              simp only [first, later, Except.map, Except.error.injEq] at found
              subst found
              obtain ⟨front, malformed, back, rfl, isMalformed, others, isNumber⟩ := induct later
              refine ⟨line :: front, malformed, back, rfl, isMalformed,
                List.forall_mem_cons.mpr ⟨sound, others⟩, ?_⟩
              rw [isNumber, List.length_cons]
              omega

/-- Every line that opens like a header opens the next hunk. -/
theorem forall₂_opens_of_reads {owed after : Option Owed} {lines : List Text} {items : List Item}
    (run : Reads owed lines items after) :
    List.Forall₂ Opens (openings lines) ((groupItems items).2.filterMap Entry.hunk?) := by
  induction run with
  | nil => exact .nil
  | @cons owed after line lines item items first rest induct =>
      by_cases opens : ['@', '@'] <+: line
      · rw [openings, if_pos (List.isPrefixOf_iff_prefix.mpr opens)]
        obtain ⟨tail, rfl⟩ := opens
        rw [List.cons_append, List.singleton_append, readItem_header] at first
        cases header : readHeader ('@' :: '@' :: tail) with
        | error cause =>
            simp [header, Except.map] at first
        | ok hunk =>
            rw [header] at first
            obtain rfl := Except.ok.inj first
            have opened := ((readHeader_eq_ok_iff_isOpenedBy _ hunk).mp header).1
            rw [owedAfter, ← Hunk.owedBehind_nil] at rest
            have takes : { hunk with lines := (groupItems items).1 }.Takes [] lines
                (groupItems items).1 := takes_of_reads rest
            refine .cons ⟨opened, fun other => ⟨?_, ?_⟩⟩ induct
            · exact fun otherTakes => takes_unique otherTakes takes
            · rintro rfl
              exact takes
      · rw [openings, if_neg (mt List.isPrefixOf_iff_prefix.mp opens)]
        obtain ⟨_, isRead, notHeader⟩ := exists_readItem_of_not_header owed opens
        obtain rfl := Except.ok.inj (first.symm.trans isRead)
        cases item with
        | header hunk => exact absurd rfl (notHeader hunk)
        | oldSide | newSide | body | other => exact induct

/-- A text is refused exactly for a line that opens like a header and is none, and the fault names
the first of them, wherever it stands.  Otherwise the lines that open like headers and the hunks of
the diff are the same in number and in order, and each line gives the ranges and the heading of its
hunk, and the lines behind it give the body. -/
theorem headers_accounted_for (text : Text) :
    ((∃ fault, read text = .error fault) ↔ ∃ line ∈ Text.lines text, IsMalformedHeader line) ∧
      (∀ fault, read text = .error fault →
        ∃ front line back, Text.lines text = front ++ line :: back ∧ IsMalformedHeader line ∧
          (∀ other ∈ front, ¬IsMalformedHeader other) ∧ fault.lineNumber = front.length + 1) ∧
        ∀ diff, read text = .ok diff →
          List.Forall₂ Opens (openings (Text.lines text)) (diff.files.flatMap (·.hunks)) := by
  have named : ∀ fault, read text = .error fault →
      ∃ front line back, Text.lines text = front ++ line :: back ∧ IsMalformedHeader line ∧
        (∀ other ∈ front, ¬IsMalformedHeader other) ∧ fault.lineNumber = front.length + 1 := by
    intro fault refused
    rw [read_eq_error_iff] at refused
    obtain ⟨front, line, back, split, malformed, sound, isNumber⟩ :=
      exists_isMalformedHeader_of_readItems refused
    exact ⟨front, line, back, split, malformed, sound, isNumber.trans (Nat.add_comm 1 _)⟩
  refine ⟨⟨?_, ?_⟩, named, ?_⟩
  · rintro ⟨fault, refused⟩
    obtain ⟨front, line, back, split, malformed, -⟩ := named fault refused
    exact ⟨line, by simp [split], malformed⟩
  · rintro ⟨line, isLine, malformed⟩
    cases isRead : read text with
    | error fault => exact ⟨fault, rfl⟩
    | ok diff =>
        obtain ⟨items, after, run, -⟩ := (read_eq_ok_iff text diff).mp isRead
        exact absurd malformed (not_isMalformedHeader_of_reads run line isLine)
  · intro diff isRead
    obtain ⟨items, after, run, rfl⟩ := (read_eq_ok_iff text diff).mp isRead
    rw [hunks_collect]
    exact forall₂_opens_of_reads run

/-- A hunk that is cut off by the next header, which stands where a line was owed, and a hunk behind
which a remark comes too late. -/
def interrupted : Text :=
  unlines
    ["@@ -1,2 +1 @@ f ".toList, "+a".toList, "+b".toList, [], "@@ -7, +0_7,0 @@".toList,
     "--- x".toList, "\\".toList, [], "\\ late".toList]

/-- What the interrupted hunks are read as. -/
def interruptedDiff : Diff where
  files :=
    [{ hunks :=
        [{ oldStart := 1, oldCount := 2, newStart := 1, newCount := 1
           lines := [⟨.added, ['a']⟩, ⟨.added, ['b']⟩, ⟨.context, []⟩]
           heading := ['f'] },
         { oldStart := 7, oldCount := 1, newStart := 7, newCount := 0
           lines := [⟨.removed, "-- x".toList⟩, ⟨.noNewline, []⟩] }] }]

theorem headers_accounted_for_interrupted :
    (read interrupted = .ok interruptedDiff ∧
        List.Forall₂ Opens (openings (Text.lines interrupted))
          (interruptedDiff.files.flatMap (·.hunks))) ∧
      read ("@@ -1 +1 @@\n@@ -1 +1@@\n".toList) = .error ⟨2, .form "@@ -1 +1@@".toList⟩ ∧
        ∃ front line back, Text.lines "@@ -1 +1 @@\n@@ -1 +1@@\n".toList = front ++ line :: back ∧
          IsMalformedHeader line ∧ (∀ other ∈ front, ¬IsMalformedHeader other) ∧
            2 = front.length + 1 := by
  have isRead : read interrupted = .ok interruptedDiff := by decide +kernel
  have refused : read ("@@ -1 +1 @@\n@@ -1 +1@@\n".toList) =
      .error ⟨2, .form "@@ -1 +1@@".toList⟩ := by decide +kernel
  exact ⟨⟨isRead, (headers_accounted_for interrupted).2.2 interruptedDiff isRead⟩, refused,
    (headers_accounted_for "@@ -1 +1 @@\n@@ -1 +1@@\n".toList).2.1 _ refused⟩

end Diff

end Marginalia
