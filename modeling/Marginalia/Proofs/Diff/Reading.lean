import Marginalia.Proofs.Diff.Header

/-!
# Reading as a run

The reader goes through the lines one by one, and what a line is read as depends on nothing but
what the open hunk is owed.  A run records the items together with what is owed before and behind
them, so that runs over neighbouring stretches of lines can be joined.  Line numbers take no part:
they only name the line of a fault.
-/

namespace Marginalia

open Text

theorem LineKind.eq_mark_of_ofMark? {char : Char} {kind : LineKind}
    (found : LineKind.ofMark? char = some kind) : char = kind.mark := by
  unfold LineKind.ofMark? at found
  split at found <;> simp at found <;> subst found <;> rfl

namespace Diff

/-- Lines that are read as items, from what the open hunk is owed before them to what it is owed
behind them. -/
inductive Reads : Option Owed → List Text → List Item → Option Owed → Prop where
  /-- Without lines nothing changes. -/
  | nil {owed : Option Owed} : Reads owed [] [] owed
  /-- A line is read, and then the others from what is owed behind it. -/
  | cons {owed after : Option Owed} {line : Text} {lines : List Text} {item : Item}
      {items : List Item} (first : readItem owed line = .ok item)
      (rest : Reads (owedAfter owed item) lines items after) :
      Reads owed (line :: lines) (item :: items) after

/-- Runs over neighbouring stretches of lines make up one run. -/
theorem Reads.append {owed middle after : Option Owed} {front back : List Text}
    {frontItems backItems : List Item} (frontRun : Reads owed front frontItems middle)
    (backRun : Reads middle back backItems after) :
    Reads owed (front ++ back) (frontItems ++ backItems) after := by
  induction frontRun with
  | nil => exact backRun
  | cons first _ induct => exact .cons first (induct backRun)

/-- Lines are read as items exactly when there is a run over them. -/
theorem readItems_eq_ok_iff (number : Nat) (owed : Option Owed) (lines : List Text)
    (items : List Item) :
    readItems number owed lines = .ok items ↔ ∃ after, Reads owed lines items after := by
  induction lines generalizing number owed items with
  | nil =>
      constructor
      · intro found
        obtain rfl := Except.ok.inj found
        exact ⟨owed, .nil⟩
      · rintro ⟨after, ⟨⟩⟩
        rfl
  | cons line lines induct =>
      rw [readItems]
      constructor
      · intro found
        cases first : readItem owed line with
        | error cause => simp [first] at found
        | ok item =>
            cases rest : readItems (number + 1) (owedAfter owed item) lines with
            | error fault => simp [first, rest, Except.map] at found
            | ok others =>
                simp only [first, rest, Except.map, Except.ok.injEq] at found
                obtain ⟨after, run⟩ := (induct ..).mp rest
                exact ⟨after, found ▸ .cons first run⟩
      · rintro ⟨after, run⟩
        cases run with
        | cons first rest => simp [first, (induct ..).mpr ⟨after, rest⟩, Except.map]

/-- Behind lines that are read as a run, the others are read from what is owed behind the run. -/
theorem Reads.readItems_append {owed middle : Option Owed} {front : List Text} {items : List Item}
    (run : Reads owed front items middle) (number : Nat) (back : List Text) :
    readItems number owed (front ++ back) =
      (readItems (number + front.length) middle back).map (items ++ ·) := by
  induction run generalizing number with
  | @nil owed =>
      rw [List.nil_append, List.length_nil, Nat.add_zero]
      cases readItems number owed back <;> rfl
  | @cons owed after line lines item items first _ induct =>
      rw [List.cons_append, readItems, first, List.length_cons, Nat.add_comm lines.length,
        ← Nat.add_assoc]
      simp only [induct]
      cases readItems (number + 1 + lines.length) after back <;> rfl

/-- The same fault behind more lines. -/
def Fault.movedBy (fault : Fault) (shift : Nat) : Fault :=
  { fault with lineNumber := fault.lineNumber + shift }

/-- Where the count of lines begins decides nothing but the number that a fault names. -/
theorem readItems_add (number shift : Nat) (owed : Option Owed) (lines : List Text) :
    readItems (number + shift) owed lines =
      (readItems number owed lines).mapError (·.movedBy shift) := by
  induction lines generalizing number owed with
  | nil => rfl
  | cons line lines induct =>
      rw [readItems, readItems]
      cases readItem owed line with
      | error cause => rfl
      | ok item =>
          simp only [Nat.add_right_comm number shift 1, induct]
          cases readItems (number + 1) (owedAfter owed item) lines <;> rfl

/-- A text is read as a diff exactly when there is a run over its lines, from no open hunk, whose
items make up the files. -/
theorem read_eq_ok_iff (text : Text) (diff : Diff) :
    read text = .ok diff ↔
      ∃ items after, Reads none (Text.lines text) items after ∧
        diff = ⟨collect .nothing (groupItems items).2⟩ := by
  simp only [read, ofLines]
  constructor
  · intro found
    cases itemsFound : readItems 1 none (Text.lines text) with
    | error fault => simp [itemsFound, Except.map] at found
    | ok items =>
        obtain ⟨after, run⟩ := (readItems_eq_ok_iff ..).mp itemsFound
        rw [itemsFound] at found
        exact ⟨items, after, run, (Except.ok.inj found).symm⟩
  · rintro ⟨items, after, run, rfl⟩
    rw [(readItems_eq_ok_iff ..).mpr ⟨after, run⟩]
    rfl

theorem read_eq_error_iff (text : Text) (fault : Fault) :
    read text = .error fault ↔ readItems 1 none (Text.lines text) = .error fault := by
  rw [read, ofLines]
  cases readItems 1 none (Text.lines text) <;> simp [Except.map]

/-! ## One line -/

/-- Nothing is owed, be it that no hunk is open or that the counts of the open one are met. -/
def IsMet (owed : Option Owed) : Prop :=
  (owed.map Owed.isUnmet).getD false = false

@[simp]
theorem isMet_none : IsMet none := rfl

theorem isMet_some_iff (owed : Owed) : IsMet (some owed) ↔ owed.old ≤ 0 ∧ owed.new ≤ 0 := by
  simp [IsMet, Owed.isUnmet]

/-- When nothing is owed a line is read without regard to the counts of a hunk. -/
theorem readItem_of_isMet {owed : Option Owed} (met : IsMet owed) (line : Text) :
    readItem owed line = readOutside owed.isSome line := by
  unfold IsMet at met
  simp [readItem, met]

theorem readItem_oldSide {owed : Option Owed} (met : IsMet owed) (raw : Text) :
    readItem owed ('-' :: '-' :: '-' :: ' ' :: raw) = .ok (.oldSide (readPath ['a', '/'] raw)) := by
  rw [readItem_of_isMet met, readOutside]

theorem readItem_newSide {owed : Option Owed} (met : IsMet owed) (raw : Text) :
    readItem owed ('+' :: '+' :: '+' :: ' ' :: raw) = .ok (.newSide (readPath ['b', '/'] raw)) := by
  rw [readItem_of_isMet met, readOutside]

/-- A line that opens like a header is never body, whatever the open hunk is owed. -/
theorem readItem_header (owed : Option Owed) (rest : Text) :
    readItem owed ('@' :: '@' :: rest) = (readHeader ('@' :: '@' :: rest)).map .header := by
  have notBody : bodyLine? ('@' :: '@' :: rest) = none := rfl
  simp [readItem, notBody, readOutside]

theorem readItem_of_readHeader {line : Text} {hunk : Hunk} (isHeader : readHeader line = .ok hunk)
    (owed : Option Owed) : readItem owed line = .ok (.header hunk) := by
  obtain ⟨⟨old, new, tail, rfl, -⟩, -⟩ := (readHeader_eq_ok_iff_isOpenedBy line hunk).mp isHeader
  have opening := readItem_header owed
    (" -".toList ++ (old ++ (" +".toList ++ (new ++ (" @@".toList ++ tail)))))
  exact opening.trans (congrArg (Except.map Item.header) isHeader)

/-- Every other line is read as something, and not as a header. -/
theorem exists_readItem_of_not_header (owed : Option Owed) {line : Text}
    (notHeader : ¬['@', '@'] <+: line) :
    ∃ item, readItem owed line = .ok item ∧ ∀ hunk, item ≠ .header hunk := by
  unfold readItem
  split
  case h_1 body _ => exact ⟨.body body, rfl, by simp⟩
  case h_2 =>
    unfold readOutside
    split
    case h_1 => exact ⟨_, rfl, by simp⟩
    case h_2 => exact ⟨_, rfl, by simp⟩
    case h_3 => exact absurd ⟨_, rfl⟩ notHeader
    case h_4 => exact ⟨_, rfl, by split <;> simp⟩
    case h_5 => exact ⟨_, rfl, by simp⟩

/-- A printed body line is read as body while lines are owed, and a remark about a missing line
feed at any time. -/
theorem readItem_render {owed : Owed} {line : BodyLine}
    (expected : ¬IsMet (some owed) ∨ line.kind = .noNewline) :
    readItem (some owed) line.render = .ok (.body line) := by
  have isBody : bodyLine? line.render = some line := by
    simp [BodyLine.render, bodyLine?]
  by_cases met : IsMet (some owed)
  · obtain ⟨kind, content⟩ := line
    obtain rfl : kind = .noNewline := expected.resolve_left (not_not_intro met)
    rw [readItem_of_isMet met]
    rfl
  · have unmet : owed.isUnmet = true := by simpa [IsMet] using met
    simp [readItem, unmet, isBody]

/-- A line that is no body, whatever a hunk is owed, and names no side and opens no hunk either. -/
theorem readItem_other (owed : Option Owed) {char : Char} {rest : Text}
    (unmarked : LineKind.ofMark? char = none) (notHeader : ¬['@', '@'] <+: char :: rest) :
    readItem owed (char :: rest) = .ok .other := by
  have notBody : bodyLine? (char :: rest) = none := by simp [bodyLine?, unmarked]
  have outside : readOutside owed.isSome (char :: rest) = .ok .other := by
    rw [readOutside]
    all_goals intro more same; obtain ⟨rfl, rfl⟩ := List.cons.inj same
    · simp [LineKind.ofMark?] at unmarked
    · simp [LineKind.ofMark?] at unmarked
    · exact notHeader ⟨more, rfl⟩
    · simp [LineKind.ofMark?] at unmarked
  simp [readItem, notBody, outside]

/-! ## Bodies -/

/-- What body lines count for in the old and the new file. -/
def owedFor (lines : List BodyLine) : Owed where
  old := (lines.countP (·.kind.inOld) : Nat)
  new := (lines.countP (·.kind.inNew) : Nat)

private theorem owedFor_take (line : BodyLine) (lines : List BodyLine) :
    (owedFor (line :: lines)).take line.kind = owedFor lines := by
  cases old : line.kind.inOld <;> cases new : line.kind.inNew <;>
    simp [owedFor, Owed.take, old, new]

private theorem not_isMet_or_noNewline (line : BodyLine) (lines : List BodyLine) :
    ¬IsMet (some (owedFor (line :: lines))) ∨ line.kind = .noNewline := by
  rw [isMet_some_iff]
  by_cases unmarked : line.kind = .noNewline
  · exact Or.inr unmarked
  · left
    rintro ⟨noOld, noNew⟩
    have counted : line.kind.inOld = true ∨ line.kind.inNew = true := by
      cases kind : line.kind <;> simp_all [LineKind.inOld, LineKind.inNew]
    rcases counted with old | new
    · have first : 0 < (line :: lines).countP (·.kind.inOld) :=
        List.countP_pos_iff.mpr ⟨line, List.mem_cons_self, old⟩
      exact Int.not_lt.mpr noOld (Int.natCast_pos.mpr first)
    · have first : 0 < (line :: lines).countP (·.kind.inNew) :=
        List.countP_pos_iff.mpr ⟨line, List.mem_cons_self, new⟩
      exact Int.not_lt.mpr noNew (Int.natCast_pos.mpr first)

/-- Body lines that are all owed are read as body, and then nothing is owed. -/
theorem reads_body (lines : List BodyLine) :
    Reads (some (owedFor lines)) (lines.map BodyLine.render) (lines.map .body)
      (some (owedFor [])) := by
  induction lines with
  | nil => exact .nil
  | cons line lines induct =>
      refine .cons (readItem_render (not_isMet_or_noNewline line lines)) ?_
      simpa [owedAfter, owedFor_take] using induct

/-- A consistent hunk is owed exactly its body lines. -/
theorem owedFor_lines {hunk : Hunk} (consistent : hunk.isConsistent = true) :
    owedFor hunk.lines = ⟨hunk.oldCount, hunk.newCount⟩ := by
  obtain ⟨old, new⟩ := (Hunk.isConsistent_iff hunk).mp consistent
  rw [owedFor, old, new]

/-! ## From items to files -/

/-- Items that open with no body are grouped without regard to what stands before them. -/
theorem groupItems_append (front : List Item) {back : List Item}
    (unopened : (groupItems back).1 = []) :
    groupItems (front ++ back) =
      ((groupItems front).1, (groupItems front).2 ++ (groupItems back).2) := by
  induction front with
  | nil => exact Prod.ext unopened rfl
  | cons item front induct => cases item <;> simp [groupItems, induct]

/-- An old side begins another file, whatever file is being collected. -/
theorem collect_append_oldSide (cursor : Cursor) (front : List Entry) (path : Text)
    (back : List Entry) :
    collect cursor (front ++ .oldSide path :: back) =
      collect cursor front ++ collect .nothing (.oldSide path :: back) := by
  induction front generalizing cursor with
  | nil => simp [collect, Cursor.toList]
  | cons entry front induct =>
      cases entry with
      | oldSide other => simp [collect, induct]
      | newSide other => cases cursor <;> simp [collect, induct]
      | hunk part => simp [collect, induct]

end Diff

end Marginalia
