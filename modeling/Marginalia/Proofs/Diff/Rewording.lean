import Mathlib.Tactic.Common
import Marginalia.Proofs.Diff.Outline
import Marginalia.Proofs.Diff.Printing
import Marginalia.Proofs.Diff.Reading

/-!
# What body lines say

Two texts that differ in nothing but what the body lines of their hunks say are read as diffs of one
outline, with the same position for every line, or are refused for one fault.  This holds because
both runs of the reader are owed the same at every line.  It asks that contents hold none of the
characters at which the reader ends a line, and each of these is needed: a content that holds one
makes two lines out of one and moves all lines behind it.
-/

namespace Marginalia

open Text

namespace Diff

/-- Lines, each ended by a line feed, that differ in nothing but what the body lines of some hunks
say: the header of such a hunk is one line for the reader, the kinds of its body lines agree with
each other and with the header, and none of the contents holds a reserved character. -/
inductive Rewords (reserved : Char → Prop) : List Text → List Text → Prop where
  /-- No line is left. -/
  | nil : Rewords reserved [] []
  /-- A line is the same on both sides. -/
  | line (line : Text) {left right : List Text} (rest : Rewords reserved left right) :
      Rewords reserved (line :: left) (line :: right)
  /-- The header of a hunk is the same on both sides, and its body lines say other things. -/
  | hunk {written header : Text} {hunk : Hunk} {leftBody rightBody : List BodyLine}
      {left right : List Text} (isLine : lines (written ++ ['\n']) = [header])
      (isHeader : readHeader header = .ok hunk)
      (consistent : { hunk with lines := leftBody }.isConsistent = true)
      (sameKinds : leftBody.map (·.kind) = rightBody.map (·.kind))
      (leftFree : ∀ body ∈ leftBody, ∀ char ∈ body.content, ¬reserved char)
      (rightFree : ∀ body ∈ rightBody, ∀ char ∈ body.content, ¬reserved char)
      (rest : Rewords reserved left right) :
      Rewords reserved (written :: leftBody.map BodyLine.render ++ left)
        (written :: rightBody.map BodyLine.render ++ right)

/-- Two readings that agree in everything but what body lines say: both are refused for one fault,
or both give the same files, paths, ranges, headings and kinds of lines, and every line of every
file the same position. -/
structure AgreeOnShape (left right : Except Fault Diff) : Prop where
  /-- The outlines are the same. -/
  outline : left.map Diff.outline = right.map Diff.outline
  /-- So are the positions, file by file. -/
  positions : left.map (·.files.map FileChange.positions) =
    right.map (·.files.map FileChange.positions)

/-- The outline decides the positions. -/
theorem agreeOnShape_of_outline {left right : Except Fault Diff}
    (same : left.map Diff.outline = right.map Diff.outline) : AgreeOnShape left right := by
  refine ⟨same, ?_⟩
  have fromOutline (reading : Except Fault Diff) :
      reading.map (·.files.map FileChange.positions) =
        (reading.map Diff.outline).map (·.files.map FileChange.positions) := by
    cases reading with
    | error fault => rfl
    | ok diff => simp [Except.map, Diff.outline, FileChange.positions_outline]
  rw [fromOutline left, fromOutline right, same]

/-! ## Two runs -/

/-- Two readings of lines whose items have the same outlines. -/
def Alike (left right : Except Fault (List Item)) : Prop :=
  left.map (·.map Item.outline) = right.map (·.map Item.outline)

theorem Alike.map_append {left right : Except Fault (List Item)} (alike : Alike left right)
    {leftFront rightFront : List Item}
    (sameFront : leftFront.map Item.outline = rightFront.map Item.outline) :
    Alike (left.map (leftFront ++ ·)) (right.map (rightFront ++ ·)) := by
  unfold Alike at alike ⊢
  cases left with
  | error fault =>
      cases right with
      | error other => exact alike
      | ok items => simp [Except.map] at alike
  | ok items =>
      cases right with
      | error other => simp [Except.map] at alike
      | ok others =>
          simp only [Except.map, Except.ok.injEq] at alike ⊢
          rw [List.map_append, List.map_append, sameFront, alike]

/-- The same lines in front are read alike, and leave the same behind. -/
theorem alike_append {left right : List Text}
    (alike : ∀ number owed, Alike (readItems number owed left) (readItems number owed right))
    (front : List Text) (number : Nat) (owed : Option Owed) :
    Alike (readItems number owed (front ++ left)) (readItems number owed (front ++ right)) := by
  induction front generalizing number owed with
  | nil => exact alike number owed
  | cons line front induct =>
      rw [List.cons_append, List.cons_append, readItems, readItems]
      cases readItem owed line with
      | error cause => rfl
      | ok item =>
          have sameFront : [item].map Item.outline = [item].map Item.outline := rfl
          exact (induct (number + 1) (owedAfter owed item)).map_append sameFront

/-- A hunk whose contents hold no end of a line is read whole, whatever they say. -/
theorem readItems_reworded {written header : Text} {hunk : Hunk} {body : List BodyLine}
    (isLine : lines (written ++ ['\n']) = [header]) (isHeader : readHeader header = .ok hunk)
    (consistent : { hunk with lines := body }.isConsistent = true)
    (oneLine : ∀ line ∈ body, IsOneLine line.content) (rest : List Text) (number : Nat)
    (owed : Option Owed) :
    readItems number owed (lines (unlines (written :: body.map BodyLine.render ++ rest))) =
      (readItems (number + (body.length + 1)) (some (owedFor [])) (lines (unlines rest))).map
        (.header hunk :: body.map .body ++ ·) := by
  have inside : ∀ line ∈ body.map BodyLine.render, IsOneLine line := by
    intro line isIn
    obtain ⟨source, isSource, rfl⟩ := List.mem_map.mp isIn
    exact BodyLine.isOneLine_render (oneLine source isSource)
  have cut : lines (unlines (written :: body.map BodyLine.render ++ rest)) =
      header :: body.map BodyLine.render ++ lines (unlines rest) := by
    rw [List.cons_append, unlines_cons, lines_append_lineFeed_append, isLine, unlines_append,
      lines_unlines_append inside]
    rfl
  have owes : owedAfter owed (.header hunk) = some (owedFor body) := by
    rw [owedAfter, ← owedFor_lines consistent]
  have run : Reads owed (header :: body.map BodyLine.render) (.header hunk :: body.map .body)
      (some (owedFor [])) :=
    .cons (readItem_of_readHeader isHeader owed) (owes ▸ reads_body body)
  rw [cut, run.readItems_append, List.length_cons, List.length_map]

theorem alike_of_rewords {reserved : Char → Prop} {left right : List Text}
    (ends : ∀ char, isBoundary char = true → reserved char) (rewords : Rewords reserved left right)
    (number : Nat) (owed : Option Owed) :
    Alike (readItems number owed (lines (unlines left)))
      (readItems number owed (lines (unlines right))) := by
  have oneLine {bodies : List BodyLine}
      (free : ∀ body ∈ bodies, ∀ char ∈ body.content, ¬reserved char) :
      ∀ body ∈ bodies, IsOneLine body.content := by
    intro body isBody char isIn
    exact Bool.eq_false_iff.mpr fun boundary => free body isBody char isIn (ends char boundary)
  induction rewords generalizing number owed with
  | nil => rfl
  | @line line left right _ induct =>
      rw [unlines_cons, unlines_cons, lines_append_lineFeed_append line (unlines left),
        lines_append_lineFeed_append line (unlines right)]
      exact alike_append induct _ number owed
  | @hunk _ _ hunk leftBody rightBody _ _ isLine isHeader consistent sameKinds leftFree rightFree _
      induct =>
      have outlines := BodyLine.map_outline_congr sameKinds
      have rightConsistent : { hunk with lines := rightBody }.isConsistent = true := by
        rw [Hunk.isConsistent_iff] at consistent ⊢
        have counted (inFile : LineKind → Bool) :
            rightBody.countP (inFile ·.kind) = leftBody.countP (inFile ·.kind) := by
          have counts := congrArg (List.countP inFile) sameKinds
          rw [List.countP_map, List.countP_map] at counts
          exact counts.symm
        simpa only [counted] using consistent
      have sameLength : rightBody.length = leftBody.length := by
        simpa using (congrArg List.length sameKinds).symm
      rw [readItems_reworded isLine isHeader consistent (oneLine leftFree),
        readItems_reworded isLine isHeader rightConsistent (oneLine rightFree), sameLength]
      -- Both runs leave the hunk at the same line with nothing owed, so the others are read alike.
      refine (induct _ _).map_append ?_
      have bodies (body : List BodyLine) :
          (body.map Item.body).map Item.outline = (body.map BodyLine.outline).map Item.body := by
        simp [Item.outline]
      rw [List.map_cons, List.map_cons, bodies, bodies, outlines]

/-- Lines of which the items have the same outlines make up diffs of one outline. -/
theorem Alike.outline {left right : List Text}
    (alike : Alike (readItems 1 none left) (readItems 1 none right)) :
    (ofLines left).map Diff.outline = (ofLines right).map Diff.outline := by
  have fromOutlines (lines : List Text) : (ofLines lines).map Diff.outline =
      ((readItems 1 none lines).map (·.map Item.outline)).map
        fun items => ⟨collect .nothing (groupItems items).2⟩ := by
    rw [ofLines]
    cases readItems 1 none lines with
    | error fault => rfl
    | ok items =>
        have collected := collect_outline .nothing (groupItems items).2
        rw [Cursor.outline] at collected
        · simp [Except.map, Diff.outline, groupItems_outline, collected]
        · simp
  rw [fromOutlines, fromOutlines, alike]

/-! ## Which contents are harmless -/

/-- The lines of a file with a hunk that adds two lines, of which the second is empty. -/
def twoAdded (content : Text) : List Text :=
  ["--- a/f".toList, "+++ b/f".toList, "@@ -0,0 +1,2 @@".toList, '+' :: content, ['+']]

theorem rewords_twoAdded {reserved : Char → Prop} {left right : Text}
    (leftFree : ∀ char ∈ left, ¬reserved char) (rightFree : ∀ char ∈ right, ¬reserved char) :
    Rewords reserved (twoAdded left) (twoAdded right) := by
  have free {content : Text} (contentFree : ∀ char ∈ content, ¬reserved char) :
      ∀ body ∈ [(⟨.added, content⟩ : BodyLine), ⟨.added, []⟩],
        ∀ char ∈ body.content, ¬reserved char := by
    simpa using contentFree
  have isLine : lines ("@@ -0,0 +1,2 @@".toList ++ ['\n']) = ["@@ -0,0 +1,2 @@".toList] := by
    decide
  have isHeader : readHeader "@@ -0,0 +1,2 @@".toList = .ok ⟨0, 0, 1, 2, [], []⟩ := by decide
  have added : Rewords reserved
      ("@@ -0,0 +1,2 @@".toList :: [⟨.added, left⟩, ⟨.added, []⟩].map BodyLine.render ++ [])
      ("@@ -0,0 +1,2 @@".toList :: [⟨.added, right⟩, ⟨.added, []⟩].map BodyLine.render ++ []) :=
    .hunk isLine isHeader rfl rfl (free leftFree) (free rightFree) .nil
  exact .line _ (.line _ added)

/-- Of all classes of characters that contents may be kept free of, those that hold every end of a
line are the ones for which contents never move a line. -/
theorem contents_keep_shape_iff (reserved : Char → Prop) :
    (∀ left right, Rewords reserved left right →
        AgreeOnShape (read (unlines left)) (read (unlines right))) ↔
      ∀ char, isBoundary char = true → reserved char := by
  constructor
  · intro keeps char boundary
    by_contra free
    have rewords : Rewords reserved (twoAdded []) (twoAdded [char, char]) :=
      rewords_twoAdded (by simp) (by simpa using free)
    have same := (keeps _ _ rewords).outline
    simp only [isBoundary, Bool.or_eq_true, decide_eq_true_eq, or_assoc] at boundary
    rcases boundary with rfl | rfl | rfl | rfl | rfl | rfl | rfl | rfl | rfl | rfl <;>
      exact absurd same (by decide +kernel)
  · intro ends left right rewords
    exact agreeOnShape_of_outline (alike_of_rewords ends rewords 1 none).outline

theorem contents_keep_shape_iff_lookalike :
    Rewords (isBoundary · = true) (twoAdded "++ b/g".toList) (twoAdded []) ∧
      AgreeOnShape (read (unlines (twoAdded "++ b/g".toList))) (read (unlines (twoAdded []))) ∧
        (read (unlines (twoAdded []))).map (·.files.map FileChange.positions) =
          .ok [[(1, 1), (2, 2)]] := by
  have rewords : Rewords (isBoundary · = true) (twoAdded "++ b/g".toList) (twoAdded []) :=
    rewords_twoAdded (by simp [isBoundary]) (by simp)
  have keeps := (contents_keep_shape_iff (isBoundary · = true)).mpr fun _ boundary => boundary
  exact ⟨rewords, keeps _ _ rewords, by decide +kernel⟩

/-- Contents that hold neither a line feed nor a carriage return may move the lines behind them: a
form feed makes two lines out of one, and the second ends the hunk. -/
theorem exists_contents_move_lines :
    ∃ left right before after, Rewords (· ∈ ['\n', '\r']) left right ∧
      read (unlines left) = .ok before ∧ read (unlines right) = .ok after ∧
        before.files.map FileChange.positions ≠ after.files.map FileChange.positions := by
  have rewords : Rewords (· ∈ ['\n', '\r']) (twoAdded ['a']) (twoAdded ['a', '\x0c', 'b']) :=
    rewords_twoAdded (by simp) (by simp)
  exact ⟨_, _, _, _, rewords, rfl, rfl, by decide +kernel⟩

end Diff

end Marginalia
