import Marginalia.Text.Basic

/-!
# Similarity

How much two texts have in common: their longest common run, and what the parts before and after it
have in common.  The similarity is the share of characters, of both texts, that are common.
-/

namespace Marginalia

namespace Text

/-- The length of the common beginning of two texts. -/
def commonBeginning : Text → Text → Nat
  | left :: lefts, right :: rights =>
      if left = right then commonBeginning lefts rights + 1 else 0
  | _, _ => 0

/-- A run of characters that two texts share. -/
structure Run where
  /-- Where it begins in the first text. -/
  left : Nat
  /-- Where it begins in the second text. -/
  right : Nat
  /-- Its length. -/
  length : Nat
deriving DecidableEq, Repr

/-- The longer of two runs; the first of equally long ones. -/
def Run.longer (first second : Run) : Run :=
  if first.length < second.length then second else first

/-- The longest run that two texts share; the earliest of equally long ones. -/
def longestRun (left right : Text) : Run :=
  (List.range left.length).foldl
    (fun best start =>
      (List.range right.length).foldl
        (fun best other =>
          best.longer
            ⟨start, other, commonBeginning (left.drop start) (right.drop other)⟩)
        best)
    ⟨0, 0, 0⟩

/-- How many characters two texts have in common; the bound is never less than the length of the
first text. -/
def commonWithin : Nat → Text → Text → Nat
  | 0, _, _ => 0
  | bound + 1, left, right =>
      let run := longestRun left right
      if run.length = 0 then 0
      else
        run.length + commonWithin bound (left.take run.left) (right.take run.right) +
          commonWithin bound (left.drop (run.left + run.length))
            (right.drop (run.right + run.length))

/-- Whether at least three fifths of the characters of two texts are common. -/
def areSimilar (left right : Text) : Bool :=
  3 * (left.length + right.length) ≤ 10 * commonWithin left.length left right

/-- Whether one text has at least as large a share in common with the wanted one as another has;
between equal shares the later text in the order of texts comes first. -/
def isAtLeastAsNear (wanted first second : Text) : Bool :=
  let weightOf := fun text => commonWithin text.length text wanted
  let left := weightOf first * (second.length + wanted.length)
  let right := weightOf second * (first.length + wanted.length)
  right < left || right = left && !isBefore first second

/-- How many similar texts are worth telling. -/
def mostSimilar : Nat := 3

/-- The texts that are similar to a wanted one, the nearest first, and not too many of them. -/
def similarTo (wanted : Text) (texts : List Text) : List Text :=
  ((texts.filter fun text => areSimilar text wanted).mergeSort (isAtLeastAsNear wanted)).take
    mostSimilar

end Text

end Marginalia
