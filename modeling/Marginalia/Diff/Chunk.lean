import Marginalia.Diff.Basic
import Marginalia.Value.Convert

/-!
# Chunks

A large diff is cut into chunks of a bounded number of body lines.  A hunk is never cut, so one that
exceeds the budget by itself stands in a chunk of its own, and each hunk carries its file with it.
A chunk is closed only when it holds a line already and the next hunk no longer fits.
-/

namespace Marginalia

/-- How many body lines a chunk may hold. -/
inductive Budget where
  /-- At most a number of lines. -/
  | atMost (lines : Nat)
  /-- Any number of lines. -/
  | unlimited
deriving DecidableEq, Repr

namespace Budget

/-- The budget where none is asked for. -/
def standard : Budget := .atMost 1000

/-- Whether a number of lines stays within a budget. -/
def admits : Budget → Nat → Bool
  | .atMost most, count => count ≤ most
  | .unlimited, _ => true

/-- Why a value is no budget. -/
inductive Fault where
  /-- It is not positive. -/
  | notPositive (limit : Value)
  /-- It cannot be compared with a number. -/
  | incomparable (kind : Kind)

/-- The message of a fault. -/
def Fault.message : Fault → Text
  | .notPositive limit =>
      if limit.isWritable then "max_lines_per_chunk must be positive, got ".toList ++ limit.asText
      else Text.tooLongToWrite
  | .incomparable kind =>
      "'<=' not supported between instances of '".toList ++ kind.name ++ "' and 'int'".toList

/-- The family of a fault. -/
def Fault.family : Fault → Family
  | .notPositive _ => .value
  | .incomparable _ => .kind

/-- The budget of an integer. -/
def ofInteger (limit : Int) : Except Fault Budget :=
  if limit ≤ 0 then .error (.notPositive (.integer limit)) else .ok (.atMost limit.toNat)

theorem ofInteger_of_positive {most : Nat} (positive : 1 ≤ most) :
    ofInteger most = .ok (.atMost most) := by
  rw [ofInteger, if_neg (by omega), Int.toNat_natCast]

/-- The budget that a value stands for.  The fraction of a decimal admits no further line. -/
def ofValue : Value → Except Fault Budget
  | .bool truth => if truth then .ok (.atMost 1) else .error (.notPositive (.bool truth))
  | .integer limit => ofInteger limit
  | .decimal limit =>
      if Number.atMost limit 0 then .error (.notPositive (.decimal limit))
      else if limit.isNaN || Number.isInfinite limit then .ok .unlimited
      else .ok (.atMost (Number.truncate limit).toNat)
  | value => .error (.incomparable value.kind)

end Budget

namespace Diff

/-- The hunks of a diff, each with its own copy of its file. -/
def pieces (diff : Diff) : List FileChange :=
  diff.files.flatMap fun file => file.hunks.map file.only

/-- Fill chunks with pieces; `filled` holds what the first chunk already has. -/
def fill (budget : Budget) (filled : List FileChange) : List FileChange → List Diff
  | [] => if filled.isEmpty then [] else [⟨filled⟩]
  | piece :: pieces =>
      let count := (⟨filled⟩ : Diff).lineCount
      if 0 < count && !budget.admits (count + piece.lineCount) then
        ⟨filled⟩ :: fill budget [piece] pieces
      else fill budget (filled ++ [piece]) pieces

/-- The chunks of a diff. -/
def chunks (budget : Budget) (diff : Diff) : List Diff :=
  fill budget [] diff.pieces

/-- Filling chunks loses nothing, adds nothing, and keeps the order. -/
theorem flatMap_files_fill (budget : Budget) (filled pieces : List FileChange) :
    (fill budget filled pieces).flatMap Diff.files = filled ++ pieces := by
  induction pieces generalizing filled with
  | nil => cases filled <;> simp [fill]
  | cons piece pieces induct =>
      simp only [fill]
      split <;> simp [induct]

/-- The chunks of a diff hold its pieces, in order. -/
@[simp]
theorem flatMap_files_chunks (budget : Budget) (diff : Diff) :
    (chunks budget diff).flatMap Diff.files = diff.pieces := by
  simp [chunks, flatMap_files_fill]

/-- No chunk that is filled is without files. -/
theorem files_ne_nil_of_mem_fill (budget : Budget) (filled pieces : List FileChange) :
    ∀ chunk ∈ fill budget filled pieces, chunk.files ≠ [] := by
  induction pieces generalizing filled with
  | nil => cases filled <;> simp [fill]
  | cons piece pieces induct =>
      simp only [fill]
      split
      case isTrue counted =>
        intro chunk isChunk
        rcases List.mem_cons.mp isChunk with rfl | later
        · rintro rfl
          simp at counted
        · exact induct _ chunk later
      case isFalse => exact induct _

end Diff

end Marginalia
