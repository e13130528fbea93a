/-!
# Totals

Sizes are added up: the lines of hunks and of files, and the days of months.
-/

namespace Marginalia

/-- The total of some numbers. -/
def total (numbers : List Nat) : Nat :=
  numbers.foldr (fun number rest => number + rest) 0

@[simp]
theorem total_nil : total [] = 0 := rfl

@[simp]
theorem total_cons (number : Nat) (numbers : List Nat) :
    total (number :: numbers) = number + total numbers := rfl

@[simp]
theorem total_append (front back : List Nat) :
    total (front ++ back) = total front + total back := by
  induction front with
  | nil => simp
  | cons number front induct =>
      rw [List.cons_append, total_cons, total_cons, induct, Nat.add_assoc]

/-- Only noughts add up to nought. -/
theorem total_eq_zero_iff (numbers : List Nat) :
    total numbers = 0 ↔ ∀ number ∈ numbers, number = 0 := by
  induction numbers with
  | nil => simp
  | cons number numbers induct => simp [Nat.add_eq_zero_iff, induct]

end Marginalia
