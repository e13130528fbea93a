/-!
# Tables

A table remembers the order in which its keys first arrived.  Setting a key that is present changes
its value and moves nothing; a new key goes to the end.
-/

namespace Marginalia

/-- Keys with their values, in the order of first arrival. -/
abbrev Table (Key Entry : Type) := List (Key × Entry)

namespace Table

variable {Key Entry : Type} [DecidableEq Key]

/-- The value of a key. -/
def get? (key : Key) : Table Key Entry → Option Entry
  | [] => none
  | (present, value) :: table => if present = key then some value else get? key table

/-- Set the value of a key. -/
def put (key : Key) (value : Entry) : Table Key Entry → Table Key Entry
  | [] => [(key, value)]
  | (present, old) :: table =>
      if present = key then (present, value) :: table else (present, old) :: put key value table

/-- Add to the count of a key; an absent key counts zero. -/
def add (key : Key) (amount : Nat) (table : Table Key Nat) : Table Key Nat :=
  put key ((get? key table).getD 0 + amount) table

/-- Append an item to the list of a key. -/
def file {Item : Type} (key : Key) (item : Item) (table : Table Key (List Item)) :
    Table Key (List Item) :=
  put key ((get? key table).getD [] ++ [item]) table

/-- The list of a key; an absent key has none. -/
def filed {Item : Type} (key : Key) (table : Table Key (List Item)) : List Item :=
  (get? key table).getD []

/-- Add up counts, key by key. -/
def addAll (more table : Table Key Nat) : Table Key Nat :=
  more.foldl (fun table (key, count) => add key count table) table

/-- How often each item occurs, in the order of first occurrence. -/
def tally (items : List Key) : Table Key Nat :=
  items.foldl (fun table item => add item 1 table) []

@[simp]
theorem get?_put_self (key : Key) (value : Entry) (table : Table Key Entry) :
    get? key (put key value table) = some value := by
  induction table with
  | nil => simp [put, get?]
  | cons entry table ih =>
      obtain ⟨present, old⟩ := entry
      by_cases same : present = key <;> simp [put, get?, same, ih]

theorem get?_put_of_ne {key other : Key} (distinct : other ≠ key) (value : Entry)
    (table : Table Key Entry) : get? other (put key value table) = get? other table := by
  induction table with
  | nil => simp [put, get?, Ne.symm distinct]
  | cons entry table ih =>
      obtain ⟨present, old⟩ := entry
      by_cases same : present = key
      · subst same
        simp [put, get?, Ne.symm distinct]
      · by_cases found : present = other
        · subst found
          simp [put, get?, same]
        · simp [put, get?, same, found, ih]

end Table

end Marginalia
