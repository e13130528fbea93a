import Mathlib.Data.List.Induction
import Mathlib.Tactic.Common
import Marginalia.Context.Match
import Marginalia.Proofs.Number.Order
import Marginalia.Proofs.Occurrence
import Marginalia.Proofs.Table

/-!
# One match for each path

Reducing matches to one for each path keeps the paths in the order of first arrival, and under each
path the first of its most confident matches.  Matches that are reduced in parts are therefore
reduced to the same: what is left out of a part would not be kept of the whole, and leaves its place
to what is.
-/

namespace Marginalia

namespace Match

section

variable {Amount : Type} [Scale Amount]

/-- Of two matches for one path the more confident one, and the former of equally confident
ones. -/
def better (present candidate : Match Amount) : Match Amount :=
  if Scale.below present.confidence candidate.confidence then candidate else present

/-- What is kept of a candidate and of what was kept before it. -/
def betterOf (present : Option (Match Amount)) (candidate : Match Amount) : Match Amount :=
  present.elim candidate (·.better candidate)

/-- What is kept of candidates for one path and of what was kept before them. -/
def bestOf (present : Option (Match Amount)) (candidates : List (Match Amount)) :
    Option (Match Amount) :=
  candidates.foldl (fun best candidate => some (betterOf best candidate)) present

theorem bestOf_concat (present : Option (Match Amount)) (candidates : List (Match Amount))
    (candidate : Match Amount) :
    bestOf present (candidates ++ [candidate]) =
      some (betterOf (bestOf present candidates) candidate) := by
  simp [bestOf]

/-- What is kept is one of the candidates when nothing was kept before. -/
theorem mem_of_bestOf_none {candidates : List (Match Amount)} {best : Match Amount}
    (isBest : bestOf none candidates = some best) : best ∈ candidates := by
  induction candidates using List.reverseRecOn generalizing best with
  | nil => simp [bestOf] at isBest
  | append_singleton candidates candidate induct =>
      rw [bestOf_concat, Option.some_inj] at isBest
      cases found : bestOf none candidates with
      | none =>
          obtain rfl : candidate = best := by simpa [betterOf, found] using isBest
          simp
      | some present =>
          have earlier := induct found
          rw [found, betterOf, Option.elim_some, better] at isBest
          split at isBest <;> subst isBest <;> simp [earlier]

theorem keep_eq_put (kept : Table Text (Match Amount)) (candidate : Match Amount) :
    keep kept candidate =
      Table.put candidate.path (betterOf (Table.get? candidate.path kept) candidate) kept := by
  cases found : Table.get? candidate.path kept with
  | none => simp [keep, betterOf, found]
  | some present =>
      by_cases stronger : Scale.below present.confidence candidate.confidence = true
      · simp [keep, betterOf, better, found, stronger]
      · simp [keep, betterOf, better, found, stronger, Table.put_of_get?_eq_some found]

theorem get?_keep (path : Text) (kept : Table Text (Match Amount)) (candidate : Match Amount) :
    Table.get? path (keep kept candidate) =
      if candidate.path = path then some (betterOf (Table.get? path kept) candidate)
      else Table.get? path kept := by
  rw [keep_eq_put]
  by_cases same : candidate.path = path
  · subst same
    simp
  · rw [if_neg same, Table.get?_put_of_ne (Ne.symm same)]

/-- Under each path the best of its candidates is kept. -/
theorem get?_foldl_keep (path : Text) (candidates : List (Match Amount))
    (kept : Table Text (Match Amount)) :
    Table.get? path (candidates.foldl keep kept) =
      bestOf (Table.get? path kept) (candidates.filter (·.path = path)) := by
  induction candidates using List.reverseRecOn with
  | nil => rfl
  | append_singleton candidates candidate induct =>
      rw [List.foldl_concat, get?_keep, List.filter_append, induct]
      by_cases same : candidate.path = path
      · simp [same, bestOf_concat]
      · simp [same]

/-- Paths are kept in the order of first arrival. -/
theorem keys_foldl_keep (candidates : List (Match Amount)) {kept : Table Text (Match Amount)}
    (distinct : (Table.keys kept).Nodup) :
    Table.keys (candidates.foldl keep kept) =
      (Table.keys kept ++ candidates.map (·.path)).eraseDups := by
  induction candidates using List.reverseRecOn with
  | nil => simpa using (eraseDups_of_nodup distinct).symm
  | append_singleton candidates candidate induct =>
      rw [List.foldl_concat, keep_eq_put, Table.keys_put, induct, List.map_append,
        List.map_singleton, ← List.append_assoc]
      by_cases known : candidate.path ∈ Table.keys kept ++ candidates.map (·.path)
      · rw [if_pos (List.mem_eraseDups.mpr known), eraseDups_concat_of_mem known]
      · rw [if_neg (mt List.mem_eraseDups.mp known), eraseDups_concat_of_notMem known]

theorem nodup_keys_foldl_keep (candidates : List (Match Amount))
    {kept : Table Text (Match Amount)} (distinct : (Table.keys kept).Nodup) :
    (Table.keys (candidates.foldl keep kept)).Nodup :=
  keys_foldl_keep candidates distinct ▸ nodup_eraseDups _

/-- Every match is kept under its own path. -/
theorem path_of_mem_foldl_keep (candidates : List (Match Amount)) :
    ∀ entry ∈ candidates.foldl keep [], entry.2.path = entry.1 := by
  intro entry isEntry
  have found := Table.get?_of_mem (nodup_keys_foldl_keep candidates Table.nodup_keys_nil) isEntry
  rw [get?_foldl_keep] at found
  simpa using (List.mem_filter.mp (mem_of_bestOf_none found)).2

/-- The paths are those of the candidates, in the order of first arrival. -/
theorem map_path_distinct (candidates : List (Match Amount)) :
    (distinct candidates).map (·.path) = (candidates.map (·.path)).eraseDups :=
  calc
    (distinct candidates).map (·.path) = Table.keys (candidates.foldl keep []) := by
      rw [distinct, List.map_map]
      exact List.map_congr_left (path_of_mem_foldl_keep candidates)
    _ = (candidates.map (·.path)).eraseDups := keys_foldl_keep candidates Table.nodup_keys_nil

/-- Of the candidates for a path one is left, the best one. -/
theorem filter_path_distinct (candidates : List (Match Amount)) (path : Text) :
    (distinct candidates).filter (·.path = path) =
      (bestOf none (candidates.filter (·.path = path))).toList := by
  have own : ∀ entry ∈ candidates.foldl keep [],
      decide (entry.2.path = path) = decide (entry.1 = path) := by
    intro entry isEntry
    rw [path_of_mem_foldl_keep candidates entry isEntry]
  calc
    (distinct candidates).filter (·.path = path) =
        ((candidates.foldl keep []).filter (·.1 = path)).map (·.2) := by
      rw [distinct, List.filter_map]
      exact congrArg _ (List.filter_congr own)
    _ = (bestOf none (candidates.filter (·.path = path))).toList := by
      rw [Table.filter_key (nodup_keys_foldl_keep candidates Table.nodup_keys_nil), get?_foldl_keep,
        Table.get?]
      cases bestOf none (candidates.filter (·.path = path)) <;> rfl

end

/-! ## Doubles as confidences -/

section

variable {kept : Table Text (Match Float)} {candidates : List (Match Float)}

/-- A match whose confidence has a place among all others, as every match has that passes its own
check. -/
def IsRanked (candidate : Match Float) : Prop :=
  (Number.rank? candidate.confidence).isSome = true

theorem better_of_below {present candidate : Match Float}
    (below : Number.below present.confidence candidate.confidence = true) :
    present.better candidate = candidate :=
  if_pos below

theorem better_of_not_below {present candidate : Match Float}
    (notBelow : Number.below present.confidence candidate.confidence = false) :
    present.better candidate = present :=
  if_neg (Bool.eq_false_iff.mp notBelow)

/-- Of three matches the best one is the same whichever two are compared first. -/
theorem betterOf_better (present : Option (Match Float)) {middle : Match Float}
    (ranked : middle.IsRanked) (last : Match Float) :
    betterOf present (middle.better last) = (betterOf present middle).better last := by
  cases present with
  | none => rfl
  | some present =>
      change present.better (middle.better last) = (present.better middle).better last
      cases first : Number.below present.confidence middle.confidence with
      | true =>
          rw [better_of_below first]
          cases second : Number.below middle.confidence last.confidence with
          | true =>
              rw [better_of_below second, better_of_below (Number.below_trans first second)]
          | false => rw [better_of_not_below second, better_of_below first]
      | false =>
          rw [better_of_not_below first]
          cases second : Number.below middle.confidence last.confidence with
          | true => rw [better_of_below second]
          | false =>
              rw [better_of_not_below second, better_of_not_below first,
                better_of_not_below (Number.not_below_trans ranked first second)]

/-- The best of some candidates may stand for all of them. -/
theorem bestOf_bestOf_none (present : Option (Match Float))
    (ranked : ∀ candidate ∈ candidates, candidate.IsRanked) :
    bestOf present (bestOf none candidates).toList = bestOf present candidates := by
  induction candidates using List.reverseRecOn with
  | nil => rfl
  | append_singleton candidates candidate induct =>
      have former : bestOf present (bestOf none candidates).toList = bestOf present candidates :=
        induct fun other isOther => ranked other (by simp [isOther])
      rw [bestOf_concat, bestOf_concat, ← former]
      cases found : bestOf none candidates with
      | none => rfl
      | some best =>
          have bestRanked : best.IsRanked := ranked best (by simp [mem_of_bestOf_none found])
          exact congrArg some (betterOf_better present bestRanked candidate)

theorem foldl_keep_distinct (distinctKeys : (Table.keys kept).Nodup)
    (ranked : ∀ candidate ∈ candidates, candidate.IsRanked) :
    (distinct candidates).foldl keep kept = candidates.foldl keep kept := by
  apply Table.ext_of_get? (nodup_keys_foldl_keep _ distinctKeys)
  · rw [keys_foldl_keep _ distinctKeys, keys_foldl_keep _ distinctKeys, map_path_distinct,
      eraseDups_append_eraseDups]
  · intro path
    rw [get?_foldl_keep, get?_foldl_keep, filter_path_distinct, bestOf_bestOf_none]
    exact fun candidate isCandidate => ranked candidate (List.mem_filter.mp isCandidate).1

/-- Matches that are reduced part by part are reduced to the same as all at once. -/
theorem distinct_flatMap_distinct {parts : List (List (Match Float))}
    (ranked : ∀ part ∈ parts, ∀ candidate ∈ part, candidate.IsRanked) :
    distinct (parts.flatMap distinct) = distinct parts.flatten := by
  have reduced : ∀ kept : Table Text (Match Float), (Table.keys kept).Nodup →
      (parts.flatMap distinct).foldl keep kept = parts.flatten.foldl keep kept := by
    induction parts with
    | nil => exact fun _ _ => rfl
    | cons part parts induct =>
        intro kept distinctKeys
        obtain ⟨first, others⟩ := List.forall_mem_cons.mp ranked
        rw [List.flatMap_cons, List.flatten_cons, List.foldl_append, List.foldl_append,
          foldl_keep_distinct distinctKeys first]
        exact induct others _ (nodup_keys_foldl_keep part distinctKeys)
  rw [distinct, distinct, reduced [] Table.nodup_keys_nil]

end

end Match

end Marginalia
