import Mathlib.Data.List.Induction
import Mathlib.Data.List.Perm.Subperm
import Mathlib.Tactic.Common
import Marginalia.Proofs.Context.Merging

/-!
# What is selected of candidates

Reducing candidates to one for each path selects the first of the most confident ones for each path,
in the order in which the paths first came up, and nothing else does.  One more candidate changes at
most one place of the selection, and a selection of a selection is that selection again.
-/

namespace Marginalia

namespace Match

/-! ## One more candidate -/

section

variable {Amount : Type} [Scale Amount]

/-- What one more candidate makes of a selection. -/
inductive IsExtendedBy (candidate : Match Amount) : List (Match Amount) → List (Match Amount) → Prop
  /-- A match for the same file is at least as sure. -/
  | unchanged {kept : List (Match Amount)} {present : Match Amount} :
      present ∈ kept → present.path = candidate.path →
      Scale.below present.confidence candidate.confidence = false →
      IsExtendedBy candidate kept kept
  /-- It takes the place of a match for the same file that is less sure. -/
  | replaced {front back : List (Match Amount)} {present : Match Amount} :
      present.path = candidate.path →
      Scale.below present.confidence candidate.confidence = true →
      IsExtendedBy candidate (front ++ present :: back) (front ++ candidate :: back)
  /-- There is no match for the same file. -/
  | appended {kept : List (Match Amount)} :
      (∀ present ∈ kept, present.path ≠ candidate.path) →
      IsExtendedBy candidate kept (kept ++ [candidate])

theorem get?_foldl_keep_eq_none_iff (candidates : List (Match Amount)) (path : Text) :
    Table.get? path (candidates.foldl keep []) = none ↔
      ∀ candidate ∈ candidates, candidate.path ≠ path := by
  rw [Table.get?_eq_none_iff, keys_foldl_keep candidates Table.nodup_keys_nil, Table.keys_nil,
    List.nil_append, List.mem_eraseDups]
  simp

theorem mem_distinct_iff (candidates : List (Match Amount)) (kept : Match Amount) :
    kept ∈ distinct candidates ↔
      Table.get? kept.path (candidates.foldl keep []) = some kept := by
  rw [Table.get?_eq_some_iff (nodup_keys_foldl_keep candidates Table.nodup_keys_nil), distinct,
    List.mem_map]
  constructor
  · rintro ⟨entry, isEntry, rfl⟩
    rw [path_of_mem_foldl_keep candidates entry isEntry]
    exact isEntry
  · exact fun isEntry => ⟨_, isEntry, rfl⟩

theorem isExtendedBy_distinct (candidates : List (Match Amount)) (candidate : Match Amount) :
    candidate.IsExtendedBy (distinct candidates) (distinct (candidates ++ [candidate])) := by
  have extended : distinct (candidates ++ [candidate]) =
      (keep (candidates.foldl keep []) candidate).map (·.2) := by
    rw [distinct, List.foldl_concat]
  cases found : Table.get? candidate.path (candidates.foldl keep []) with
  | none =>
      have absent : ∀ present ∈ distinct candidates, present.path ≠ candidate.path := by
        intro present isPresent same
        rw [mem_distinct_iff, same, found] at isPresent
        contradiction
      rw [extended, keep, found, Table.put_of_notMem ((Table.get?_eq_none_iff _ _).mp found),
        List.map_append]
      exact .appended absent
  | some present =>
      have isEntry : (candidate.path, present) ∈ candidates.foldl keep [] :=
        (Table.get?_eq_some_iff (nodup_keys_foldl_keep candidates Table.nodup_keys_nil)).mp found
      have same : present.path = candidate.path := path_of_mem_foldl_keep candidates _ isEntry
      cases stronger : Scale.below present.confidence candidate.confidence with
      | true =>
          obtain ⟨front, back, before, after⟩ :=
            Table.exists_put_eq_of_get?_eq_some found candidate
          have isKept : distinct candidates = front.map (·.2) ++ present :: back.map (·.2) := by
            simp [distinct, before]
          have isReplaced : distinct (candidates ++ [candidate]) =
              front.map (·.2) ++ candidate :: back.map (·.2) := by
            simp [extended, keep, found, stronger, after]
          rw [isKept, isReplaced]
          exact .replaced same stronger
      | false =>
          have isKept : distinct (candidates ++ [candidate]) = distinct candidates := by
            simp [keep, found, stronger, distinct]
          rw [isKept]
          exact .unchanged (List.mem_map.mpr ⟨_, isEntry, rfl⟩) same stronger

/-- An extended selection has the candidate and what was selected before, less what it replaces. -/
theorem IsExtendedBy.subperm {candidate : Match Amount} {before after : List (Match Amount)}
    (extended : candidate.IsExtendedBy before after) : after.Subperm (before ++ [candidate]) := by
  cases extended with
  | unchanged => exact (List.sublist_append_left before [candidate]).subperm
  | appended => exact List.Subperm.refl _
  | @replaced front back present =>
      have moved : (front ++ candidate :: back).Perm (front ++ back ++ [candidate]) := by
        rw [List.append_assoc]
        exact (List.perm_append_singleton candidate back).symm.append_left front
      have dropped : (front ++ back).Sublist (front ++ present :: back) :=
        (List.sublist_cons_self present back).append_left front
      exact moved.subperm.trans (dropped.append_right [candidate]).subperm

/-- What is selected are candidates, each of them as often as it comes up at most. -/
theorem subperm_distinct (candidates : List (Match Amount)) :
    (distinct candidates).Subperm candidates := by
  induction candidates using List.reverseRecOn with
  | nil => exact List.Subperm.refl []
  | append_singleton candidates candidate induct =>
      have before := (List.subperm_append_right [candidate]).mpr induct
      exact (isExtendedBy_distinct candidates candidate).subperm.trans before

end

/-! ## The first of the most confident candidates -/

section

variable {candidates kept : List (Match Float)} {candidate best other : Match Float}

/-- Among the candidates for its path, the first of those that are as confident as any. -/
def IsFirstBest (candidates : List (Match Float)) (best : Match Float) : Prop :=
  ∃ front back, candidates = front ++ best :: back ∧
    (∀ former ∈ front, former.path = best.path →
      Number.below former.confidence best.confidence = true) ∧
    ∀ latter ∈ back, latter.path = best.path →
      Number.atMost latter.confidence best.confidence = true

theorem IsFirstBest.mem (isBest : IsFirstBest candidates best) : best ∈ candidates := by
  obtain ⟨front, back, rfl, -, -⟩ := isBest
  simp

theorem IsFirstBest.atMost (isBest : IsFirstBest candidates best) (ranked : best.IsRanked)
    (isCandidate : candidate ∈ candidates) (same : candidate.path = best.path) :
    Number.atMost candidate.confidence best.confidence = true := by
  obtain ⟨front, back, rfl, weaker, weakly⟩ := isBest
  rcases List.mem_append.mp isCandidate with earlier | later
  · exact Number.atMost_of_below (weaker candidate earlier same)
  · rcases List.mem_cons.mp later with rfl | later
    · obtain ⟨place, isPlace⟩ := Option.isSome_iff_exists.mp ranked
      exact Number.atMost_iff.mpr ⟨place, place, isPlace, isPlace, Int.le_refl _⟩
    · exact weakly candidate later same

theorem IsFirstBest.concat (isBest : IsFirstBest candidates best)
    (weakly : candidate.path = best.path →
      Number.atMost candidate.confidence best.confidence = true) :
    IsFirstBest (candidates ++ [candidate]) best := by
  obtain ⟨front, back, rfl, earlier, later⟩ := isBest
  refine ⟨front, back ++ [candidate], by simp, earlier, fun latter isLatter same => ?_⟩
  rcases List.mem_append.mp isLatter with isLatter | isLast
  · exact later latter isLatter same
  · obtain rfl := List.mem_singleton.mp isLast
    exact weakly same

theorem isFirstBest_concat_self
    (stronger : ∀ former ∈ candidates, former.path = candidate.path →
      Number.below former.confidence candidate.confidence = true) :
    IsFirstBest (candidates ++ [candidate]) candidate :=
  ⟨candidates, [], rfl, stronger, by simp⟩

/-- What stands in front of the first best is weaker, and what is as good as the first best does not
stand in front of it: there are no two of them for one path. -/
theorem IsFirstBest.eq (isBest : IsFirstBest candidates best)
    (isOther : IsFirstBest candidates other) (same : other.path = best.path) : other = best := by
  obtain ⟨front, back, split, weaker, weakly⟩ := isBest
  obtain ⟨otherFront, otherBack, otherSplit, otherWeaker, otherWeakly⟩ := isOther
  rcases List.append_eq_append_iff.mp (split.symm.trans otherSplit) with
    ⟨between, isFront, isBack⟩ | ⟨between, isFront, isBack⟩
  · cases between with
    | nil => exact (List.cons.inj isBack).1.symm
    | cons first between =>
        obtain ⟨rfl, rfl⟩ := List.cons.inj isBack
        have above := otherWeaker best (by simp [isFront]) same.symm
        have below := weakly other (by simp) same
        exact absurd above (Number.not_below_of_atMost below)
  · cases between with
    | nil => exact (List.cons.inj isBack).1
    | cons first between =>
        obtain ⟨rfl, rfl⟩ := List.cons.inj isBack
        have above := weaker other (by simp [isFront]) same
        have below := otherWeakly best (by simp) same.symm
        exact absurd above (Number.not_below_of_atMost below)

/-- The table of matches has under each path the first of the most confident candidates for it. -/
theorem isFirstBest_of_get? (ranked : ∀ candidate ∈ candidates, candidate.IsRanked) {path : Text}
    (found : Table.get? path (candidates.foldl keep []) = some best) :
    best.path = path ∧ IsFirstBest candidates best := by
  induction candidates using List.reverseRecOn generalizing best with
  | nil => simp [Table.get?] at found
  | append_singleton candidates candidate induct =>
      have formerRanked : ∀ former ∈ candidates, former.IsRanked :=
        fun former isFormer => ranked former (by simp [isFormer])
      rw [List.foldl_concat, get?_keep] at found
      by_cases isPath : candidate.path = path
      · subst isPath
        rw [if_pos rfl, Option.some_inj] at found
        cases before : Table.get? candidate.path (candidates.foldl keep []) with
        | none =>
            obtain rfl : candidate = best := by simpa [betterOf, before] using found
            have absent := (get?_foldl_keep_eq_none_iff candidates candidate.path).mp before
            exact ⟨rfl, isFirstBest_concat_self fun former isFormer same =>
              absurd same (absent former isFormer)⟩
        | some present =>
            obtain ⟨same, isBest⟩ := induct formerRanked before
            have presentRanked := formerRanked present isBest.mem
            rw [before, betterOf, Option.elim_some] at found
            cases stronger : Number.below present.confidence candidate.confidence with
            | true =>
                obtain rfl := (better_of_below stronger).symm.trans found
                refine ⟨rfl, isFirstBest_concat_self fun former isFormer samePath => ?_⟩
                have weakly := isBest.atMost presentRanked isFormer (samePath.trans same.symm)
                exact Number.below_of_atMost_of_below weakly stronger
            | false =>
                obtain rfl := (better_of_not_below stronger).symm.trans found
                have weakly := Number.atMost_of_not_below presentRanked
                  (ranked candidate (by simp)) stronger
                exact ⟨same, isBest.concat fun _ => weakly⟩
      · rw [if_neg isPath] at found
        obtain ⟨rfl, isBest⟩ := induct formerRanked found
        exact ⟨rfl, isBest.concat fun same => absurd same isPath⟩

/-! ## Selections -/

/-- One match for each path that comes up, in the order in which the paths come up first, and of the
candidates for the path the first of the most confident ones. -/
structure IsSelection (candidates kept : List (Match Float)) : Prop where
  /-- Each path once, in the order of first arrival. -/
  paths : kept.map (·.path) = (candidates.map (·.path)).eraseDups
  /-- Of several candidates the first of the most confident ones. -/
  best : ∀ found ∈ kept, IsFirstBest candidates found

theorem isSelection_distinct (ranked : ∀ candidate ∈ candidates, candidate.IsRanked) :
    IsSelection candidates (distinct candidates) where
  paths := map_path_distinct candidates
  best _ isKept := (isFirstBest_of_get? ranked ((mem_distinct_iff _ _).mp isKept)).2

/-- There is one selection of candidates. -/
theorem IsSelection.eq {kept other : List (Match Float)} (isKept : IsSelection candidates kept)
    (isOther : IsSelection candidates other) : kept = other := by
  have samePaths : kept.map (·.path) = other.map (·.path) := isKept.paths.trans isOther.paths.symm
  have keptBest := isKept.best
  have otherBest := isOther.best
  clear isKept isOther
  induction kept generalizing other with
  | nil => simpa using samePaths.symm
  | cons first kept induct =>
      cases other with
      | nil => simp at samePaths
      | cons second other =>
          obtain ⟨same, others⟩ := List.cons.inj samePaths
          obtain ⟨firstBest, keptBest⟩ := List.forall_mem_cons.mp keptBest
          obtain ⟨secondBest, otherBest⟩ := List.forall_mem_cons.mp otherBest
          rw [secondBest.eq firstBest same, induct others keptBest otherBest]

theorem exists_present_of_mem (ranked : ∀ candidate ∈ candidates, candidate.IsRanked)
    (isCandidate : candidate ∈ candidates) :
    ∃ present, Table.get? candidate.path (candidates.foldl keep []) = some present ∧
      Number.atMost candidate.confidence present.confidence = true := by
  cases found : Table.get? candidate.path (candidates.foldl keep []) with
  | none => exact absurd rfl ((get?_foldl_keep_eq_none_iff _ _).mp found candidate isCandidate)
  | some present =>
      obtain ⟨same, isBest⟩ := isFirstBest_of_get? ranked found
      exact ⟨present, rfl, isBest.atMost (ranked present isBest.mem) isCandidate same.symm⟩

/-- Candidates that come again are passed over. -/
theorem distinct_append_of_subset (ranked : ∀ candidate ∈ candidates, candidate.IsRanked)
    {more : List (Match Float)} (again : ∀ candidate ∈ more, candidate ∈ candidates) :
    distinct (candidates ++ more) = distinct candidates := by
  suffices settled : more.foldl keep (candidates.foldl keep []) = candidates.foldl keep [] by
    rw [distinct, List.foldl_append, settled, distinct]
  induction more with
  | nil => rfl
  | cons candidate more induct =>
      obtain ⟨isCandidate, again⟩ := List.forall_mem_cons.mp again
      obtain ⟨present, found, weakly⟩ := exists_present_of_mem ranked isCandidate
      have passedOver : keep (candidates.foldl keep []) candidate = candidates.foldl keep [] := by
        rw [keep, found]
        exact if_neg (Number.not_below_of_atMost weakly)
      rw [List.foldl_cons, passedOver, induct again]

/-- In another order the same paths come up, and what is selected under each of them is as sure. -/
theorem areSame_of_perm {others : List (Match Float)} (perm : others.Perm candidates)
    (ranked : ∀ candidate ∈ candidates, candidate.IsRanked) (isKept : best ∈ distinct candidates)
    (isOther : other ∈ distinct others) (same : other.path = best.path) :
    Number.AreSame other.confidence best.confidence := by
  have othersRanked : ∀ candidate ∈ others, candidate.IsRanked :=
    fun candidate isCandidate => ranked candidate (perm.subset isCandidate)
  have isBest := (isSelection_distinct ranked).best best isKept
  have isOtherBest := (isSelection_distinct othersRanked).best other isOther
  have weakly := isBest.atMost (ranked best isBest.mem) (perm.subset isOtherBest.mem) same
  have strongly := isOtherBest.atMost (othersRanked other isOtherBest.mem)
    (perm.symm.subset isBest.mem) same.symm
  exact Number.areSame_of_atMost weakly strongly

/-- Reducing matches gives the one selection there is of them.  The selection is not reduced any
further, and candidates that come again change nothing.  One more candidate extends the selection,
and another order changes neither its paths nor the confidence under each of them. -/
theorem distinct_is_selection (made : ∀ candidate ∈ candidates, candidate.IsMade) :
    (∀ kept, IsSelection candidates kept ↔ kept = distinct candidates) ∧
      distinct (distinct candidates) = distinct candidates ∧
      (∀ times, distinct (List.replicate (times + 1) candidates).flatten = distinct candidates) ∧
      (∀ candidate : Match Float,
        candidate.IsExtendedBy (distinct candidates) (distinct (candidates ++ [candidate]))) ∧
      ∀ others : List (Match Float), others.Perm candidates →
        (∀ path, path ∈ (distinct others).map (·.path) ↔
          path ∈ (distinct candidates).map (·.path)) ∧
        ∀ kept ∈ distinct candidates, ∀ other ∈ distinct others, other.path = kept.path →
          Number.AreSame other.confidence kept.confidence := by
  have ranked : ∀ candidate ∈ candidates, candidate.IsRanked :=
    fun candidate isCandidate => (made candidate isCandidate).isRanked
  have selected := isSelection_distinct ranked
  refine ⟨fun kept => ⟨fun isKept => isKept.eq selected, fun same => same ▸ selected⟩, ?_, ?_,
    isExtendedBy_distinct candidates, fun others perm => ⟨fun path => ?_, ?_⟩⟩
  · rw [distinct, foldl_keep_distinct Table.nodup_keys_nil ranked, distinct]
  · intro times
    rw [List.replicate_succ, List.flatten_cons]
    refine distinct_append_of_subset ranked fun candidate isCandidate => ?_
    obtain ⟨again, isAgain, isCandidate⟩ := List.mem_flatten.mp isCandidate
    exact List.eq_of_mem_replicate isAgain ▸ isCandidate
  · rw [map_path_distinct, map_path_distinct, List.mem_eraseDups, List.mem_eraseDups,
      (perm.map _).mem_iff]
  · exact fun kept isKept other isOther same => areSame_of_perm perm ranked isKept isOther same

/-- Candidates for two files, in turns, with two that are equally sure. -/
def interleaved : List (Match Float) :=
  [Retrieval.nearby ['a'] ['1'], Retrieval.imported ['b'] ['2'], Retrieval.imported ['a'] ['3'],
    Retrieval.nearby ['b'] ['4'], Retrieval.imported ['a'] ['5']]

theorem distinct_is_selection_interleaved :
    (∀ candidate ∈ interleaved, candidate.IsMade) ∧
      distinct interleaved =
        [Retrieval.imported ['a'] ['3'], Retrieval.imported ['b'] ['2']] := by
  have made : ∀ candidate ∈ interleaved, candidate.IsMade := by
    simp only [interleaved, List.forall_mem_cons]
    exact ⟨rfl, rfl, rfl, rfl, rfl, by simp⟩
  have isBest : IsFirstBest interleaved (Retrieval.imported ['a'] ['3']) :=
    ⟨interleaved.take 2, interleaved.drop 3, rfl, by decide +kernel, by decide +kernel⟩
  have isOtherBest : IsFirstBest interleaved (Retrieval.imported ['b'] ['2']) :=
    ⟨interleaved.take 1, interleaved.drop 2, rfl, by decide +kernel, by decide +kernel⟩
  refine ⟨made, (((distinct_is_selection made).1 _).mp ⟨by decide, ?_⟩).symm⟩
  exact List.forall_mem_cons.mpr ⟨isBest, List.forall_mem_singleton.mpr isOtherBest⟩

end

end Match

end Marginalia
