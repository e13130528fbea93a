import Marginalia.Proofs.Context.Filing

/-!
# A listing against a scan

What a listing answers when it is asked for a whole module, for an ending of one or for a dotted
name is what a scan of the listed paths gives: the files that are the module; in their absence those
that are a module with that ending; and for a dotted name what its longest leading run of parts
finds that finds anything.
-/

namespace Marginalia

/-- What is found by the longest leading run of one or more parts that finds anything; nothing when
no such run does. -/
def IsLongestFind (find : List Text → List Text) (parts found : List Text) : Prop :=
  (∃ front, front ≠ [] ∧ front <+: parts ∧ find front ≠ [] ∧ found = find front ∧
    ∀ longer, longer <+: parts → front.length < longer.length → find longer = []) ∨
  (∀ front, front ≠ [] → front <+: parts → find front = []) ∧ found = []

theorem isLongestFind_nil (find : List Text → List Text) : IsLongestFind find [] [] :=
  .inr ⟨fun _ nonempty isFront => absurd (List.prefix_nil.mp isFront) nonempty, rfl⟩

/-- All parts together are the longest run of them. -/
theorem isLongestFind_whole {find : List Text → List Text} {parts : List Text}
    (nonempty : parts ≠ []) (finds : find parts ≠ []) : IsLongestFind find parts (find parts) := by
  refine .inl ⟨parts, nonempty, List.prefix_refl parts, finds, rfl, fun longer isFront more => ?_⟩
  exact absurd isFront.length_le (Nat.not_le_of_lt more)

/-- When all parts together find nothing, the last one is left out. -/
theorem IsLongestFind.concat {find : List Text → List Text} {parts found : List Text} {last : Text}
    (longest : IsLongestFind find parts found) (nothing : find (parts ++ [last]) = []) :
    IsLongestFind find (parts ++ [last]) found := by
  rcases longest with ⟨front, nonempty, isFront, finds, rfl, least⟩ | ⟨nowhere, rfl⟩
  · refine .inl ⟨front, nonempty, isFront.trans (List.prefix_append parts [last]), finds, rfl, ?_⟩
    intro longer isLonger more
    rcases List.prefix_concat_iff.mp isLonger with rfl | isLonger
    · exact nothing
    · exact least longer isLonger more
  · refine .inr ⟨fun front nonempty isFront => ?_, rfl⟩
    rcases List.prefix_concat_iff.mp isFront with rfl | isFront
    · exact nothing
    · exact nowhere front nonempty isFront

namespace Listing

variable {listing : Listing} {paths : List Text}

/-- Parts are left out from the end until something is found; the parts come last to first. -/
theorem isLongestFind_longest (listing : Listing) (parts : List Text) :
    IsLongestFind (fun front => listing.endingIn (Text.glue ['/'] front)) parts.reverse
      (listing.longest parts) := by
  induction parts with
  | nil => exact isLongestFind_nil _
  | cons last parts induct =>
      rw [longest, List.reverse_cons]
      split
      · rename_i finds
        refine isLongestFind_whole (List.append_ne_nil_of_right_ne_nil _ (List.cons_ne_nil _ _)) ?_
        simpa using finds
      · rename_i nothing
        exact induct.concat (by simpa using nothing)

/-- What a listing answers to every question is what a scan of the paths gives. -/
structure Resolves (listing : Listing) (paths : List Text) : Prop where
  /-- A module is asked for: the files that are it, as they are listed. -/
  exactly : ∀ key, listing.exactly key = paths.filter (IsModule key ·)
  /-- An ending is asked for that is a module itself: the files that are it. -/
  whole : ∀ key, listing.exactly key ≠ [] → listing.endingIn key = listing.exactly key
  /-- Another ending is asked for: the files that are a module with it. -/
  ending : ∀ key, listing.exactly key = [] → ∀ path, path ∈ listing.endingIn key ↔
    path ∈ paths ∧ ∃ module, IsModule module path ∧ ('/' :: key) <:+ module
  /-- A dotted name is asked for: what the longest leading run of its parts finds as an ending. -/
  dotted : ∀ name, IsLongestFind (fun front => listing.endingIn (Text.glue ['/'] front))
    ((Text.pieces '.' name).filter (!·.isEmpty)) (listing.dotted name)

theorem endingIn_of_exactly {key : Text} (found : listing.exactly key ≠ []) :
    listing.endingIn key = listing.exactly key := by
  simp [endingIn, found]

/-- What is found under a module stands in the entry of that module. -/
theorem Files.exists_entry_of_mem_exactly {module path : Text} (files : listing.Files paths)
    (isFound : path ∈ listing.exactly module) :
    ∃ filed, (module, filed) ∈ listing.modules ∧ path ∈ filed := by
  rw [Listing.exactly, Table.filed] at isFound
  cases found : Table.get? module listing.modules with
  | none =>
      rw [found] at isFound
      contradiction
  | some filed =>
      rw [found] at isFound
      exact ⟨filed, (Table.get?_eq_some_iff files.distinct).mp found, isFound⟩

/-- Under an ending that is no module stand the files that are a module with it. -/
theorem Files.mem_endingIn_iff {key path : Text} (files : listing.Files paths)
    (none : listing.exactly key = []) :
    path ∈ listing.endingIn key ↔
      path ∈ paths ∧ ∃ module, IsModule module path ∧ ('/' :: key) <:+ module := by
  constructor
  · intro isFound
    obtain ⟨module, rfl | isEnding, isIn⟩ := files.exists_of_mem_endingIn isFound
    · rw [none] at isIn
      contradiction
    · obtain ⟨isListed, isModule⟩ := files.mem_exactly_iff.mp isIn
      exact ⟨isListed, module, isModule, isEnding⟩
  · rintro ⟨isListed, module, isModule, isEnding⟩
    have isIn := files.mem_exactly_iff.mpr ⟨isListed, isModule⟩
    obtain ⟨filed, isEntry, isFiled⟩ := files.exists_entry_of_mem_exactly isIn
    simp only [endingIn, none, List.isEmpty_nil, Bool.not_true, Bool.false_eq_true, if_false]
    refine List.mem_flatMap.mpr ⟨(module, filed), isEntry, ?_⟩
    rwa [if_pos (List.isSuffixOf_iff_suffix.mpr isEnding)]

theorem Files.resolves (files : listing.Files paths) : listing.Resolves paths where
  exactly := files.exactly
  whole _ := endingIn_of_exactly
  ending _ none _ := files.mem_endingIn_iff none
  dotted name := by
    simpa [Listing.dotted] using
      listing.isLongestFind_longest ((Text.pieces '.' name).filter (!·.isEmpty)).reverse

/-- Paths that have names can be filed, and the listing of them answers every question as a scan
does. -/
theorem exists_ofPaths_resolves (named : ∀ path ∈ paths, (Path.ofText path).name ≠ []) :
    ∃ listing, ofPaths paths = .ok listing ∧ listing.Resolves paths := by
  obtain ⟨listing, filed⟩ := exists_ofPaths_iff.mpr named
  exact ⟨listing, filed, (files_ofPaths filed).resolves⟩

/-- Paths of which one is listed twice, two make a package, and two are a module by an ending. -/
def samplePaths : List Text :=
  ["x/a/b.py".toList, "./a//b.ts".toList, "a/b/__init__.py".toList, "a/b.ts".toList,
    "a/b.ts".toList, "y/__init__/__init__.py".toList]

theorem exists_ofPaths_resolves_repeated :
    (∀ path ∈ samplePaths, (Path.ofText path).name ≠ []) ∧
      ∃ listing, ofPaths samplePaths = .ok listing ∧ listing.Resolves samplePaths ∧
        listing.dotted "a.b..c".toList =
          ["./a//b.ts".toList, "a/b/__init__.py".toList, "a/b.ts".toList, "a/b.ts".toList] := by
  have named : ∀ path ∈ samplePaths, (Path.ofText path).name ≠ [] := by decide
  obtain ⟨listing, made, resolves⟩ := exists_ofPaths_resolves named
  have answer : (ofPaths samplePaths).toOption.map (·.dotted "a.b..c".toList) =
      some ["./a//b.ts".toList, "a/b/__init__.py".toList, "a/b.ts".toList, "a/b.ts".toList] := by
    decide
  rw [made] at answer
  exact ⟨named, listing, made, resolves, Option.some.inj answer⟩

end Listing

end Marginalia
