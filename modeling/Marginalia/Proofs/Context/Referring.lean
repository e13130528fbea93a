import Mathlib.Tactic.Common
import Marginalia.Context.Reference
import Marginalia.Proofs.Context.Filing

/-!
# What refers to files

References come from the new lines of a diff, one line after the other, and nothing else of the diff
matters but the paths of its files.  What a line refers to is listed, and it is not the file that
the line stands in; a type is not named after any changed file.
-/

namespace Marginalia

/-! ## New lines -/

namespace FileChange

/-- The contents of the added lines of a file, in order. -/
def addedContents (file : FileChange) : List Text :=
  ((file.hunks.flatMap (·.lines)).filter (·.kind = .added)).map (·.content)

/-- The new lines of a file that say something, each with the path of the file. -/
def news (file : FileChange) : List (Text × Text) :=
  (file.effectivePath.toList.filter (!·.isEmpty)).flatMap fun source =>
    (file.addedContents.filter (!Text.isBlank ·)).map fun line => (source, line)

/-- Two files of one path that get the same new lines in the same order. -/
structure AddsAlike (file other : FileChange) : Prop where
  /-- The files have the same path. -/
  effectivePath : file.effectivePath = other.effectivePath
  /-- They get the same new lines. -/
  addedContents : file.addedContents = other.addedContents

theorem newLines_eq (file : FileChange) :
    Reference.newLines file = file.addedContents.filter (!Text.isBlank ·) := by
  rw [Reference.newLines, addedContents, List.filter_map, List.filter_filter]
  simp only [Function.comp_def, Bool.and_comm]

theorem mem_news_iff {file : FileChange} {source line : Text} :
    (source, line) ∈ file.news ↔
      file.effectivePath = some source ∧ source ≠ [] ∧ line ∈ file.addedContents ∧
        Text.isBlank line = false := by
  simp only [news, List.mem_flatMap, List.mem_filter, List.mem_map, Option.mem_toList]
  constructor
  · rintro ⟨_, ⟨isPath, nonempty⟩, _, ⟨isLine, visible⟩, same⟩
    obtain ⟨rfl, rfl⟩ := Prod.mk.inj same
    exact ⟨isPath, by simpa using nonempty, isLine, by simpa using visible⟩
  · rintro ⟨isPath, nonempty, isLine, visible⟩
    exact ⟨source, ⟨isPath, by simpa using nonempty⟩, line, ⟨isLine, by simpa using visible⟩, rfl⟩

end FileChange

namespace Diff

/-- The new lines of a diff that say something, each with the path of its file. -/
def news (diff : Diff) : List (Text × Text) :=
  diff.files.flatMap FileChange.news

/-- A new line that says something is one of the new lines of its diff. -/
theorem mem_news_of_added {diff : Diff} {file : FileChange} {hunk : Hunk} {source line : Text}
    (isFile : file ∈ diff.files) (isPath : file.effectivePath = some source)
    (nonempty : source ≠ []) (isHunk : hunk ∈ file.hunks) (isAdded : ⟨.added, line⟩ ∈ hunk.lines)
    (visible : Text.isBlank line = false) : (source, line) ∈ diff.news := by
  have isContent : line ∈ file.addedContents :=
    List.mem_map.mpr ⟨⟨.added, line⟩,
      List.mem_filter.mpr ⟨List.mem_flatMap.mpr ⟨hunk, isHunk, isAdded⟩, rfl⟩, rfl⟩
  exact List.mem_flatMap.mpr
    ⟨file, isFile, FileChange.mem_news_iff.mpr ⟨isPath, nonempty, isContent, visible⟩⟩

theorem news_congr {diff other : Diff}
    (alike : List.Forall₂ FileChange.AddsAlike diff.files other.files) :
    diff.news = other.news ∧
      diff.files.map (·.effectivePath) = other.files.map (·.effectivePath) := by
  obtain ⟨files⟩ := diff
  obtain ⟨others⟩ := other
  dsimp only [news] at alike ⊢
  induction alike with
  | nil => exact ⟨rfl, rfl⟩
  | cons first _ induct =>
      rw [List.flatMap_cons, List.flatMap_cons, List.map_cons, List.map_cons, induct.1, induct.2,
        FileChange.news, FileChange.news, first.effectivePath, first.addedContents]
      exact ⟨rfl, rfl⟩

end Diff

variable {Amount : Type} [Scale Amount] {paths : List Text} {listing : Listing}
  {changed : List (Option Text)} {source line path : Text} {part : List (Match Amount)}
  {candidate : Match Amount}

theorem Match.eq_of_ofReason {reason : Reason} {evidence : Text}
    (made : ofReason path reason evidence = .ok candidate) :
    candidate = { path, reason, confidence := reason.baseConfidence, evidence } := by
  rw [ofReason, make] at made
  split at made
  · contradiction
  · split at made
    · exact (Except.ok.inj made).symm
    · contradiction

namespace Reference

/-- What refers to a file: the file is listed and not the one that the line stands in, and nothing
is said to be a type that is named after a changed file. -/
structure IsSound (paths : List Text) (changed : List (Option Text)) (source : Text)
    (candidate : Match Amount) : Prop where
  /-- The file is listed. -/
  listed : candidate.path ∈ paths
  /-- It is another file. -/
  elsewhere : candidate.path ≠ source
  /-- A type is not named after a changed file. -/
  unchanged : candidate.reason = .typeReference → some candidate.path ∉ changed

/-! ## The matches of a line -/

/-- The matches of imported files. -/
theorem mem_importMatches_iff (imported : importMatches listing source line = .ok part) :
    candidate ∈ part ↔ ∃ found, ofLine listing source line = .ok found ∧
      ∃ path ∈ found, path ≠ source ∧
        Match.ofReason path .directImport (Text.trim line) = .ok candidate := by
  obtain ⟨found, isFound, made⟩ := bind_eq_ok_iff.mp imported
  rw [mapError_eq_ok_iff] at isFound
  rw [mem_iff_of_mapM_eq_ok made]
  simp only [isFound, Except.ok.injEq, exists_eq_left', List.mem_filter, decide_eq_true_eq,
    mapError_eq_ok_iff, and_assoc]

/-- Every match of a type is that of a file that is named like it. -/
theorem exists_of_mem_typeMatches (typed : typeMatches listing changed source line = .ok part)
    (isIn : candidate ∈ part) :
    ∃ name ∈ typeNames line, ∃ path ∈ listing.named (Text.lowercase name),
      path ≠ source ∧ some path ∉ changed ∧
        Match.ofReason path .typeReference ("references ".toList ++ name) = .ok candidate := by
  obtain ⟨groups, areMade, rest⟩ := bind_eq_ok_iff.mp typed
  obtain rfl := Except.ok.inj rest
  obtain ⟨group, isGroup, isIn⟩ := List.mem_flatten.mp isIn
  obtain ⟨name, isName, grouped⟩ := (mem_iff_of_mapM_eq_ok areMade group).mp isGroup
  obtain ⟨path, isPath, isMade⟩ := (mem_iff_of_mapM_eq_ok grouped candidate).mp isIn
  simp only [List.mem_filter, Bool.and_eq_true, decide_eq_true_eq, Bool.not_eq_true',
    List.contains_eq_mem, decide_eq_false_iff_not] at isPath
  exact ⟨name, isName, path, isPath.1, isPath.2.1, isPath.2.2, mapError_eq_ok_iff.mp isMade⟩

/-- The matches of a line are those of the files that it imports, and then those of the files that
are named like a type in it. -/
theorem lineMatches_eq_ok_iff :
    lineMatches listing changed source line = .ok part ↔ ∃ imported typed,
      importMatches listing source line = .ok imported ∧
        typeMatches listing changed source line = .ok typed ∧ imported ++ typed = part := by
  rw [lineMatches]
  simp only [bind_eq_ok_iff, pure, Except.pure, Except.ok.injEq]
  constructor
  · rintro ⟨imported, isImported, typed, isTyped, rfl⟩
    exact ⟨imported, typed, isImported, isTyped, rfl⟩
  · rintro ⟨imported, typed, isImported, isTyped, rfl⟩
    exact ⟨imported, isImported, typed, isTyped, rfl⟩

/-! ## What is found is listed -/

theorem orElse_subset {first second : List Text} (isFirst : first ⊆ paths)
    (isSecond : second ⊆ paths) : orElse first second ⊆ paths := by
  rw [orElse]
  split
  · exact isSecond
  · exact isFirst

section

variable (files : listing.Files paths)

include files

theorem ofNames_subset (module : Text) (names : List Text) :
    ofNames listing source module names ⊆ paths := by
  have each (found : Text → List Text) (areListed : ∀ name, found name ⊆ paths)
      (names : List Text) : names.flatMap found ⊆ paths := by
    intro path isIn
    obtain ⟨name, -, isFound⟩ := List.mem_flatMap.mp isIn
    exact areListed name isFound
  rw [ofNames]
  dsimp only
  split
  · exact orElse_subset (each _ (fun _ => files.exactly_subset) _) files.exactly_subset
  · exact orElse_subset (each _ (fun _ => files.dotted_subset) _) files.dotted_subset

theorem ofSource_subset {spec : Text} {found : List Text}
    (isFound : ofSource listing source spec = .ok found) : found ⊆ paths := by
  rw [ofSource] at isFound
  split at isFound
  · rw [ofRelative] at isFound
    split at isFound
    · obtain rfl := Except.ok.inj isFound
      exact files.exactly_subset
    · obtain ⟨module, -, rfl⟩ := map_eq_ok_iff.mp isFound
      exact orElse_subset files.exactly_subset files.exactly_subset
  · obtain rfl := Except.ok.inj isFound
    exact files.endingIn_subset

theorem ofLine_subset {found : List Text} (isFound : ofLine listing source line = .ok found) :
    found ⊆ paths := by
  rw [ofLine] at isFound
  split at isFound
  · obtain rfl := Except.ok.inj isFound
    exact ofNames_subset files _ _
  · obtain rfl := Except.ok.inj isFound
    exact files.dotted_subset
  · obtain ⟨groups, areFound, rfl⟩ := map_eq_ok_iff.mp isFound
    intro path isIn
    obtain ⟨group, isGroup, isIn⟩ := List.mem_flatten.mp isIn
    obtain ⟨spec, -, grouped⟩ := (mem_iff_of_mapM_eq_ok areFound group).mp isGroup
    exact ofSource_subset files grouped isIn

/-- What a line refers to is sound. -/
theorem isSound_of_mem_lineMatches (given : lineMatches listing changed source line = .ok part)
    (isIn : candidate ∈ part) : IsSound paths changed source candidate := by
  obtain ⟨imported, typed, isImported, isTyped, rfl⟩ := lineMatches_eq_ok_iff.mp given
  rcases List.mem_append.mp isIn with isIn | isIn
  · obtain ⟨found, isFound, path, isPath, elsewhere, made⟩ :=
      (mem_importMatches_iff isImported).mp isIn
    obtain rfl := Match.eq_of_ofReason made
    exact ⟨ofLine_subset files isFound isPath, elsewhere, nofun⟩
  · obtain ⟨name, -, path, isPath, elsewhere, unchanged, made⟩ :=
      exists_of_mem_typeMatches isTyped isIn
    obtain rfl := Match.eq_of_ofReason made
    exact ⟨files.named_subset isPath, elsewhere, fun _ => unchanged⟩

end

/-- The matches of a file are those of its new lines. -/
theorem fileMatches_eq (listing : Listing) (changed : List (Option Text))
    (file : FileChange) :
    (fileMatches listing changed file : Except (Fault Amount) (List (Match Amount))) =
      (file.news.mapM fun news => lineMatches listing changed news.1 news.2).map List.flatten := by
  rw [fileMatches, FileChange.news]
  cases file.effectivePath with
  | none => rfl
  | some source =>
      by_cases empty : source.isEmpty = true
      · simp [empty, pure, Except.pure, Except.map]
      · have kept : (some source).toList.filter (!·.isEmpty) = [source] := by simp [empty]
        rw [kept, List.flatMap_singleton, List.mapM_map, FileChange.newLines_eq]
        exact if_neg empty

end Reference

/-! ## The matches of a diff -/

/-- The references of a diff are those of its new lines, line after line. -/
theorem Diff.references_eq (diff : Diff) (paths : List Text) :
    (diff.references paths : Except (Reference.Fault Amount) (List (Match Amount))) =
      (Listing.ofPaths paths).mapError .nameless >>= fun listing =>
        (diff.news.mapM fun news =>
          Reference.lineMatches listing (diff.files.map (·.effectivePath)) news.1 news.2).map
            List.flatten := by
  rw [references]
  refine congrArg _ (funext fun listing => ?_)
  have perFile := funext (@Reference.fileMatches_eq Amount _ listing
    (diff.files.map (·.effectivePath)))
  rw [news, ← flatten_mapM_flatMap, ← perFile]
  exact bind_pure_comp _ _

/-- Every other file that a new line imports has a match, once references are listed. -/
theorem Diff.exists_match_of_import {diff : Diff} {found : List (Match Amount)}
    (isFound : diff.references paths = .ok found) (isFiled : Listing.ofPaths paths = .ok listing)
    (isNews : (source, line) ∈ diff.news) {imported : List Text}
    (isImport : Reference.ofLine listing source line = .ok imported) (isIn : path ∈ imported)
    (elsewhere : path ≠ source) :
    ∃ candidate ∈ found, candidate.path = path ∧ candidate.reason = .directImport ∧
      candidate.evidence = Text.trim line := by
  rw [references_eq, isFiled] at isFound
  obtain ⟨parts, given, rfl⟩ := map_eq_ok_iff.mp isFound
  obtain ⟨part, isPart⟩ := exists_mapM_eq_ok_iff.mp ⟨parts, given⟩ _ isNews
  obtain ⟨imports, typed, areImports, -, rfl⟩ := Reference.lineMatches_eq_ok_iff.mp isPart
  obtain ⟨others, areOthers, made⟩ := bind_eq_ok_iff.mp areImports
  obtain rfl := Except.ok.inj ((mapError_eq_ok_iff.mp areOthers).symm.trans isImport)
  obtain ⟨candidate, isMade⟩ := exists_mapM_eq_ok_iff.mp ⟨imports, made⟩ path
    (List.mem_filter.mpr ⟨isIn, decide_eq_true elsewhere⟩)
  have isMatch : candidate ∈ imports :=
    (mem_iff_of_mapM_eq_ok made candidate).mpr
      ⟨path, List.mem_filter.mpr ⟨isIn, decide_eq_true elsewhere⟩, isMade⟩
  obtain rfl := Match.eq_of_ofReason (mapError_eq_ok_iff.mp isMade)
  refine ⟨_, List.mem_flatten.mpr ⟨_, ?_, List.mem_append_left typed isMatch⟩, rfl, rfl, rfl⟩
  exact (mem_iff_of_mapM_eq_ok given _).mpr ⟨(source, line), isNews, isPart⟩

/-- Every reference comes from one of the new lines of a diff and is sound for it, and diffs whose
files have the same paths and get the same new lines have the same references. -/
theorem Diff.references_of_new_lines (paths : List Text) :
    (∀ (diff : Diff) (found : List (Match Amount)), diff.references paths = .ok found →
      ∃ (listing : Listing) (parts : List (List (Match Amount))),
        Listing.ofPaths paths = .ok listing ∧ parts.flatten = found ∧
        List.Forall₂ (fun news part =>
          Reference.lineMatches listing (diff.files.map (·.effectivePath)) news.1 news.2 =
              .ok part ∧
            ∀ candidate ∈ part,
              Reference.IsSound paths (diff.files.map (·.effectivePath)) news.1 candidate)
          diff.news parts) ∧
    ∀ diff other : Diff, List.Forall₂ FileChange.AddsAlike diff.files other.files →
      (diff.references paths : Except (Reference.Fault Amount) (List (Match Amount))) =
        other.references paths := by
  constructor
  · intro diff found isFound
    rw [references_eq] at isFound
    obtain ⟨listing, isFiled, rest⟩ := bind_eq_ok_iff.mp isFound
    obtain ⟨parts, given, rfl⟩ := map_eq_ok_iff.mp rest
    rw [mapError_eq_ok_iff] at isFiled
    refine ⟨listing, parts, isFiled, rfl, ?_⟩
    refine (mapM_eq_ok_iff_forall₂.mp given).imp fun news part given => ⟨given, ?_⟩
    exact fun _ => Reference.isSound_of_mem_lineMatches (Listing.files_ofPaths isFiled) given
  · intro diff other alike
    obtain ⟨sameNews, samePaths⟩ := news_congr alike
    rw [references_eq, references_eq, sameNews, samePaths]

/-- A file that gets an import and the name of a type, among other lines, and the file of that name,
which is changed as well. -/
def scattered : Diff where
  files :=
    [{ oldPath := some "a.py".toList, newPath := some "a.py".toList
       hunks :=
        [{ oldStart := 1, oldCount := 2, newStart := 1, newCount := 2
           lines := [⟨.context, "import c".toList⟩, ⟨.removed, "import d".toList⟩,
             ⟨.added, "from . import b".toList⟩] },
          { oldStart := 9, oldCount := 0, newStart := 9, newCount := 1
            lines := [⟨.added, "UserService ThingList".toList⟩] }] },
      { oldPath := some "thing_list.py".toList, newPath := none, hunks := [] }]

/-- The same new lines, all in one place. -/
def gathered : Diff where
  files :=
    [{ oldPath := none, newPath := some "a.py".toList
       hunks :=
        [{ oldStart := 0, oldCount := 0, newStart := 1, newCount := 2
           lines := [⟨.added, "from . import b".toList⟩,
             ⟨.added, "UserService ThingList".toList⟩] }] },
      { oldPath := none, newPath := some "thing_list.py".toList, hunks := [] }]

theorem Diff.references_of_new_lines_scattered :
    let paths := ["b.py".toList, "a.py".toList, "user_service.py".toList, "thing_list.py".toList]
    List.Forall₂ FileChange.AddsAlike scattered.files gathered.files ∧
      ∃ found : List (Match Float), scattered.references paths = .ok found ∧
        gathered.references paths = .ok found ∧
        found.map (fun found => (found.path, found.reason)) =
          [("b.py".toList, .directImport), ("user_service.py".toList, .typeReference)] ∧
        ∀ candidate ∈ found, candidate.path ≠ "a.py".toList := by
  intro paths
  have alike : List.Forall₂ FileChange.AddsAlike scattered.files gathered.files :=
    .cons ⟨rfl, by decide⟩ (.cons ⟨rfl, rfl⟩ .nil)
  have run : (scattered.references paths : Except _ (List (Match Float))).toOption.map
      (·.map fun found => (found.path, found.reason)) =
        some [("b.py".toList, .directImport), ("user_service.py".toList, .typeReference)] := by
    decide +kernel
  have listable : ∃ found : List (Match Float), scattered.references paths = .ok found := by
    decide +kernel
  obtain ⟨found, isFound⟩ := listable
  obtain ⟨sound, sameMatches⟩ := @references_of_new_lines Float _ paths
  obtain ⟨listing, parts, -, rfl, given⟩ := sound scattered found isFound
  have news : scattered.news = [("a.py".toList, "from . import b".toList),
      ("a.py".toList, "UserService ThingList".toList)] := by decide +kernel
  rw [news] at given
  obtain ⟨first, rest, ⟨-, isFirst⟩, others, rfl⟩ := List.forall₂_cons_left_iff.mp given
  obtain ⟨second, rest, ⟨-, isSecond⟩, none, rfl⟩ := List.forall₂_cons_left_iff.mp others
  obtain rfl := List.forall₂_nil_left_iff.mp none
  rw [isFound] at run
  have isGathered := (sameMatches scattered gathered alike).symm.trans isFound
  refine ⟨alike, _, isFound, isGathered, Option.some.inj run, ?_⟩
  intro candidate isIn
  rcases List.mem_append.mp isIn with isIn | isIn
  · exact (isFirst candidate isIn).elsewhere
  · exact (isSecond candidate (by simpa using isIn)).elsewhere

end Marginalia
