import Mathlib.Tactic.Common
import Marginalia.Proofs.Context.ImportLine
import Marginalia.Proofs.Context.TopDirectory

/-!
# Relative imports

A name that is imported from a module with leading dots stands for a file: one dot is the directory
of the importing file, every further one the directory above, and the parts of the module lead down
again.  However deep the file lies and however far the dots climb, the file of that name is found.
-/

namespace Marginalia

open Text

/-- An import of a name from a module that is given relative to the importing file. -/
structure RelativeImport where
  /-- The directories in which the importing file lies, from the top. -/
  directories : List Text
  /-- The name of the importing file. -/
  file : Text
  /-- The number of dots. -/
  dots : Nat
  /-- The parts of the module behind the dots. -/
  modules : List Text
  /-- The imported name. -/
  name : Text
  /-- Directories and file have names. -/
  components : ∀ part ∈ directories ++ [file], Path.IsComponent part
  /-- The import is made of words. -/
  words : ∀ part ∈ modules ++ [name], IsWord part
  /-- There is a dot. -/
  positive : 0 < dots

namespace RelativeImport

variable (statement : RelativeImport)

/-- The path of the importing file. -/
def source : Text :=
  glue ['/'] (statement.directories ++ [statement.file])

/-- The module as it is written. -/
def module : Text :=
  List.replicate statement.dots '.' ++ glue ['.'] statement.modules

/-- The line that imports the name. -/
def line : Text :=
  Import.fromLine statement.module statement.name

/-- The parts of the path of the module: the first dot climbs nowhere, and dots that would climb
above the top stay there. -/
def base : List Text :=
  statement.directories.take (statement.directories.length + 1 - statement.dots) ++
    statement.modules

/-- The path of the imported file. -/
def target : Text :=
  glue ['/'] (statement.base ++ [statement.name ++ ".py".toList])

theorem isWord_name : IsWord statement.name :=
  statement.words _ (List.mem_append_right _ (List.mem_singleton_self _))

theorem isWord_of_mem_modules {part : Text} (isIn : part ∈ statement.modules) : IsWord part :=
  statement.words part (List.mem_append_left _ isIn)

theorem notMem_of_mem_modules {mark : Char} (noWordChar : isWordChar mark = false) :
    ∀ part ∈ statement.modules, mark ∉ part :=
  fun _ isIn => (statement.isWord_of_mem_modules isIn).notMem noWordChar

theorem isComponent_of_mem_base : ∀ part ∈ statement.base, Path.IsComponent part := by
  intro part isIn
  rcases List.mem_append.mp isIn with isIn | isIn
  · exact statement.components part (List.mem_append_left _ (List.mem_of_mem_take isIn))
  · exact Path.isComponent_of_isWord (statement.isWord_of_mem_modules isIn)

theorem ofText_source :
    Path.ofText statement.source = { parts := statement.directories ++ [statement.file] } :=
  Path.ofText_glue (by simp) fun part isIn => (statement.components part isIn).isWhole

/-! ## Climbing and descending -/

/-- Climbing drops parts at the end. -/
theorem above_eq (steps : Nat) (parts : List Text) :
    Reference.above steps { parts } = { parts := parts.take (parts.length - steps) } := by
  induction steps generalizing parts with
  | zero => simp [Reference.above]
  | succ steps induct =>
      rw [Reference.above, Path.parent, induct, List.dropLast_eq_take, List.take_take,
        List.length_take]
      congr 2
      dsimp only
      omega

/-- The dots of the module end where its parts begin. -/
theorem takeWhile_module :
    statement.module.takeWhile (· = '.') = List.replicate statement.dots '.' := by
  have stops : (glue ['.'] statement.modules).takeWhile (· = '.') = [] := by
    cases parts : statement.modules with
    | nil => rfl
    | cons part others =>
        have isWord : IsWord part := statement.isWord_of_mem_modules (by simp [parts])
        obtain ⟨first, rest, split⟩ := List.exists_cons_of_ne_nil isWord.1
        have noDot : first ≠ '.' := by
          rintro rfl
          exact isWord.notMem (by decide) (split ▸ List.mem_cons_self)
        have begins : (glue ['.'] (part :: others)).head? = some first := by
          rw [head?_glue isWord.1, split, List.head?_cons]
        obtain ⟨behind, whole⟩ := List.head?_eq_some_iff.mp begins
        rw [whole, List.takeWhile_cons_of_neg (by simpa using noDot)]
  rw [module, List.takeWhile_append_of_pos (by simp), stops, List.append_nil]

/-- Dots climb from the directory of the file, and the parts of the module lead down again. -/
theorem relativeModule_eq :
    Reference.relativeModule statement.source statement.module =
      (Path.mk 0 statement.base).text := by
  have climbed : statement.directories.length - (statement.dots - 1) =
      statement.directories.length + 1 - statement.dots := by
    have := statement.positive
    omega
  have top : Reference.above (statement.dots - 1) (Path.ofText statement.source).parent =
      { parts := statement.directories.take
          (statement.directories.length + 1 - statement.dots) } := by
    rw [ofText_source, Path.parent, List.dropLast_concat, above_eq, climbed]
  have rest : (statement.module.drop statement.dots).map
      (fun char => if char = '.' then '/' else char) = glue ['/'] statement.modules := by
    rw [module, List.drop_left' List.length_replicate,
      map_glue '.' '/' _ (statement.notMem_of_mem_modules (by decide))]
  simp only [Reference.relativeModule, takeWhile_module, List.length_replicate, top, rest]
  by_cases none : statement.modules = []
  · simp [base, none, glue]
  · have wholes : ∀ part ∈ statement.modules, Path.IsWhole part := fun part isIn =>
      (Path.isComponent_of_isWord (statement.isWord_of_mem_modules isIn)).isWhole
    rw [if_neg (by simpa using Path.glue_ne_nil none wholes)]
    exact Path.normalize_join statement.isComponent_of_mem_base (Path.ofText_glue none wholes)
      (Path.head?_glue_of_isWhole wholes)

/-- The imported file is the module of the imported name. -/
theorem isModule_target :
    IsModule (Path.mk 0 (statement.base ++ [statement.name])).text statement.target := by
  have whole : ∀ part ∈ statement.base ++ [statement.name ++ '.' :: ['p', 'y']],
      Path.IsWhole part := by
    intro part isIn
    rcases List.mem_append.mp isIn with isIn | isIn
    · exact (statement.isComponent_of_mem_base part isIn).isWhole
    · rw [List.mem_singleton.mp isIn]
      exact (Path.isComponent_append statement.isWord_name (by decide)).isWhole
  exact .inl (moduleKey_glue whole statement.isWord_name.1 (by decide) (by decide))

/-! ## What the line imports -/

theorem ofLine_line :
    Import.ofLine statement.line = .fromModule statement.module [statement.name] := by
  have isWord := statement.isWord_name
  obtain ⟨first, rest, split⟩ := List.exists_cons_of_ne_nil isWord.1
  have visible : ∃ char ∈ statement.name.head?, isBlankChar char = false :=
    ⟨first, by rw [split]; rfl, isBlankChar_of_isWordChar (isWord.2 first (by simp [split]))⟩
  have areNames : ∀ char ∈ statement.name, Import.isNamesChar char = true := fun char isIn => by
    simp [Import.isNamesChar, isWord.2 char isIn]
  have isModule : ∀ char ∈ statement.module, Import.isModuleChar char = true := by
    intro char isIn
    rw [module, List.mem_append] at isIn
    rcases isIn with isDot | isIn
    · rw [List.eq_of_mem_replicate isDot]
      rfl
    · rcases eq_or_exists_of_mem_glue isIn with rfl | ⟨part, isPart, isIn⟩
      · rfl
      · simp [Import.isModuleChar, (statement.isWord_of_mem_modules isPart).2 char isIn]
  have nonempty : statement.module ≠ [] := by
    simp [module, Nat.ne_of_gt statement.positive]
  have isRead := Import.fromModule?_fromLine nonempty isModule areNames visible
  rw [Import.splitNames_of_isWord isWord] at isRead
  rw [Import.ofLine, line, isRead]

theorem not_quotesStray_line (paths : List Text) (source : Text) :
    ¬Reference.QuotesStray paths source statement.line :=
  Reference.not_quotesStray_of_fromModule statement.ofLine_line paths source

/-- The file that is named is among those that the line imports. -/
theorem exists_ofLine_eq {listing : Listing} {paths : List Text} (files : listing.Files paths)
    (isListed : statement.target ∈ paths) :
    ∃ imported, Reference.ofLine listing statement.source statement.line = .ok imported ∧
      statement.target ∈ imported := by
  have isWord := statement.isWord_name
  have named : [statement.name].filter (· ≠ ['*']) = [statement.name] := by
    refine List.filter_eq_self.mpr fun name isIn => decide_eq_true ?_
    rintro rfl
    exact isWord.notMem (by decide) (List.mem_singleton.mp isIn ▸ List.mem_singleton_self '*')
  have relative : statement.module.head? = some '.' := by
    simp [module, List.head?_append, List.head?_replicate, Nat.ne_of_gt statement.positive]
  have component := Path.isComponent_of_isWord isWord
  have isRead : Path.ofText statement.name = { parts := [statement.name] } :=
    Path.ofText_glue (by simp) (List.forall_mem_singleton.mpr component.isWhole)
  have noSlash : statement.name.head? ≠ some '/' := fun isFirst =>
    component.noSlash (List.mem_of_head? isFirst)
  have joined := Path.normalize_join
    (List.forall_mem_append.mpr
      ⟨statement.isComponent_of_mem_base, List.forall_mem_singleton.mpr component⟩)
    isRead noSlash
  have isFound : statement.target ∈
      listing.exactly (Path.mk 0 (statement.base ++ [statement.name])).text :=
    files.mem_exactly_iff.mpr ⟨isListed, statement.isModule_target⟩
  refine ⟨_, by rw [Reference.ofLine, ofLine_line], ?_⟩
  simp only [Reference.ofNames, named, relative, if_true, relativeModule_eq, List.flatMap_singleton,
    joined, Reference.orElse]
  rwa [if_neg (by simpa using List.ne_nil_of_mem isFound)]

end RelativeImport

namespace Diff

open Reference

/-- A relative import finds the file it names: whenever references are listed, that file is among
them, and only another new line of the diff can keep them from being listed. -/
theorem relative_import_finds (statement : RelativeImport) {paths : List Text}
    (listed : ∀ path ∈ paths, isBlank path = false ∧ (Path.ofText path).name ≠ [])
    (isListed : statement.target ∈ paths) (elsewhere : statement.target ≠ statement.source)
    {diff : Diff} {file : FileChange} {hunk : Hunk} (isFile : file ∈ diff.files)
    (isPath : file.effectivePath = some statement.source) (isHunk : hunk ∈ file.hunks)
    (isAdded : ⟨.added, statement.line⟩ ∈ hunk.lines) :
    (∀ found : List (Match Float), diff.references paths = .ok found →
      ∃ candidate ∈ found,
        candidate.path = statement.target ∧ candidate.reason = .directImport) ∧
    ((∃ found : List (Match Float), diff.references paths = .ok found) ↔
      ∀ news ∈ diff.news, news.2 ≠ statement.line → ¬QuotesStray paths news.1 news.2) := by
  have isNews : (statement.source, statement.line) ∈ diff.news := by
    refine List.mem_flatMap.mpr ⟨file, isFile, FileChange.mem_news_iff.mpr ⟨isPath, ?_, ?_, rfl⟩⟩
    · exact Path.glue_ne_nil (by simp) fun part isIn => (statement.components part isIn).isWhole
    · exact List.mem_map.mpr ⟨⟨.added, statement.line⟩,
        List.mem_filter.mpr ⟨List.mem_flatMap.mpr ⟨hunk, isHunk, isAdded⟩, rfl⟩, rfl⟩
  obtain ⟨listing, isFiled⟩ := Listing.exists_ofPaths_iff.mpr fun path isIn => (listed path isIn).2
  constructor
  · intro found isFound
    obtain ⟨imported, isImport, isIn⟩ :=
      statement.exists_ofLine_eq (Listing.files_ofPaths isFiled) isListed
    obtain ⟨candidate, isMatch, path, reason, -⟩ :=
      exists_match_of_import isFound isFiled isNews isImport isIn elsewhere
    exact ⟨candidate, isMatch, path, reason⟩
  · rw [exists_references_iff isFiled fun path isIn => (listed path isIn).1]
    refine forall₂_congr fun news _ => ⟨fun noStray _ => noStray, fun noStray => ?_⟩
    by_cases same : news.2 = statement.line
    · rw [same]
      exact statement.not_quotesStray_line paths news.1
    · exact noStray same

/-- A file two directories deep imports from a module beside its own directory. -/
def climbing : RelativeImport where
  directories := [['a'], ['b']]
  file := "m.py".toList
  dots := 2
  modules := [['x']]
  name := ['y']
  components := by decide
  words := by decide
  positive := by decide

/-- The import stands behind another one that finds nothing. -/
def climbs : Diff where
  files :=
    [{ oldPath := some "a/b/m.py".toList, newPath := some "a/b/m.py".toList
       hunks :=
        [{ oldStart := 1, oldCount := 1, newStart := 1, newCount := 2
           lines := [⟨.removed, "import os".toList⟩, ⟨.added, "import '../z'".toList⟩,
             ⟨.added, "from ..x import y".toList⟩] }] }]

theorem relative_import_finds_climbing :
    let paths := ["a/b/m.py".toList, "a/x/y.py".toList]
    climbing.target = "a/x/y.py".toList ∧ climbing.line = "from ..x import y".toList ∧
      ∃ found : List (Match Float), climbs.references paths = .ok found ∧
        ∃ candidate ∈ found,
          candidate.path = "a/x/y.py".toList ∧ candidate.reason = .directImport := by
  intro paths
  have target : climbing.target = "a/x/y.py".toList := by decide
  have news : climbs.news = [("a/b/m.py".toList, "import '../z'".toList),
      ("a/b/m.py".toList, climbing.line)] := by decide +kernel
  have quoted : Import.ofLine "import '../z'".toList = .quoted ["../z".toList] := by decide +kernel
  obtain ⟨finds, isListedIff⟩ := @relative_import_finds climbing paths (by decide) (by decide)
    (by decide) climbs _ _ (List.mem_singleton_self _) (by decide) (List.mem_singleton_self _)
    (by decide)
  have listable : ∃ found : List (Match Float), climbs.references paths = .ok found := by
    refine isListedIff.mpr ?_
    rw [news]
    intro entry isEntry other
    rcases List.mem_pair.mp isEntry with rfl | rfl
    · rintro ⟨sources, isLine, spec, isSource, -, isTop, -⟩
      obtain rfl := Import.quoted.inj (quoted.symm.trans isLine)
      obtain rfl := List.mem_singleton.mp isSource
      revert isTop
      decide +kernel
    · exact absurd rfl other
  obtain ⟨found, isFound⟩ := listable
  exact ⟨target, by decide, found, isFound, target ▸ finds found isFound⟩

end Diff

end Marginalia
