import Mathlib.Tactic.Common
import Marginalia.Proofs.Context.SourceLine
import Marginalia.Proofs.Context.TopDirectory

/-!
# Relative sources

A quoted source that begins with dots stands for a file: a single dot is the directory of the file
that quotes it, every pair of dots the directory above, and the parts behind them lead down again.
The last part may lack the ending of the file's name, whatever dots it holds itself, and if nothing
is found in this way, it may be a directory with an index.
-/

namespace Marginalia

open Text

/-- A quoted source that is given relative to the file that quotes it. -/
structure RelativeSource where
  /-- The directories in which the quoting file lies, from the top. -/
  directories : List Text
  /-- The name of the quoting file. -/
  file : Text
  /-- The number of steps to the directory above; none is written as a single dot. -/
  steps : Nat
  /-- The directories that the source leads down. -/
  folders : List Text
  /-- The last part of the source. -/
  name : Text
  /-- Directories and file have names. -/
  components : ∀ part ∈ directories ++ [file], Path.IsComponent part
  /-- So do the parts of the source. -/
  parts : ∀ part ∈ folders ++ [name], Path.IsComponent part
  /-- They can stand between quotes. -/
  plain : ∀ part ∈ folders ++ [name], Import.IsPlain part
  /-- The steps do not lead above the top. -/
  within : steps ≤ directories.length

/-- An ending of a file's name. -/
structure IsEnding (ending : Text) : Prop where
  /-- It is not empty. -/
  nonempty : ending ≠ []
  /-- It is the last one. -/
  noDot : '.' ∉ ending
  /-- It belongs to the name. -/
  noSlash : '/' ∉ ending

instance decidableIsEnding (ending : Text) : Decidable (IsEnding ending) :=
  decidable_of_iff (ending ≠ [] ∧ '.' ∉ ending ∧ '/' ∉ ending)
    ⟨fun ⟨nonempty, noDot, noSlash⟩ => ⟨nonempty, noDot, noSlash⟩,
      fun isEnding => ⟨isEnding.nonempty, isEnding.noDot, isEnding.noSlash⟩⟩

namespace RelativeSource

variable (statement : RelativeSource)

/-- The path of the quoting file. -/
def source : Text :=
  glue ['/'] (statement.directories ++ [statement.file])

/-- The dots with which the source begins. -/
def dots : List Text :=
  if statement.steps = 0 then [['.']] else List.replicate statement.steps ['.', '.']

/-- The source as it is written. -/
def written : Text :=
  glue ['/'] (statement.dots ++ (statement.folders ++ [statement.name]))

/-- The parts of the directory to which the source leads. -/
def base : List Text :=
  statement.directories.take (statement.directories.length - statement.steps) ++ statement.folders

/-- The place that the source says. -/
def place : Text :=
  glue ['/'] (statement.base ++ [statement.name])

/-- The file at that place whose name has an ending. -/
def target (ending : Text) : Text :=
  glue ['/'] (statement.base ++ [statement.name ++ '.' :: ending])

/-- The index of the directory at that place. -/
def index (ending : Text) : Text :=
  glue ['/'] (statement.base ++ [statement.name] ++ ["index".toList ++ '.' :: ending])

/-- What the source stands for: the file of its name, or, where neither its place nor the place
without a suffix is a module, the index of the directory. -/
def StandsFor (listing : Listing) (path : Text) : Prop :=
  ∃ ending, IsEnding ending ∧
    (path = statement.target ending ∨
      listing.exactly statement.place = [] ∧
        (∀ module, moduleKey statement.place = .ok module → listing.exactly module = []) ∧
        path = statement.index ending)

theorem isComponent_name : Path.IsComponent statement.name :=
  statement.parts _ (List.mem_append_right _ (List.mem_singleton_self _))

theorem isComponent_of_mem_base : ∀ part ∈ statement.base ++ [statement.name],
    Path.IsComponent part := by
  intro part isIn
  rw [base, List.append_assoc] at isIn
  rcases List.mem_append.mp isIn with isIn | isIn
  · exact statement.components part (List.mem_append_left _ (List.mem_of_mem_take isIn))
  · exact statement.parts part isIn

theorem isWhole_of_mem_base : ∀ part ∈ statement.base ++ [statement.name], Path.IsWhole part :=
  fun part isIn => (statement.isComponent_of_mem_base part isIn).isWhole

theorem ofText_source :
    Path.ofText statement.source = { parts := statement.directories ++ [statement.file] } :=
  Path.ofText_glue (by simp) fun part isIn => (statement.components part isIn).isWhole

/-! ## The writing of the source -/

theorem head?_written : statement.written.head? = some '.' := by
  rw [written, dots]
  split
  · exact head?_glue (List.cons_ne_nil '.' []) _
  · rename_i some
    obtain ⟨steps, isSteps⟩ := Nat.exists_eq_succ_of_ne_zero some
    rw [isSteps, List.replicate_succ, List.cons_append]
    exact head?_glue (List.cons_ne_nil '.' ['.']) _

theorem isDot_of_mem_dots : ∀ part ∈ statement.dots, ∀ char ∈ part, char = '.' := by
  intro part isIn
  rw [dots] at isIn
  split at isIn
  · rw [List.mem_singleton.mp isIn]
    simp
  · rw [List.eq_of_mem_replicate isIn]
    simp

theorem filter_dots :
    statement.dots.filter Path.isPart = List.replicate statement.steps ['.', '.'] := by
  rw [dots]
  split
  · rename_i none
    rw [none]
    rfl
  · exact List.filter_eq_self.mpr fun part isIn => List.eq_of_mem_replicate isIn ▸ rfl

/-- Its parts are the steps up and the way down. -/
theorem ofText_written :
    Path.ofText statement.written =
      { parts := List.replicate statement.steps ['.', '.'] ++
          (statement.folders ++ [statement.name]) } := by
  have noSlash : ∀ part ∈ statement.dots ++ (statement.folders ++ [statement.name]),
      '/' ∉ part := by
    intro part isIn
    rcases List.mem_append.mp isIn with isIn | isIn
    · exact fun isSlash => absurd (statement.isDot_of_mem_dots part isIn '/' isSlash) (by decide)
    · exact (statement.parts part isIn).noSlash
  have relative : statement.written.head? ≠ some '/' := by
    rw [head?_written]
    decide
  have kept : (statement.folders ++ [statement.name]).filter Path.isPart =
      statement.folders ++ [statement.name] :=
    List.filter_eq_self.mpr fun part isIn => (statement.parts part isIn).isWhole.1
  rw [written, Path.ofText_glue_of_noSlash (by simp) noSlash relative, List.filter_append,
    filter_dots, kept]

theorem isPlain_written : Import.IsPlain statement.written := by
  intro char isIn
  rcases eq_or_exists_of_mem_glue isIn with rfl | ⟨part, isPart, isIn⟩
  · rfl
  · rcases List.mem_append.mp isPart with isPart | isPart
    · rw [statement.isDot_of_mem_dots part isPart char isIn]
      rfl
    · exact statement.plain part isPart char isIn

theorem written_ne_nil : statement.written ≠ [] := by
  intro none
  have first := statement.head?_written
  rw [none] at first
  contradiction

/-! ## Where the source leads -/

/-- Joined to a directory, the source puts its parts behind those of the directory. -/
theorem ofText_join_written (directory : Text) :
    Path.ofText (Path.join directory statement.written) =
      { slashes := (Path.ofText directory).slashes
        parts := (Path.ofText directory).parts ++ List.replicate statement.steps ['.', '.'] ++
          (statement.folders ++ [statement.name]) } := by
  have relative : statement.written.head? ≠ some '/' := by
    rw [head?_written]
    decide
  rw [Path.ofText_join directory relative, ofText_written, List.append_assoc]

theorem ofText_directoryOf_source :
    Path.ofText (Reference.directoryOf statement.source) =
      { parts := statement.directories } := by
  rw [Reference.directoryOf, ofText_source, Path.parent, List.dropLast_concat]
  exact Path.ofText_text_of_isComponent fun part isIn =>
    statement.components part (List.mem_append_left _ isIn)

/-- The steps take away the last directories, and the parts behind them are kept. -/
theorem reverse_foldl_resolvePart (isRooted : Bool) :
    ((statement.directories ++ List.replicate statement.steps ['.', '.'] ++
      (statement.folders ++ [statement.name])).foldl (Path.resolvePart isRooted) []).reverse =
        statement.base ++ [statement.name] := by
  have noStep : ∀ part ∈ statement.directories, part ≠ ['.', '.'] := fun part isIn =>
    (statement.components part (List.mem_append_left _ isIn)).noStep
  have climbed := Path.foldl_resolvePart_steps isRooted
    (fun part isIn => noStep part (List.mem_reverse.mp isIn))
    (statement.within.trans_eq List.length_reverse.symm)
  have descended := Path.foldl_resolvePart isRooted
    (statement.directories.reverse.drop statement.steps)
    fun part isIn => (statement.parts part isIn).noStep
  rw [List.append_assoc, List.foldl_append, Path.foldl_resolvePart isRooted [] noStep,
    List.append_nil, List.foldl_append, climbed, descended, List.drop_reverse,
    List.reverse_append, List.reverse_reverse, List.reverse_reverse, base, List.append_assoc]

/-- Steps climb from the directory of the file, and the parts of the source lead down again. -/
theorem target_written :
    Reference.target statement.source statement.written = statement.place := by
  simp only [Reference.target, Path.normalize, ofText_join_written, ofText_directoryOf_source,
    reverse_foldl_resolvePart]
  exact Path.text_eq_glue (by simp) statement.isWhole_of_mem_base

/-- From no file does the source lead to the top directory. -/
theorem not_isStray (paths : List Text) (source : Text) :
    ¬Reference.IsStray paths source statement.written := by
  rintro ⟨-, isTop, -⟩
  have noStep := statement.isComponent_name.noStep
  rw [Reference.target, Path.ofText_normalize, ofText_join_written, ← List.append_assoc,
    List.foldl_append] at isTop
  simp [Path.resolvePart, noStep] at isTop

/-! ## What the source stands for -/

theorem isModule_target {ending : Text} (isEnding : IsEnding ending) :
    IsModule statement.place (statement.target ending) := by
  have name := statement.isComponent_name
  have whole : ∀ part ∈ statement.base ++ [statement.name ++ '.' :: ending],
      Path.IsWhole part := by
    intro part isIn
    rcases List.mem_append.mp isIn with isIn | isIn
    · exact statement.isWhole_of_mem_base part (List.mem_append_left _ isIn)
    · rw [List.mem_singleton.mp isIn]
      refine ⟨Path.isPart_iff.mpr ⟨by simp, fun isDot => ?_⟩, ?_⟩
      · have length := congrArg List.length isDot
        have := List.length_pos_of_ne_nil name.nonempty
        simp only [List.length_append, List.length_cons, List.length_nil] at length
        omega
      · simp [name.noSlash, isEnding.noSlash]
  have filed := moduleKey_glue whole name.nonempty isEnding.nonempty isEnding.noDot
  rw [Path.text_eq_glue (by simp) statement.isWhole_of_mem_base] at filed
  exact .inl filed

theorem isModule_index {ending : Text} (isEnding : IsEnding ending) :
    IsModule (statement.place ++ "/index".toList) (statement.index ending) := by
  have isIndex : Path.IsWhole ("index".toList ++ '.' :: ending) := by
    refine ⟨rfl, ?_⟩
    simp [isEnding.noSlash]
  have whole : ∀ part ∈ statement.base ++ [statement.name] ++ ["index".toList ++ '.' :: ending],
      Path.IsWhole part :=
    List.forall_mem_append.mpr
      ⟨statement.isWhole_of_mem_base, List.forall_mem_singleton.mpr isIndex⟩
  have wholePlace : ∀ part ∈ statement.base ++ [statement.name] ++ ["index".toList],
      Path.IsWhole part :=
    List.forall_mem_append.mpr
      ⟨statement.isWhole_of_mem_base, List.forall_mem_singleton.mpr (by decide)⟩
  have filed := moduleKey_glue whole (by decide) isEnding.nonempty isEnding.noDot
  have behind : glue ['/'] (statement.base ++ [statement.name] ++ ["index".toList]) =
      statement.place ++ "/index".toList :=
    glue_concat _ (by simp)
  rw [Path.text_eq_glue (by simp) wholePlace, behind] at filed
  exact .inl filed

theorem exists_moduleKey_place : ∃ module, moduleKey statement.place = .ok module := by
  rw [exists_moduleKey_iff, place, Path.ofText_glue (by simp) statement.isWhole_of_mem_base]
  simpa [Path.name] using statement.isComponent_name.nonempty

/-- What the source stands for is found from the file that quotes it. -/
theorem exists_ofSource_eq {listing : Listing} {paths : List Text} (files : listing.Files paths)
    {path : Text} (isListed : path ∈ paths) (isMeant : statement.StandsFor listing path) :
    ∃ found, Reference.ofSource listing statement.source statement.written = .ok found ∧
      path ∈ found := by
  have isRelative : Reference.ofSource listing statement.source statement.written =
      Reference.ofRelative listing statement.source statement.written := by
    rw [Reference.ofSource, if_pos statement.head?_written]
  have key : Path.normalize (Path.join (Reference.directoryOf statement.source)
      statement.written) = statement.place := statement.target_written
  simp only [isRelative, Reference.ofRelative, key]
  obtain ⟨ending, isEnding, rfl | ⟨noPlace, noModule, rfl⟩⟩ := isMeant
  · have isFound : statement.target ending ∈ listing.exactly statement.place :=
      files.mem_exactly_iff.mpr ⟨isListed, statement.isModule_target isEnding⟩
    exact ⟨_, if_pos (by simpa using List.ne_nil_of_mem isFound), isFound⟩
  · have isFound : statement.index ending ∈
        listing.exactly (statement.place ++ "/index".toList) :=
      files.mem_exactly_iff.mpr ⟨isListed, statement.isModule_index isEnding⟩
    obtain ⟨module, isModule⟩ := statement.exists_moduleKey_place
    refine ⟨listing.exactly (statement.place ++ "/index".toList), ?_, isFound⟩
    simp [noPlace, isModule, Reference.orElse, noModule module isModule, Except.map]

end RelativeSource

namespace Diff

open Reference

/-- A relative source finds what it stands for, be it imported or loaded: whenever references are
listed, every such file is among them, and only another new line of the diff can keep them from
being listed. -/
theorem relative_source_finds (statement : RelativeSource) {name line : Text}
    (isWord : IsWord name)
    (isLine : line = Import.quotedLine name statement.written ∨
      line = Import.loadedLine name statement.written)
    {paths : List Text}
    (listed : ∀ path ∈ paths, isBlank path = false ∧ (Path.ofText path).name ≠ [])
    {diff : Diff} {file : FileChange} {hunk : Hunk} (isFile : file ∈ diff.files)
    (isPath : file.effectivePath = some statement.source) (isHunk : hunk ∈ file.hunks)
    (isAdded : ⟨.added, line⟩ ∈ hunk.lines) :
    ∃ listing, Listing.ofPaths paths = .ok listing ∧
      (∀ found : List (Match Float), diff.references paths = .ok found →
        ∀ path ∈ paths, path ≠ statement.source → statement.StandsFor listing path →
          ∃ candidate ∈ found, candidate.path = path ∧ candidate.reason = .directImport) ∧
      ((∃ found : List (Match Float), diff.references paths = .ok found) ↔
        ∀ news ∈ diff.news, news.2 ≠ line → ¬QuotesStray paths news.1 news.2) := by
  have isQuoted : Import.ofLine line = .quoted [statement.written] := by
    rcases isLine with rfl | rfl
    · exact Import.ofLine_quotedLine isWord statement.isPlain_written
        statement.written_ne_nil
    · exact Import.ofLine_loadedLine isWord statement.isPlain_written
        statement.written_ne_nil
  have isNews : (statement.source, line) ∈ diff.news := by
    refine mem_news_of_added isFile isPath ?_ isHunk isAdded ?_
    · exact Path.glue_ne_nil (by simp) fun part isIn => (statement.components part isIn).isWhole
    · rcases isLine with rfl | rfl <;> rfl
  obtain ⟨listing, isFiled⟩ := Listing.exists_ofPaths_iff.mpr fun path isIn => (listed path isIn).2
  refine ⟨listing, isFiled, fun found isFound path isListed elsewhere isMeant => ?_, ?_⟩
  · obtain ⟨imported, isSource, isIn⟩ :=
      statement.exists_ofSource_eq (Listing.files_ofPaths isFiled) isListed isMeant
    have isImport : ofLine listing statement.source line = .ok imported := by
      simp [ofLine, isQuoted, isSource, Except.map, pure, Except.pure, bind, Except.bind]
    obtain ⟨candidate, isMatch, samePath, reason, -⟩ :=
      exists_match_of_import isFound isFiled isNews isImport isIn elsewhere
    exact ⟨candidate, isMatch, samePath, reason⟩
  · rw [exists_references_iff isFiled fun path isIn => (listed path isIn).1]
    refine forall₂_congr fun news _ => ⟨fun noStray _ => noStray, fun noStray => ?_⟩
    by_cases same : news.2 = line
    · rintro ⟨sources, isOther, spec, isSource, isStray⟩
      rw [same, isQuoted] at isOther
      obtain rfl := Import.quoted.inj isOther
      obtain rfl := List.mem_singleton.mp isSource
      exact statement.not_isStray paths news.1 isStray
    · exact noStray same

/-- A file one directory deep imports from a source with a dot in its name, one step up. -/
def stepsOut : RelativeSource where
  directories := [['a']]
  file := "m.js".toList
  steps := 1
  folders := []
  name := "x.y".toList
  components := by decide
  parts := by decide
  plain := by decide
  within := by decide

/-- It also loads a source of the same name from its own directory. -/
def staysIn : RelativeSource :=
  { stepsOut with
    steps := 0
    within := by decide }

/-- The new lines that do so. -/
def quotesTwice : Diff where
  files :=
    [{ oldPath := some "a/m.js".toList, newPath := some "a/m.js".toList
       hunks :=
        [{ oldStart := 1, oldCount := 0, newStart := 1, newCount := 2
           lines := [⟨.added, "import u from '../x.y'".toList⟩,
             ⟨.added, "const v = require('./x.y')".toList⟩] }] }]

/-- One step up there is a file of the name, and beside the file there is a directory of it. -/
theorem relative_source_finds_dotted :
    let paths := ["a/m.js".toList, "x.y.ts".toList, "a/x.y/index.js".toList]
    stepsOut.target "ts".toList = "x.y.ts".toList ∧
      staysIn.index "js".toList = "a/x.y/index.js".toList ∧
      ∃ found : List (Match Float), quotesTwice.references paths = .ok found ∧
        (∃ candidate ∈ found,
          candidate.path = "x.y.ts".toList ∧ candidate.reason = .directImport) ∧
        ∃ candidate ∈ found,
          candidate.path = "a/x.y/index.js".toList ∧ candidate.reason = .directImport := by
  intro paths
  have isWord : ∀ name ∈ [['u'], ['v']], IsWord name := by decide
  have imports : "import u from '../x.y'".toList =
      Import.quotedLine ['u'] stepsOut.written := by decide
  have loads : "const v = require('./x.y')".toList =
      Import.loadedLine ['v'] staysIn.written := by decide
  obtain ⟨listing, isFiled, finds, isListedIff⟩ := @relative_source_finds stepsOut _ _
    (isWord ['u'] (by simp)) (.inl imports) paths (by decide) quotesTwice _ _
    (List.mem_singleton_self _) rfl (List.mem_singleton_self _) List.mem_cons_self
  obtain ⟨other, isOther, findsToo, -⟩ := @relative_source_finds staysIn _ _
    (isWord ['v'] (by simp)) (.inr loads) paths (by decide) quotesTwice _ _
    (List.mem_singleton_self _) rfl (List.mem_singleton_self _) (by simp)
  obtain rfl := Except.ok.inj (isFiled.symm.trans isOther)
  have files := Listing.files_ofPaths isFiled
  have isTarget : stepsOut.target "ts".toList = "x.y.ts".toList := by decide
  have isIndex : staysIn.index "js".toList = "a/x.y/index.js".toList := by decide
  have isMeant : stepsOut.StandsFor listing "x.y.ts".toList :=
    ⟨"ts".toList, by decide, .inl isTarget.symm⟩
  have isMeantToo : staysIn.StandsFor listing "a/x.y/index.js".toList := by
    have noPlace : listing.exactly staysIn.place = [] :=
      files.exactly_eq_nil_iff.mpr (by decide)
    have noModule : listing.exactly "a/x".toList = [] := files.exactly_eq_nil_iff.mpr (by decide)
    have withoutSuffix : moduleKey staysIn.place = .ok "a/x".toList := by decide
    refine ⟨"js".toList, by decide, .inr ⟨noPlace, fun module isModule => ?_, isIndex.symm⟩⟩
    obtain rfl := Except.ok.inj (withoutSuffix.symm.trans isModule)
    exact noModule
  have news : quotesTwice.news = [("a/m.js".toList, "import u from '../x.y'".toList),
      ("a/m.js".toList, "const v = require('./x.y')".toList)] := by decide
  obtain ⟨found, isFound⟩ := isListedIff.mpr <| by
    rw [news]
    intro entry isEntry another
    rcases List.mem_pair.mp isEntry with rfl | rfl
    · exact absurd rfl another
    · rintro ⟨sources, isLine, spec, isSource, isStray⟩
      have isQuoted := Import.ofLine_loadedLine (isWord ['v'] (by simp))
        staysIn.isPlain_written staysIn.written_ne_nil
      rw [← loads] at isQuoted
      obtain rfl := Import.quoted.inj (isQuoted.symm.trans isLine)
      obtain rfl := List.mem_singleton.mp isSource
      exact staysIn.not_isStray _ _ isStray
  exact ⟨isTarget, isIndex, found, isFound,
    finds found isFound _ (by simp [paths]) (by decide) isMeant,
    findsToo found isFound _ (by simp [paths]) (by decide) isMeantToo⟩

end Diff

end Marginalia
