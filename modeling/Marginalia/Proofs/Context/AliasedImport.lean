import Mathlib.Tactic.Common
import Marginalia.Proofs.Context.ImportLine
import Marginalia.Proofs.Context.TopDirectory

/-!
# Imports under another name

Whatever follows the word for importing is taken for names, so that a name with another one for it
is looked for as a whole, blanks included.  A file of that name is another one than the file of the
imported name, and the two lines give the same matches only where that makes no difference.
-/

namespace Marginalia

open Text

namespace Import

variable {module name other : Text}

/-- An imported name with another name for it. -/
def renamed (name other : Text) : Text :=
  name ++ (" as ".toList ++ other)

theorem blank_mem_renamed (name other : Text) : ' ' ∈ renamed name other :=
  List.mem_append_right _ (List.mem_append_left _ (by decide))

theorem isComponent_renamed (isName : IsWord name) (isAlias : IsWord other) :
    Path.IsComponent (renamed name other) := by
  have noSlash : '/' ∉ other := isAlias.notMem (by decide)
  exact Path.isComponent_append isName (by simp [noSlash])

/-- What is looked for as a single name of a module. -/
structure IsOneName (name : Text) : Prop where
  /-- It is not empty. -/
  nonempty : name ≠ []
  /-- It has no parts. -/
  noDot : '.' ∉ name
  /-- It does not stand for all names. -/
  notAll : name ≠ ['*']

theorem isOneName_of_isWord (isName : IsWord name) : IsOneName name where
  nonempty := isName.1
  noDot := isName.notMem (by decide)
  notAll same := isName.notMem (by decide) (same ▸ List.mem_singleton_self '*')

theorem isOneName_renamed (isName : IsWord name) (isOther : IsWord other) :
    IsOneName (renamed name other) where
  nonempty := (isComponent_renamed isName isOther).nonempty
  noDot := by
    have notInName : '.' ∉ name := isName.notMem (by decide)
    have notInOther : '.' ∉ other := isOther.notMem (by decide)
    simp [renamed, notInName, notInOther]
  notAll same := by
    have blank := blank_mem_renamed name other
    rw [same] at blank
    exact absurd blank (by decide)

section

variable (nonempty : module ≠ []) (isModule : ∀ char ∈ module, isModuleChar char = true)

include nonempty isModule

theorem ofLine_of_isWord (isName : IsWord name) :
    ofLine (fromLine module name) = .fromModule module [name] := by
  obtain ⟨first, rest, split⟩ := List.exists_cons_of_ne_nil isName.1
  have visible : ∃ char ∈ name.head?, isBlankChar char = false :=
    ⟨first, by rw [split]; rfl, isBlankChar_of_isWordChar (isName.2 first (by simp [split]))⟩
  have areNames : ∀ char ∈ name, isNamesChar char = true := fun char isIn => by
    simp [isNamesChar, isName.2 char isIn]
  rw [ofLine, fromModule?_fromLine nonempty isModule areNames visible, splitNames_of_isWord isName]

/-- A name with another one for it is read as a single name. -/
theorem ofLine_renamed (isName : IsWord name) (isAlias : IsWord other) :
    ofLine (fromLine module (renamed name other)) = .fromModule module [renamed name other] := by
  obtain ⟨first, rest, split⟩ := List.exists_cons_of_ne_nil isName.1
  have isFirst : (renamed name other).head? = some first := by
    rw [renamed, split]
    rfl
  have isLast : (renamed name other).getLast? = other.getLast? := by
    rw [renamed, List.getLast?_append, List.getLast?_append,
      List.getLast?_eq_some_getLast isAlias.1]
    rfl
  have visible : ∃ char ∈ (renamed name other).head?, isBlankChar char = false :=
    ⟨first, isFirst, isBlankChar_of_isWordChar (isName.2 first (by simp [split]))⟩
  have areNames : ∀ char ∈ renamed name other, isNamesChar char = true := by
    refine List.forall_mem_append.mpr ⟨fun char isIn => ?_,
      List.forall_mem_append.mpr ⟨List.all_eq_true.mp (by decide), fun char isIn => ?_⟩⟩
    · simp [isNamesChar, isName.2 char isIn]
    · simp [isNamesChar, isAlias.2 char isIn]
  have noComma : ',' ∉ renamed name other := by
    have notInName : ',' ∉ name := isName.notMem (by decide)
    have notInAlias : ',' ∉ other := isAlias.notMem (by decide)
    simp [renamed, notInName, notInAlias]
  have trimmed : trim (renamed name other) = renamed name other := by
    rw [trim_eq_self_iff, isFirst, isLast]
    refine ⟨fun char isIn => ?_, fun char isIn => ?_⟩
    · obtain rfl := Option.some.inj isIn
      exact isBlankChar_of_isWordChar (isName.2 first (by simp [split]))
    · exact isBlankChar_of_isWordChar (isAlias.2 char (List.mem_of_getLast? isIn))
  rw [ofLine, fromModule?_fromLine nonempty isModule areNames visible,
    splitNames_of_trim (isComponent_renamed isName isAlias).nonempty noComma trimmed]

end

end Import

/-- The paths of the matches that stand for imports. -/
def Match.importedPaths {Amount : Type} (found : List (Match Amount)) : List Text :=
  (found.filter (·.reason = .directImport)).map (·.path)

theorem Match.importedPaths_append {Amount : Type} (front back : List (Match Amount)) :
    importedPaths (front ++ back) = importedPaths front ++ importedPaths back := by
  rw [importedPaths, List.filter_append, List.map_append, importedPaths, importedPaths]

/-- Imported files are matched under their own paths, one after the other. -/
theorem Match.importedPaths_of_mapM {Amount : Type} [Scale Amount] {paths : List Text}
    {evidence : Text} {found : List (Match Amount)}
    (made : (paths.mapM fun path =>
      ((ofReason path .directImport evidence).mapError .noMatch :
        Except (Reference.Fault Amount) (Match Amount))) = .ok found) :
    importedPaths found = paths := by
  rw [mapM_eq_ok_iff_forall₂] at made
  induction made with
  | nil => rfl
  | cons isMade _ induct =>
      obtain rfl := eq_of_ofReason (mapError_eq_ok_iff.mp isMade)
      rw [importedPaths, List.filter_cons_of_pos (by simp), List.map_cons, ← importedPaths, induct]

namespace Reference

variable {listing : Listing} {paths : List Text} {source module name other path : Text}

/-! ## What a single name stands for -/

/-- The parts of a dotted module. -/
def moduleParts (module : Text) : List Text :=
  (pieces '.' module).filter (!·.isEmpty)

/-- The files that a name of a module stands for, without regard to the module itself. -/
def ofName (listing : Listing) (source module name : Text) : List Text :=
  if module.head? = some '.' then
    listing.exactly (Path.normalize (Path.join (relativeModule source module) name))
  else listing.endingIn (glue ['/'] (moduleParts module ++ [name]))

theorem orElse_orElse (first second : List Text) :
    orElse (orElse first second) second = orElse first second := by
  cases first with
  | nil => cases second <;> rfl
  | cons path first => rfl

/-- A single name stands for its files; if there are none, the module itself is meant. -/
theorem ofNames_singleton (listing : Listing) (source module : Text)
    (isOneName : Import.IsOneName name) :
    ofNames listing source module [name] =
      orElse (ofName listing source module name) (ofNames listing source module []) := by
  obtain ⟨nonempty, noDot, notAll⟩ := isOneName
  have kept : [name].filter (· ≠ ['*']) = [name] := by simp [notAll]
  rw [ofNames, ofNames, ofName]
  simp only [kept, List.filter_nil, List.flatMap_nil, List.flatMap_singleton]
  split
  · rfl
  · have parts : (pieces '.' (module ++ '.' :: name)).filter (!·.isEmpty) =
        moduleParts module ++ [name] := by
      rw [pieces_append_cons, List.filter_append, pieces_of_notMem noDot, moduleParts]
      simp [nonempty]
    have found : listing.dotted (module ++ '.' :: name) =
        orElse (listing.endingIn (glue ['/'] (moduleParts module ++ [name])))
          (listing.dotted module) := by
      rw [Listing.dotted, parts, List.reverse_concat, Listing.longest, List.reverse_cons,
        List.reverse_reverse, orElse, Listing.dotted, moduleParts]
      split <;> simp_all
    rw [found]
    exact orElse_orElse _ _

/-- A component behind some parts is filed under another module than a component behind other
parts, unless the one leads into a directory of the other's name. -/
theorem not_isModule_of_parts {key another word phrase : Text} {front back : List Text}
    (isKey : (Path.ofText key).parts = front ++ [word])
    (isAnother : (Path.ofText another).parts = back ++ [phrase]) (different : word ≠ phrase)
    (noDot : phrase ≠ ['.']) (noPackage : phrase ≠ "__init__".toList)
    (apart : front ≠ back ++ [phrase]) (isModule : IsModule key path) :
    ¬IsModule another path := by
  intro isAlso
  have whole := isModule.parts_eq
  have wholeToo := isAlso.parts_eq
  rw [isKey] at whole
  rw [isAnother] at wholeToo
  rcases whole with whole | ⟨whole, isSpecial⟩
  · obtain ⟨above, isStem⟩ := List.append_inj' whole rfl
    rcases wholeToo with wholeToo | ⟨wholeToo, -⟩
    · obtain ⟨-, isStemToo⟩ := List.append_inj' wholeToo rfl
      exact different (List.cons.inj (isStem.trans isStemToo.symm)).1
    · exact apart (above.trans wholeToo.symm)
  · rcases wholeToo with wholeToo | ⟨wholeToo, -⟩
    · obtain ⟨-, isStem⟩ := List.append_inj' wholeToo rfl
      rw [(List.cons.inj isStem).1] at noDot noPackage
      exact isSpecial.elim noDot noPackage
    · obtain ⟨-, same⟩ := List.append_inj' (whole.trans wholeToo.symm) rfl
      exact different (List.cons.inj same).1

/-- A key that ends a module has the last parts of it. -/
theorem exists_parts_eq {key dotted : Text} (isEnding : dotted = key ∨ ('/' :: key) <:+ dotted) :
    ∃ front, (Path.ofText dotted).parts = front ++ (Path.ofText key).parts := by
  rcases isEnding with rfl | ⟨front, rfl⟩
  · exact ⟨[], rfl⟩
  · exact ⟨_, Path.parts_append_slash front key⟩

theorem moduleParts_ne_nil (nonempty : module ≠ []) (absolute : module.head? ≠ some '.') :
    moduleParts module ≠ [] := by
  obtain ⟨first, rest, rfl⟩ := List.exists_cons_of_ne_nil nonempty
  have different : first ≠ '.' := fun same => absolute (same ▸ rfl)
  obtain ⟨part, isPart, some⟩ := @exists_mem_pieces '.' first rest different
  exact List.ne_nil_of_mem (List.mem_filter.mpr ⟨isPart, by simpa using some⟩)

section

variable (nonempty : module ≠ []) (isModule : ∀ char ∈ module, Import.isModuleChar char = true)

include isModule

theorem isWord_of_mem_moduleParts : ∀ part ∈ moduleParts module, IsWord part := by
  intro part isIn
  obtain ⟨isPiece, some⟩ := List.mem_filter.mp isIn
  refine ⟨by simpa using some, fun char isChar => ?_⟩
  have isModuleChar := isModule char (mem_of_mem_pieces isPiece char isChar)
  rw [Import.isModuleChar, Bool.or_eq_true, decide_eq_true_eq] at isModuleChar
  refine isModuleChar.resolve_right ?_
  rintro rfl
  exact notMem_of_mem_pieces '.' module part isPiece isChar

theorem parts_ofText_key (component : Path.IsComponent name) :
    (Path.ofText (glue ['/'] (moduleParts module ++ [name]))).parts =
      moduleParts module ++ [name] := by
  rw [Path.ofText_glue (by simp)]
  refine List.forall_mem_append.mpr ⟨fun part isIn => ?_, ?_⟩
  · exact (Path.isComponent_of_isWord (isWord_of_mem_moduleParts isModule part isIn)).isWhole
  · exact List.forall_mem_singleton.mpr component.isWhole

include nonempty

/-- No file is found under an imported name and, together with another name for it, under the
two as one. -/
theorem notMem_ofName_renamed (files : listing.Files paths) (isName : IsWord name)
    (isOther : IsWord other) (isFound : path ∈ ofName listing source module name) :
    path ∉ ofName listing source module (Import.renamed name other) := by
  have blank := Import.blank_mem_renamed name other
  have component := Path.isComponent_of_isWord isName
  have componentToo := Import.isComponent_renamed isName isOther
  have different : name ≠ Import.renamed name other := by
    intro same
    rw [← same] at blank
    exact isName.notMem (by decide) blank
  have noPackage : Import.renamed name other ≠ "__init__".toList := by
    intro same
    rw [same] at blank
    exact absurd blank (by decide)
  intro isFoundToo
  rw [ofName] at isFound isFoundToo
  split at isFound
  · rename_i relative
    rw [if_pos relative] at isFoundToo
    refine not_isModule_of_parts (Path.parts_normalize_join _ component)
      (Path.parts_normalize_join _ componentToo) different componentToo.noDot noPackage ?_
      (files.mem_exactly_iff.mp isFound).2 (files.mem_exactly_iff.mp isFoundToo).2
    intro same
    simpa using congrArg List.length same
  · rename_i absolute
    rw [if_neg absolute] at isFoundToo
    obtain ⟨dotted, isEnding, isIn⟩ := files.exists_of_mem_endingIn isFound
    obtain ⟨another, isEndingToo, isInToo⟩ := files.exists_of_mem_endingIn isFoundToo
    obtain ⟨front, isDotted⟩ := exists_parts_eq isEnding
    obtain ⟨back, isAnother⟩ := exists_parts_eq isEndingToo
    rw [parts_ofText_key isModule component, ← List.append_assoc] at isDotted
    rw [parts_ofText_key isModule componentToo, ← List.append_assoc] at isAnother
    refine not_isModule_of_parts isDotted isAnother different componentToo.noDot noPackage ?_
      (files.mem_exactly_iff.mp isIn).2 (files.mem_exactly_iff.mp isInToo).2
    intro same
    -- The last part of the module would hold a blank.
    have some := moduleParts_ne_nil nonempty absolute
    have isLast := congrArg List.getLast? same
    rw [List.getLast?_append, List.getLast?_concat, List.getLast?_eq_some_getLast some] at isLast
    have isWord := isWord_of_mem_moduleParts isModule _ (List.getLast_mem some)
    rw [Option.some.inj isLast] at isWord
    exact isWord.notMem (by decide) blank

end

/-! ## What a line imports -/

/-- The other files that a new line imports; none where that cannot be said. -/
def importsOf (listing : Listing) (news : Text × Text) : List Text :=
  match ofLine listing news.1 news.2 with
  | .ok imported => imported.filter (· ≠ news.1)
  | .error _ => []

/-- Renaming an imported name changes nothing: either the two as one stand for nothing, and so does
the name by itself or it stands for what the module does, or only the two as one stand for anything,
and that is what the module stands for. -/
def RenamesFreely (listing : Listing) (source module name other : Text) : Prop :=
  let others (paths : List Text) : List Text := paths.filter (· ≠ source)
  let named := ofName listing source module name
  let renamed := ofName listing source module (Import.renamed name other)
  let whole := others (ofNames listing source module [])
  renamed = [] ∧ (named = [] ∨ others named = whole) ∨ named = [] ∧ others renamed = whole

/-- Lists without common members that keep the same members beside one have none beside it. -/
theorem eq_of_filter_eq {first second : List Text} (apart : ∀ path ∈ first, path ∉ second)
    (same : first.filter (· ≠ source) = second.filter (· ≠ source)) :
    ∀ path ∈ first, path = source := by
  intro path isIn
  by_contra elsewhere
  have kept : path ∈ first.filter (· ≠ source) :=
    List.mem_filter.mpr ⟨isIn, decide_eq_true elsewhere⟩
  rw [same] at kept
  exact apart path isIn (List.mem_of_mem_filter kept)

/-- Lists without common members give the same beside a file only where one of them is empty. -/
theorem filter_orElse_eq_iff {first second whole : List Text}
    (apart : ∀ path ∈ first, path ∉ second) :
    (orElse first whole).filter (· ≠ source) = (orElse second whole).filter (· ≠ source) ↔
      second = [] ∧ (first = [] ∨ first.filter (· ≠ source) = whole.filter (· ≠ source)) ∨
        first = [] ∧ second.filter (· ≠ source) = whole.filter (· ≠ source) := by
  have instead : orElse [] whole = whole := rfl
  have kept (path : Text) (others : List Text) : orElse (path :: others) whole = path :: others :=
    rfl
  cases first with
  | nil =>
      cases second with
      | nil => simp
      | cons latter second =>
          rw [instead, kept]
          simp only [reduceCtorEq, false_and, false_or, true_and]
          exact eq_comm
  | cons former first =>
      cases second with
      | nil =>
          rw [instead, kept]
          simp
      | cons latter second =>
          rw [kept, kept]
          simp only [reduceCtorEq, false_and, or_false, iff_false]
          intro same
          have isSource : former = source := eq_of_filter_eq apart same _ List.mem_cons_self
          have alsoSource : latter = source :=
            eq_of_filter_eq (fun path isIn isAlso => apart path isAlso isIn) same.symm _
              List.mem_cons_self
          refine apart former List.mem_cons_self ?_
          rw [isSource, alsoSource]
          exact List.mem_cons_self

/-- What a line that imports one name imports. -/
theorem importsOf_of_ofLine {line : Text} (isLine : Import.ofLine line = .fromModule module [name])
    (isOneName : Import.IsOneName name) :
    importsOf listing (source, line) =
      (orElse (ofName listing source module name) (ofNames listing source module [])).filter
        (· ≠ source) := by
  rw [← ofNames_singleton listing source module isOneName]
  simp [importsOf, ofLine, isLine]

section

variable {Amount : Type} [Scale Amount] {changed : List (Option Text)} {line : Text}
  {part : List (Match Amount)}

theorem importedPaths_of_typeMatches
    (typed : typeMatches listing changed source line = .ok part) :
    Match.importedPaths part = [] := by
  rw [Match.importedPaths, List.map_eq_nil_iff, List.filter_eq_nil_iff]
  intro candidate isIn
  obtain ⟨name, -, path, -, -, -, made⟩ := exists_of_mem_typeMatches typed isIn
  rw [Match.eq_of_ofReason made]
  simp

theorem importedPaths_of_importMatches
    (imported : importMatches listing source line = .ok part) :
    Match.importedPaths part = importsOf listing (source, line) := by
  obtain ⟨found, isFound, made⟩ := bind_eq_ok_iff.mp imported
  rw [mapError_eq_ok_iff] at isFound
  rw [Match.importedPaths_of_mapM made]
  simp only [importsOf, isFound]

/-- The matches of a line that stand for imports are those of the other files that it imports. -/
theorem importedPaths_lineMatches (given : lineMatches listing changed source line = .ok part) :
    Match.importedPaths part = importsOf listing (source, line) := by
  obtain ⟨imports, typed, areImports, areTyped, rfl⟩ := lineMatches_eq_ok_iff.mp given
  rw [Match.importedPaths_append, importedPaths_of_importMatches areImports,
    importedPaths_of_typeMatches areTyped, List.append_nil]

end

end Reference

namespace Diff

open Reference

/-- The imports of a diff are those of its new lines, line after line. -/
theorem importedPaths_references {Amount : Type} [Scale Amount] {diff : Diff} {paths : List Text}
    {listing : Listing} {found : List (Match Amount)}
    (isFiled : Listing.ofPaths paths = .ok listing) (isFound : diff.references paths = .ok found) :
    Match.importedPaths found = diff.news.flatMap (importsOf listing) := by
  rw [references_eq, isFiled] at isFound
  obtain ⟨parts, given, rfl⟩ := map_eq_ok_iff.mp isFound
  rw [← flatMap_eq_of_mapM_eq_ok given fun news part => importedPaths_lineMatches,
    Match.importedPaths, List.filter_flatten, List.map_flatten, List.map_map]
  rfl

/-- Two diffs that differ in one new line, which imports a name in the one and renames it in the
other, give the same imports exactly where renaming changes nothing; where no other new line keeps
references from being listed, those of both can be listed. -/
theorem renaming_changes_nothing_iff {diff aliased : Diff} {front back : List (Text × Text)}
    {source module name other : Text} (nonempty : module ≠ [])
    (isModule : ∀ char ∈ module, Import.isModuleChar char = true) (isName : IsWord name)
    (isOther : IsWord other)
    (news : diff.news = front ++ (source, Import.fromLine module name) :: back)
    (aliasedNews : aliased.news =
      front ++ (source, Import.fromLine module (Import.renamed name other)) :: back)
    (paths : List Text) :
    (∀ found renamed : List (Match Float), diff.references paths = .ok found →
      aliased.references paths = .ok renamed →
      ∃ listing, Listing.ofPaths paths = .ok listing ∧
        (Match.importedPaths found = Match.importedPaths renamed ↔
          RenamesFreely listing source module name other)) ∧
    ((∀ path ∈ paths, isBlank path = false ∧ (Path.ofText path).name ≠ []) →
      (∀ entry ∈ front ++ back, ¬QuotesStray paths entry.1 entry.2) →
      (∃ found : List (Match Float), diff.references paths = .ok found) ∧
        ∃ renamed : List (Match Float), aliased.references paths = .ok renamed) := by
  have isLine := Import.ofLine_of_isWord nonempty isModule isName
  have isAliased := Import.ofLine_renamed nonempty isModule isName isOther
  constructor
  · intro found renamed isFound isRenamed
    obtain ⟨listing, isFiled⟩ : ∃ listing, Listing.ofPaths paths = .ok listing := by
      rw [references_eq] at isFound
      obtain ⟨listing, isFiled, -⟩ := bind_eq_ok_iff.mp isFound
      exact ⟨listing, mapError_eq_ok_iff.mp isFiled⟩
    have apart : ∀ path ∈ ofName listing source module name,
        path ∉ ofName listing source module (Import.renamed name other) := fun path =>
      notMem_ofName_renamed nonempty isModule (Listing.files_ofPaths isFiled) isName isOther
    refine ⟨listing, isFiled, ?_⟩
    rw [importedPaths_references isFiled isFound, importedPaths_references isFiled isRenamed, news,
      aliasedNews, List.flatMap_append, List.flatMap_append, List.append_cancel_left_eq,
      List.flatMap_cons, List.flatMap_cons, List.append_cancel_right_eq,
      importsOf_of_ofLine isLine (Import.isOneName_of_isWord isName),
      importsOf_of_ofLine isAliased (Import.isOneName_renamed isName isOther),
      filter_orElse_eq_iff apart]
    rfl
  · intro listed noStray
    obtain ⟨before, behind⟩ := List.forall_mem_append.mp noStray
    rw [references_succeed_iff diff listed, references_succeed_iff aliased listed, news,
      aliasedNews]
    have listable {line : Text} {names : List Text}
        (isImport : Import.ofLine line = .fromModule module names) :
        ∀ entry ∈ front ++ (source, line) :: back, ¬QuotesStray paths entry.1 entry.2 :=
      List.forall_mem_append.mpr ⟨before, List.forall_mem_cons.mpr
        ⟨not_quotesStray_of_fromModule isImport paths source, behind⟩⟩
    exact ⟨listable isLine, listable isAliased⟩

/-- A file of the top directory gets an import of a name from a package. -/
def imports (line : Text) : Diff where
  files :=
    [{ oldPath := some "a.py".toList, newPath := some "a.py".toList
       hunks := [{ oldStart := 0, oldCount := 0, newStart := 1, newCount := 1
                   lines := [⟨.added, line⟩] }] }]

/-- Where the package has no file of the name, its package file is meant either way. -/
theorem renaming_changes_nothing_iff_package :
    let paths := ["app/__init__.py".toList, "a.py".toList]
    ∃ found renamed : List (Match Float),
      (imports "from app import util".toList).references paths = .ok found ∧
        (imports "from app import util as u".toList).references paths = .ok renamed ∧
        Match.importedPaths found = ["app/__init__.py".toList] ∧
        Match.importedPaths found = Match.importedPaths renamed := by
  intro paths
  have isModule : ∀ char ∈ "app".toList, Import.isModuleChar char = true :=
    List.all_eq_true.mp (by decide)
  obtain ⟨same, listable⟩ := @renaming_changes_nothing_iff
    (imports "from app import util".toList) (imports "from app import util as u".toList) [] []
    "a.py".toList "app".toList "util".toList "u".toList (by decide) isModule (by decide)
    (by decide) (by decide) (by decide +kernel) paths
  obtain ⟨⟨found, isFound⟩, renamed, isRenamed⟩ := listable (by decide) (by simp)
  obtain ⟨listing, isFiled, iff⟩ := same found renamed isFound isRenamed
  have looked : (Listing.ofPaths paths).toOption.map (fun listing =>
      (ofName listing "a.py".toList "app".toList (Import.renamed "util".toList "u".toList),
        ofName listing "a.py".toList "app".toList "util".toList)) = some ([], []) := by
    decide
  have run : ((imports "from app import util".toList).references paths :
      Except _ (List (Match Float))).toOption.map Match.importedPaths =
        some ["app/__init__.py".toList] := by
    decide
  rw [isFiled] at looked
  rw [isFound] at run
  obtain ⟨noRenamed, noName⟩ := Prod.mk.inj (Option.some.inj looked)
  exact ⟨found, renamed, isFound, isRenamed, Option.some.inj run,
    iff.mpr (.inl ⟨noRenamed, .inl noName⟩)⟩

/-- A file of the package that is imported is lost as soon as it gets another name. -/
theorem exists_renaming_loses_file :
    ∃ (text aliasedText : Text) (diff aliased : Diff) (source module name other : Text)
      (paths : List Text) (found renamed : List (Match Float)),
      Diff.read text = .ok diff ∧ Diff.read aliasedText = .ok aliased ∧
      diff.news = [(source, Import.fromLine module name)] ∧
      aliased.news = [(source, Import.fromLine module (Import.renamed name other))] ∧
      IsWord module ∧ IsWord name ∧ IsWord other ∧
      diff.references paths = .ok found ∧ aliased.references paths = .ok renamed ∧
      Match.importedPaths found ≠ Match.importedPaths renamed := by
  have run : ((imports "from app import util".toList).references ["app/util.py".toList] :
      Except _ (List (Match Float))).toOption.map Match.importedPaths =
        some ["app/util.py".toList] := by
    decide
  have aliasedRun :
      ((imports "from app import util as u".toList).references ["app/util.py".toList] :
        Except _ (List (Match Float))).toOption.map Match.importedPaths = some [] := by
    decide
  have isRead : Diff.read
      "--- a/a.py\n+++ b/a.py\n@@ -0,0 +1,1 @@\n+from app import util\n".toList =
        .ok (imports "from app import util".toList) := by
    decide +kernel
  have isAliasedRead : Diff.read
      "--- a/a.py\n+++ b/a.py\n@@ -0,0 +1,1 @@\n+from app import util as u\n".toList =
        .ok (imports "from app import util as u".toList) := by
    decide +kernel
  obtain ⟨found, isFound, areFound⟩ := exists_of_toOption_map run
  obtain ⟨renamed, isRenamed, areRenamed⟩ := exists_of_toOption_map aliasedRun
  refine ⟨_, _, _, _, "a.py".toList, "app".toList, "util".toList, "u".toList, _, found, renamed,
    isRead, isAliasedRead, by decide +kernel, by decide, by decide, by decide, by decide,
    isFound, isRenamed, ?_⟩
  rw [areFound, areRenamed]
  exact List.cons_ne_nil _ _

end Diff

end Marginalia
