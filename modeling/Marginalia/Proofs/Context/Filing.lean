import Mathlib.Tactic.Common
import Marginalia.Context.Listing
import Marginalia.Proofs.Except
import Marginalia.Proofs.Path
import Marginalia.Proofs.Table

/-!
# What a listing answers

Filing the paths of a repository one after the other gives the answers of a search through all of
them: under a module stand the files that are that module, and under a name those that bear it, in
the order in which they are listed.
-/

namespace Marginalia

/-! ## Modules of paths -/

/-- The module of a path that has a name, and why another one has none. -/
theorem moduleKey_eq (path : Text) :
    moduleKey path =
      if (Path.ofText path).name = [] then .error ⟨Path.ofText path⟩
      else .ok (Path.mk (Path.ofText path).slashes
        ((Path.ofText path).parts.dropLast ++ [(Path.ofText path).stem])).text := by
  simp only [moduleKey, Path.withoutSuffix, List.isEmpty_iff]
  split <;> rfl

theorem exists_moduleKey_iff {path : Text} :
    (∃ key, moduleKey path = .ok key) ↔ (Path.ofText path).name ≠ [] := by
  rw [moduleKey_eq]
  split
  · rename_i unnamed
    simp [unnamed]
  · rename_i named
    exact iff_of_true ⟨_, rfl⟩ named

/-- A path whose last part ends in a dot and an ending is filed under what stands before the dot,
whatever other dots stand there. -/
theorem moduleKey_glue {parts : List Text} {stem ending : Text}
    (whole : ∀ part ∈ parts ++ [stem ++ '.' :: ending], Path.IsWhole part) (named : stem ≠ [])
    (nonempty : ending ≠ []) (noDot : '.' ∉ ending) :
    moduleKey (Text.glue ['/'] (parts ++ [stem ++ '.' :: ending])) =
      .ok (Path.mk 0 (parts ++ [stem])).text := by
  rw [moduleKey_eq, Path.ofText_glue (by simp) whole]
  simp [Path.name, Path.stem, Path.cutSuffix_append named nonempty noDot]

/-- A file is the module that its path without suffix says, and one that makes its directory a
package is also the module of the directory. -/
def IsModule (key path : Text) : Prop :=
  moduleKey path = .ok key ∨
    ((Path.ofText path).name = packageFile ∧ (Path.ofText path).parent.text = key)

instance decidableIsModule (key path : Text) : Decidable (IsModule key path) :=
  inferInstanceAs (Decidable (_ ∨ _))

theorem stem_of_packageFile {path : Text} (isPackage : (Path.ofText path).name = packageFile) :
    (Path.ofText path).stem = "__init__".toList := by
  rw [Path.stem, isPackage]
  rfl

/-- A module has the parts of a file that is it, with the stem at the end; that is left out where
the file makes its directory a package, or where it is no part. -/
theorem IsModule.parts_eq {key path : Text} (isModule : IsModule key path) :
    (Path.ofText key).parts = (Path.ofText path).parts.dropLast ++ [(Path.ofText path).stem] ∨
      (Path.ofText key).parts = (Path.ofText path).parts.dropLast ∧
        ((Path.ofText path).stem = ['.'] ∨ (Path.ofText path).stem = "__init__".toList) := by
  have proper := Path.isProper_ofText path
  rcases isModule with filed | ⟨isPackage, rfl⟩
  · rw [moduleKey_eq] at filed
    split at filed
    · contradiction
    · rename_i named
      obtain rfl := Except.ok.inj filed
      have kept : (Path.ofText path).parts.dropLast.filter Path.isPart =
          (Path.ofText path).parts.dropLast :=
        List.filter_eq_self.mpr fun part isIn => (proper.parent.parts part isIn).1
      have noSlash : ∀ part ∈ (Path.ofText path).parts.dropLast ++ [(Path.ofText path).stem],
          '/' ∉ part :=
        List.forall_mem_append.mpr ⟨fun part isIn => (proper.parent.parts part isIn).2,
          List.forall_mem_singleton.mpr proper.notMem_stem⟩
      rw [Path.parts_ofText_text _ noSlash, List.filter_append, kept]
      by_cases isDot : (Path.ofText path).stem = ['.']
      · refine .inr ⟨?_, .inl isDot⟩
        rw [isDot]
        exact List.append_nil _
      · have isPart : Path.isPart (Path.ofText path).stem = true :=
          Path.isPart_iff.mpr ⟨Path.cutSuffix_ne_nil named, isDot⟩
        exact .inl (by rw [List.filter_singleton, isPart, cond_true])
  · refine .inr ⟨?_, .inr (stem_of_packageFile isPackage)⟩
    rw [Path.ofText_text proper.parent, Path.parent]

/-- The file that makes a directory a package is not filed twice under one module. -/
theorem moduleKey_ne_of_packageFile {path : Text}
    (isPackage : (Path.ofText path).name = packageFile) :
    moduleKey path ≠ .ok (Path.ofText path).parent.text := by
  have proper := Path.isProper_ofText path
  have stem := stem_of_packageFile isPackage
  have isWhole : Path.IsWhole "__init__".toList := by decide
  have under : (Path.mk (Path.ofText path).slashes
      ((Path.ofText path).parts.dropLast ++ ["__init__".toList])).IsProper :=
    ⟨proper.slashes, List.forall_mem_append.mpr
      ⟨proper.parent.parts, List.forall_mem_singleton.mpr isWhole⟩⟩
  rw [moduleKey_eq, isPackage, if_neg (by decide), stem]
  intro same
  have samePath := under.eq_of_text_eq proper.parent (Except.ok.inj same)
  have sameLength := congrArg (fun path => path.parts.length) samePath
  simp [Path.parent] at sameLength

namespace Listing

variable {listing next : Listing} {paths : List Text} {path : Text}

/-- What a listing answers is what a search through the paths gives. -/
structure Files (listing : Listing) (paths : List Text) : Prop where
  /-- Under a module stand the files that are it. -/
  exactly : ∀ key, listing.exactly key = paths.filter (IsModule key ·)
  /-- Under a name stand the files that bear it. -/
  named : ∀ stem, listing.named stem = paths.filter (looseStem · = stem)
  /-- No module comes twice. -/
  distinct : (Table.keys listing.modules).Nodup

theorem files_nil : Files {} [] where
  exactly _ := rfl
  named _ := rfl
  distinct := List.nodup_nil

theorem exists_add_iff (listing : Listing) (path : Text) :
    (∃ next, listing.add path = .ok next) ↔ (Path.ofText path).name ≠ [] := by
  rw [← exists_moduleKey_iff]
  exact exists_bind_pure_eq_ok_iff

/-- One more path is found under the modules that it is, behind what was found there before. -/
theorem exactly_add (added : listing.add path = .ok next) (asked : Text) :
    next.exactly asked = listing.exactly asked ++ [path].filter (IsModule asked ·) := by
  obtain ⟨key, isKey, rest⟩ := bind_eq_ok_iff.mp added
  obtain rfl := Except.ok.inj rest
  have isAsked : IsModule asked path ↔ key = asked ∨
      ((Path.ofText path).name = packageFile ∧ (Path.ofText path).parent.text = asked) := by
    rw [IsModule, isKey, Except.ok.injEq]
  simp only [Listing.exactly, List.filter_singleton, isAsked]
  split
  · rename_i isPackage
    have different : key ≠ (Path.ofText path).parent.text := by
      rintro rfl
      exact moduleKey_ne_of_packageFile isPackage isKey
    rw [Table.filed_file, Table.filed_file]
    by_cases isKeyAsked : key = asked
    · have notAbove : (Path.ofText path).parent.text ≠ asked := isKeyAsked ▸ different.symm
      simp [isKeyAsked, notAbove]
    · simp [isKeyAsked, isPackage]
  · rename_i notPackage
    simp [Table.filed_file, notPackage]

/-- One more path is found under its name, behind what was found there before. -/
theorem named_add (added : listing.add path = .ok next) (asked : Text) :
    next.named asked = listing.named asked ++ [path].filter (looseStem · = asked) := by
  obtain ⟨key, isKey, rest⟩ := bind_eq_ok_iff.mp added
  obtain rfl := Except.ok.inj rest
  simp [Listing.named, Table.filed_file, List.filter_singleton]

theorem nodup_keys_add (distinct : (Table.keys listing.modules).Nodup)
    (added : listing.add path = .ok next) : (Table.keys next.modules).Nodup := by
  obtain ⟨key, isKey, rest⟩ := bind_eq_ok_iff.mp added
  obtain rfl := Except.ok.inj rest
  dsimp only
  split
  · exact Table.nodup_keys_file (Table.nodup_keys_file distinct _ _) _ _
  · exact Table.nodup_keys_file distinct _ _

/-- Filing one more path. -/
theorem Files.add (files : listing.Files paths) (added : listing.add path = .ok next) :
    next.Files (paths ++ [path]) where
  exactly key := by rw [exactly_add added, files.exactly, List.filter_append]
  named stem := by rw [named_add added, files.named, List.filter_append]
  distinct := nodup_keys_add files.distinct added

/-- Filing several paths, one after the other. -/
theorem Files.foldlM (files : listing.Files paths) {more : List Text}
    (added : more.foldlM Listing.add listing = .ok next) : next.Files (paths ++ more) := by
  induction more generalizing listing paths with
  | nil =>
      obtain rfl := Except.ok.inj added
      rwa [List.append_nil]
  | cons path more induct =>
      obtain ⟨middle, first, others⟩ := bind_eq_ok_iff.mp added
      have filed := induct (files.add first) others
      rwa [List.append_assoc, List.singleton_append] at filed

/-- A listing of paths answers what a search through them gives. -/
theorem files_ofPaths (filed : ofPaths paths = .ok listing) : listing.Files paths :=
  files_nil.foldlM filed

/-- Paths can be filed when all of them have names. -/
theorem exists_ofPaths_iff :
    (∃ listing, ofPaths paths = .ok listing) ↔ ∀ path ∈ paths, (Path.ofText path).name ≠ [] := by
  have general (listing : Listing) : (∃ next, paths.foldlM Listing.add listing = .ok next) ↔
      ∀ path ∈ paths, (Path.ofText path).name ≠ [] := by
    induction paths generalizing listing with
    | nil => exact iff_of_true ⟨listing, rfl⟩ (by simp)
    | cons path paths induct =>
        rw [List.foldlM_cons, List.forall_mem_cons, ← exists_add_iff listing path]
        cases filed : listing.add path with
        | ok next =>
            rw [and_iff_right ⟨next, rfl⟩]
            exact induct next
        | error fault => simp [bind, Except.bind]
  exact general {}

/-! ## Everything that is found is listed -/

namespace Files

variable {key name stem : Text} (files : listing.Files paths)

include files

theorem mem_exactly_iff : path ∈ listing.exactly key ↔ path ∈ paths ∧ IsModule key path := by
  rw [files.exactly, List.mem_filter, decide_eq_true_eq]

theorem exactly_eq_nil_iff : listing.exactly key = [] ↔ ∀ path ∈ paths, ¬IsModule key path := by
  simp [files.exactly, List.filter_eq_nil_iff]

theorem exactly_subset : listing.exactly key ⊆ paths :=
  fun _ isFound => (files.mem_exactly_iff.mp isFound).1

theorem named_subset : listing.named stem ⊆ paths := by
  rw [files.named]
  exact List.filter_subset_self _

/-- What is found under an ending is filed under a module with that ending. -/
theorem exists_of_mem_endingIn (isFound : path ∈ listing.endingIn key) :
    ∃ module, (module = key ∨ ('/' :: key) <:+ module) ∧ path ∈ listing.exactly module := by
  rw [endingIn] at isFound
  split at isFound
  · exact ⟨key, .inl rfl, isFound⟩
  · obtain ⟨⟨module, filed⟩, isEntry, isIn⟩ := List.mem_flatMap.mp isFound
    dsimp only at isIn
    split at isIn
    · rename_i isEnding
      refine ⟨module, .inr (List.isSuffixOf_iff_suffix.mp isEnding), ?_⟩
      rwa [Listing.exactly, Table.filed, Table.get?_of_mem files.distinct isEntry,
        Option.getD_some]
    · contradiction

theorem endingIn_subset : listing.endingIn key ⊆ paths := by
  intro path isFound
  obtain ⟨module, -, isIn⟩ := files.exists_of_mem_endingIn isFound
  exact files.exactly_subset isIn

theorem longest_subset (parts : List Text) : listing.longest parts ⊆ paths := by
  induction parts with
  | nil => exact List.nil_subset paths
  | cons last parts induct =>
      rw [longest]
      split
      · exact files.endingIn_subset
      · exact induct

theorem dotted_subset : listing.dotted name ⊆ paths :=
  files.longest_subset _

end Files

end Listing

end Marginalia
