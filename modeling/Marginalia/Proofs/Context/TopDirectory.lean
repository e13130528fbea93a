import Mathlib.Tactic.Common
import Marginalia.Diff.Reader
import Marginalia.Proofs.Context.Referring

/-!
# The top directory as a source

References of a diff can be listed unless one of its new lines quotes a relative source that leads
to the top directory itself.  The top directory has no name from which a suffix could be taken, so
it is a source only where the repository has a package file there.
-/

namespace Marginalia

/-- As a double, no reason counts for more than certainty. -/
theorem Reason.isShare_double (reason : Reason) :
    Scale.isShare (reason.baseConfidence : Float) = true := by
  cases reason <;> decide

/-- A visible path is matched for every reason. -/
theorem Match.exists_ofReason {path : Text} (visible : Text.isBlank path = false) (reason : Reason)
    (evidence : Text) :
    ∃ candidate, ((ofReason path reason evidence).mapError .noMatch :
      Except (Reference.Fault Float) (Match Float)) = .ok candidate := by
  have made : (ofReason path reason evidence : Except (Fault Float) (Match Float)) =
      .ok { path, reason, confidence := reason.baseConfidence, evidence } := by
    rw [ofReason, make, visible, if_neg Bool.false_ne_true, if_pos reason.isShare_double]
  exact ⟨_, mapError_eq_ok_iff.mpr made⟩

namespace Reference

variable {listing : Listing} {paths : List Text} {changed : List (Option Text)}
  {source line spec : Text}

/-- Where a relative source leads to from a file. -/
def target (source spec : Text) : Text :=
  Path.normalize (Path.join (directoryOf source) spec)

/-- A relative source leads from a file to the top directory, and no file of the repository is the
module of that. -/
def IsStray (paths : List Text) (source spec : Text) : Prop :=
  spec.head? = some '.' ∧ (Path.ofText (target source spec)).parts = [] ∧
    ∀ path ∈ paths, ¬IsModule (target source spec) path

/-- A line of a file quotes a source that is stray. -/
def QuotesStray (paths : List Text) (source line : Text) : Prop :=
  ∃ sources, Import.ofLine line = .quoted sources ∧ ∃ spec ∈ sources, IsStray paths source spec

/-- A line that imports names from a module quotes nothing. -/
theorem not_quotesStray_of_fromModule {module : Text} {names : List Text}
    (isLine : Import.ofLine line = .fromModule module names) (paths : List Text) (source : Text) :
    ¬QuotesStray paths source line := by
  rintro ⟨sources, isQuoted, -⟩
  rw [isLine] at isQuoted
  contradiction

section

variable (files : listing.Files paths)

include files

theorem exists_ofSource_iff :
    (∃ found, ofSource listing source spec = .ok found) ↔ ¬IsStray paths source spec := by
  rw [ofSource, IsStray]
  by_cases relative : spec.head? = some '.'
  · rw [if_pos relative, ofRelative, ← files.exactly_eq_nil_iff, ← target]
    by_cases none : listing.exactly (target source spec) = []
    · have proper := Path.isProper_ofText (target source spec)
      simp only [relative, none, List.isEmpty_nil, Bool.not_true, Bool.false_eq_true, if_false,
        true_and, and_true, map_eq_ok_iff]
      rw [← proper.name_eq_nil_iff, ← Ne, ← exists_moduleKey_iff]
      constructor
      · rintro ⟨_, module, isModule, -⟩
        exact ⟨module, isModule⟩
      · rintro ⟨module, isModule⟩
        exact ⟨_, module, isModule, rfl⟩
    · simp [none]
  · simp [relative]

theorem exists_ofLine_iff :
    (∃ found, ofLine listing source line = .ok found) ↔ ¬QuotesStray paths source line := by
  rw [ofLine, QuotesStray]
  cases Import.ofLine line with
  | fromModule module names => simp
  | wholeModule module => simp
  | quoted sources =>
      simp only [Import.quoted.injEq, exists_eq_left', exists_map_eq_ok_iff, exists_mapM_eq_ok_iff,
        exists_ofSource_iff files, not_exists, not_and]

variable (visible : ∀ path ∈ paths, Text.isBlank path = false)

include visible

theorem exists_importMatches_iff :
    (∃ part, (importMatches listing source line : Except (Fault Float) _) = .ok part) ↔
      ¬QuotesStray paths source line := by
  rw [← exists_ofLine_iff files]
  constructor
  · rintro ⟨part, imported⟩
    obtain ⟨found, isFound, -⟩ := bind_eq_ok_iff.mp imported
    exact ⟨found, mapError_eq_ok_iff.mp isFound⟩
  · rintro ⟨found, isFound⟩
    have each : ∀ path ∈ found.filter (· ≠ source), ∃ candidate,
        ((Match.ofReason path .directImport (Text.trim line)).mapError .noMatch :
          Except (Fault Float) _) = .ok candidate := by
      intro path isIn
      have isListed := ofLine_subset files isFound (List.mem_of_mem_filter isIn)
      exact Match.exists_ofReason (visible path isListed) _ _
    obtain ⟨part, made⟩ := exists_mapM_eq_ok_iff.mpr each
    exact ⟨part, bind_eq_ok_iff.mpr ⟨found, mapError_eq_ok_iff.mpr isFound, made⟩⟩

theorem exists_typeMatches (changed : List (Option Text)) (source line : Text) :
    ∃ part, (typeMatches listing changed source line : Except (Fault Float) _) = .ok part := by
  refine exists_bind_pure_eq_ok_iff.mpr (exists_mapM_eq_ok_iff.mpr fun name _ => ?_)
  refine exists_mapM_eq_ok_iff.mpr fun path isIn => ?_
  have isListed := files.named_subset (List.mem_of_mem_filter isIn)
  exact Match.exists_ofReason (visible path isListed) _ _

/-- A line of a file has its matches unless it quotes a stray source. -/
theorem exists_lineMatches_iff :
    (∃ part, (lineMatches listing changed source line : Except (Fault Float) _) = .ok part) ↔
      ¬QuotesStray paths source line := by
  obtain ⟨typed, isTyped⟩ := exists_typeMatches files visible changed source line
  rw [← exists_importMatches_iff files visible]
  simp only [lineMatches_eq_ok_iff]
  constructor
  · rintro ⟨part, imported, others, isImported, -⟩
    exact ⟨imported, isImported⟩
  · rintro ⟨imported, isImported⟩
    exact ⟨_, imported, typed, isImported, isTyped, rfl⟩

end

end Reference

namespace Diff

open Reference

/-- Once visible paths are filed, the references to them can be listed unless a new line quotes a
stray source. -/
theorem exists_references_iff {paths : List Text} {listing : Listing}
    (isFiled : Listing.ofPaths paths = .ok listing)
    (visible : ∀ path ∈ paths, Text.isBlank path = false) (diff : Diff) :
    (∃ found : List (Match Float), diff.references paths = .ok found) ↔
      ∀ news ∈ diff.news, ¬QuotesStray paths news.1 news.2 := by
  have files := Listing.files_ofPaths isFiled
  rw [references_eq, isFiled]
  change (∃ found, Except.map List.flatten _ = .ok found) ↔ _
  rw [exists_map_eq_ok_iff, exists_mapM_eq_ok_iff]
  exact forall₂_congr fun news _ => exists_lineMatches_iff files visible

/-- References to visible paths that have names can be listed exactly when no new line of the diff
quotes a source that leads to the top directory where nothing is. -/
theorem references_succeed_iff (diff : Diff) {paths : List Text}
    (listed : ∀ path ∈ paths, Text.isBlank path = false ∧ (Path.ofText path).name ≠ []) :
    (∃ found : List (Match Float), diff.references paths = .ok found) ↔
      ∀ news ∈ diff.news, ¬QuotesStray paths news.1 news.2 := by
  obtain ⟨listing, isFiled⟩ := Listing.exists_ofPaths_iff.mpr fun path isIn => (listed path isIn).2
  exact exists_references_iff isFiled (fun path isIn => (listed path isIn).1) diff

/-- A file of the top directory that loads what is in its own directory. -/
def loadsTop : Diff where
  files :=
    [{ oldPath := some "a.js".toList, newPath := some "a.js".toList
       hunks :=
        [{ oldStart := 0, oldCount := 0, newStart := 1, newCount := 1
           lines := [⟨.added, "import x from '.'".toList⟩] }] }]

/-- Where a package file stands in the top directory, it is what the source leads to. -/
theorem references_succeed_iff_package :
    (∀ path ∈ [packageFile], Text.isBlank path = false ∧ (Path.ofText path).name ≠ []) ∧
      ∃ found : List (Match Float), loadsTop.references [packageFile] = .ok found ∧
        found.map (·.path) = [packageFile] := by
  have listed : ∀ path ∈ [packageFile],
      Text.isBlank path = false ∧ (Path.ofText path).name ≠ [] := by
    decide
  have news : loadsTop.news = [("a.js".toList, "import x from '.'".toList)] := by decide +kernel
  have quoted : Import.ofLine "import x from '.'".toList = .quoted [['.']] := by decide +kernel
  obtain ⟨found, isFound⟩ := (references_succeed_iff loadsTop listed).mpr <| by
    rw [news, List.forall_mem_singleton]
    rintro ⟨sources, isLine, spec, isSource, -, -, unknown⟩
    obtain rfl : [['.']] = sources := Import.quoted.inj (quoted.symm.trans isLine)
    obtain rfl := List.mem_singleton.mp isSource
    exact unknown packageFile (by simp) (by decide +kernel)
  have run : (loadsTop.references [packageFile] : Except _ (List (Match Float))).toOption.map
      (·.map (·.path)) = some [packageFile] := by
    decide +kernel
  rw [isFound] at run
  exact ⟨listed, found, isFound, Option.some.inj run⟩

theorem exists_references_fail :
    ∃ (text : Text) (diff : Diff) (paths : List Text) (fault : Reference.Fault Float),
      Diff.read text = .ok diff ∧
      (∀ path ∈ paths, Text.isBlank path = false ∧ (Path.ofText path).name ≠ [] ∧
        path.head? ≠ some '/') ∧
      (diff.references paths : Except _ (List (Match Float))) = .error fault ∧
      fault.message = "PurePosixPath('.') has an empty name".toList := by
  have told : ((loadsTop.references ["b.js".toList] : Except _ (List (Match Float))).mapError
      Reference.Fault.message).map (fun _ => ()) =
        .error "PurePosixPath('.') has an empty name".toList := by
    decide +kernel
  have isRead : Diff.read "--- a/a.js\n+++ b/a.js\n@@ -0,0 +1,1 @@\n+import x from '.'\n".toList =
      .ok loadsTop := by
    decide +kernel
  cases run : (loadsTop.references ["b.js".toList] : Except _ (List (Match Float))) with
  | ok found =>
      rw [run] at told
      contradiction
  | error fault =>
      rw [run] at told
      exact ⟨_, loadsTop, _, fault, isRead, by decide, run, Except.error.inj told⟩

end Diff

end Marginalia
