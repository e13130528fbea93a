import Mathlib.Data.List.TakeWhile
import Mathlib.Tactic.Common
import Marginalia.Path
import Marginalia.Proofs.Text.Pieces
import Marginalia.Proofs.Text.Word

/-!
# Laws of paths

A path that was read has parts that name something, and is read from its writing again.  Joining
puts parts behind parts, and normalizing changes nothing but steps to the parent directory.
-/

namespace Marginalia

open Text

namespace Path

variable {path : Path} {writing part : Text} {parts : List Text}

/-- A part as it stands between slashes. -/
def IsWhole (part : Text) : Prop :=
  isPart part = true ∧ '/' ∉ part

instance (part : Text) : Decidable (IsWhole part) :=
  inferInstanceAs (Decidable (_ ∧ _))

theorem isPart_iff {part : Text} : isPart part = true ↔ part ≠ [] ∧ part ≠ ['.'] := by
  rw [isPart, Bool.and_eq_true, Bool.not_eq_true', List.isEmpty_eq_false_iff, decide_eq_true_eq]

/-- A path as it is read from a text. -/
structure IsProper (path : Path) : Prop where
  /-- There are two slashes in front at most. -/
  slashes : path.slashes ≤ 2
  /-- Every part names something. -/
  parts : ∀ part ∈ path.parts, IsWhole part

theorem IsProper.parent (proper : path.IsProper) : path.parent.IsProper where
  slashes := proper.slashes
  parts part isIn := proper.parts part (List.dropLast_subset _ isIn)

/-- The last part of a proper path is its name, so a path without name is a bare root. -/
theorem IsProper.name_eq_nil_iff (proper : path.IsProper) : path.name = [] ↔ path.parts = [] := by
  rw [name, List.getLastD_eq_getLast?]
  constructor
  · intro none
    by_contra some
    rw [List.getLast?_eq_some_getLast some, Option.getD_some] at none
    exact (isPart_iff.mp (proper.parts _ (List.getLast_mem some)).1).1 none
  · intro none
    rw [none]
    rfl

/-! ## Reading and writing -/

theorem rootOf_le (writing : Text) : rootOf writing ≤ 2 := by
  unfold rootOf
  split <;> decide

theorem isProper_ofText (writing : Text) : (ofText writing).IsProper where
  slashes := rootOf_le writing
  parts part isIn := by
    obtain ⟨isPiece, named⟩ := List.mem_filter.mp isIn
    exact ⟨named, notMem_of_mem_pieces '/' writing part isPiece⟩

theorem takeWhile_slash_eq_nil (relative : writing.head? ≠ some '/') :
    writing.takeWhile (· = '/') = [] := by
  cases writing with
  | nil => rfl
  | cons char rest => exact List.takeWhile_cons_of_neg (by simpa using relative)

/-- Slashes in front of anything else are counted. -/
theorem rootOf_replicate_append {count : Nat} (few : count ≤ 2)
    (relative : writing.head? ≠ some '/') :
    rootOf (List.replicate count '/' ++ writing) = count := by
  have counted : ((List.replicate count '/' ++ writing).takeWhile (· = '/')).length = count := by
    rw [List.takeWhile_append_of_pos (by simp), takeWhile_slash_eq_nil relative, List.append_nil,
      List.length_replicate]
  rw [rootOf, counted]
  match count, few with
  | 0, _ => rfl
  | 1, _ => rfl
  | 2, _ => rfl

theorem ofText_replicate_append {count : Nat} (few : count ≤ 2)
    (relative : writing.head? ≠ some '/') :
    ofText (List.replicate count '/' ++ writing) = { ofText writing with slashes := count } := by
  have unnamed : (List.replicate count ([] : Text)).filter isPart = [] :=
    List.filter_eq_nil_iff.mpr fun part isIn => by simp [List.eq_of_mem_replicate isIn, isPart]
  rw [ofText, rootOf_replicate_append few relative, pieces_replicate_append, List.filter_append,
    unnamed, List.nil_append, ofText]

theorem head?_glue_of_isWhole (whole : ∀ part ∈ parts, IsWhole part) :
    (glue ['/'] parts).head? ≠ some '/' := by
  cases parts with
  | nil => simp [glue]
  | cons part parts =>
      obtain ⟨named, noSlash⟩ := whole part List.mem_cons_self
      rw [head?_glue (isPart_iff.mp named).1]
      exact fun first => noSlash (List.mem_of_head? first)

/-- Of what is glued with slashes, those are the parts of a relative path that name something. -/
theorem ofText_glue_of_noSlash (nonempty : parts ≠ []) (noSlash : ∀ part ∈ parts, '/' ∉ part)
    (relative : (glue ['/'] parts).head? ≠ some '/') :
    ofText (glue ['/'] parts) = { parts := parts.filter isPart } := by
  have root : rootOf (glue ['/'] parts) = 0 :=
    rootOf_replicate_append (Nat.zero_le 2) relative
  rw [ofText, root, pieces_glue nonempty noSlash]

/-- Parts that are glued with slashes are the parts of a relative path. -/
theorem ofText_glue (nonempty : parts ≠ []) (whole : ∀ part ∈ parts, IsWhole part) :
    ofText (glue ['/'] parts) = { parts } := by
  rw [ofText_glue_of_noSlash nonempty (fun part isIn => (whole part isIn).2)
      (head?_glue_of_isWhole whole),
    List.filter_eq_self.mpr fun part isIn => (whole part isIn).1]

theorem glue_ne_nil (nonempty : parts ≠ []) (whole : ∀ part ∈ parts, IsWhole part) :
    glue ['/'] parts ≠ [] := by
  obtain ⟨part, rest, rfl⟩ := List.exists_cons_of_ne_nil nonempty
  have named := (isPart_iff.mp (whole part List.mem_cons_self).1).1
  intro none
  have first := @head?_glue '/' _ named rest
  rw [none, List.head?_nil, eq_comm, List.head?_eq_none_iff] at first
  exact named first

/-- A proper path is read from its writing. -/
theorem ofText_text (proper : path.IsProper) : ofText path.text = path := by
  obtain ⟨slashes, parts⟩ := path
  obtain ⟨few, whole⟩ := proper
  by_cases none : parts = []
  · subst none
    match slashes, few with
    | 0, _ => rfl
    | 1, _ => rfl
    | 2, _ => rfl
  · have written : Path.text ⟨slashes, parts⟩ =
        List.replicate slashes '/' ++ glue ['/'] parts := by
      simp [Path.text, glue_ne_nil none whole]
    rw [written, ofText_replicate_append few (head?_glue_of_isWhole whole), ofText_glue none whole]

/-- Of the parts of any path those are read from its writing that name something. -/
theorem parts_ofText_text (slashes : Nat) (noSlash : ∀ part ∈ parts, '/' ∉ part) :
    (ofText (Path.mk slashes parts).text).parts = parts.filter isPart := by
  have unnamed : (List.replicate slashes ([] : Text)).filter isPart = [] :=
    List.filter_eq_nil_iff.mpr fun part isIn => by simp [List.eq_of_mem_replicate isIn, isPart]
  have body : (pieces '/' (List.replicate slashes '/' ++ glue ['/'] parts)).filter isPart =
      parts.filter isPart := by
    rw [pieces_replicate_append, List.filter_append, unnamed, List.nil_append]
    by_cases none : parts = []
    · rw [none]
      rfl
    · rw [pieces_glue none noSlash]
  rw [ofText, Path.text]
  dsimp only
  split
  · rename_i empty
    rw [← body, List.isEmpty_iff.mp empty]
    rfl
  · exact body

/-- Proper paths that are written alike are the same. -/
theorem IsProper.eq_of_text_eq {other : Path} (proper : path.IsProper) (isProper : other.IsProper)
    (same : path.text = other.text) : path = other := by
  rw [← ofText_text proper, same, ofText_text isProper]

/-! ## Components -/

/-- The name of a directory or of a file, as it stands between slashes. -/
structure IsComponent (part : Text) : Prop where
  /-- It is not empty. -/
  nonempty : part ≠ []
  /-- It is not cut. -/
  noSlash : '/' ∉ part
  /-- It is not the directory itself. -/
  noDot : part ≠ ['.']
  /-- It is not the directory above. -/
  noStep : part ≠ ['.', '.']

instance decidableIsComponent (part : Text) : Decidable (IsComponent part) :=
  decidable_of_iff (part ≠ [] ∧ '/' ∉ part ∧ part ≠ ['.'] ∧ part ≠ ['.', '.'])
    ⟨fun ⟨nonempty, noSlash, noDot, noStep⟩ => ⟨nonempty, noSlash, noDot, noStep⟩,
      fun component => ⟨component.nonempty, component.noSlash, component.noDot, component.noStep⟩⟩

theorem IsComponent.isWhole (component : IsComponent part) : IsWhole part :=
  ⟨isPart_iff.mpr ⟨component.nonempty, component.noDot⟩, component.noSlash⟩

/-- A text that begins with a word is no dots, whatever stands behind. -/
theorem isComponent_append {word : Text} (isWord : IsWord word) {ending : Text}
    (noSlash : '/' ∉ ending) : IsComponent (word ++ ending) := by
  obtain ⟨first, rest, rfl⟩ := List.exists_cons_of_ne_nil isWord.1
  have noDot : first ≠ '.' := by
    rintro rfl
    exact isWord.notMem (by decide) List.mem_cons_self
  refine ⟨by simp, ?_, by simp [noDot], by simp [noDot]⟩
  rw [List.mem_append, not_or]
  exact ⟨isWord.notMem (by decide), noSlash⟩

theorem isComponent_of_isWord (isWord : IsWord part) : IsComponent part :=
  List.append_nil part ▸ isComponent_append isWord List.not_mem_nil

/-- Only the last dot of a name cuts off a suffix. -/
theorem cutSuffix_append {stem suffix : Text} (named : stem ≠ []) (nonempty : suffix ≠ [])
    (noDot : '.' ∉ suffix) : cutSuffix (stem ++ '.' :: suffix) = (stem, '.' :: suffix) := by
  have kept : ∀ char ∈ suffix.reverse, decide (char ≠ '.') = true := fun char isIn =>
    decide_eq_true fun isDot : char = '.' => noDot (isDot ▸ List.mem_reverse.mp isIn)
  have ending : afterLast '.' (stem ++ '.' :: suffix) = suffix := by
    rw [afterLast, List.reverse_append, List.reverse_cons, List.append_assoc,
      List.takeWhile_append_of_pos kept]
    simp
  have cut : (stem ++ '.' :: suffix).take ((stem ++ '.' :: suffix).length - suffix.length - 1) =
      stem := by
    refine List.take_left' ?_
    simp only [List.length_append, List.length_cons]
    omega
  simp only [cutSuffix, ending, cut]
  simp [named, nonempty]

theorem cutSuffix_subset (name : Text) : (cutSuffix name).1 ⊆ name := by
  simp only [cutSuffix]
  split
  · exact List.Subset.refl name
  · exact List.take_subset _ name

theorem cutSuffix_ne_nil {name : Text} (named : name ≠ []) : (cutSuffix name).1 ≠ [] := by
  simp only [cutSuffix]
  split
  · exact named
  · rename_i cut
    simp only [Bool.or_eq_true, List.isEmpty_iff, not_or] at cut
    exact cut.1

theorem IsProper.notMem_stem (proper : path.IsProper) : '/' ∉ path.stem := by
  intro isIn
  have isInName : '/' ∈ path.name := cutSuffix_subset path.name isIn
  by_cases none : path.parts = []
  · rw [proper.name_eq_nil_iff.mpr none] at isInName
    contradiction
  · rw [name, List.getLastD_eq_getLast?, List.getLast?_eq_some_getLast none] at isInName
    exact (proper.parts _ (List.getLast_mem none)).2 isInName

/-! ## Joining -/

/-- The root of a text is decided where its slashes end. -/
theorem rootOf_append {directory : Text}
    (stops : (∀ char ∈ directory, char = '/') → writing.head? ≠ some '/') :
    rootOf (directory ++ writing) = rootOf directory := by
  have same : (directory ++ writing).takeWhile (· = '/') = directory.takeWhile (· = '/') := by
    rw [List.takeWhile_append]
    split
    · rename_i sameLength
      have all : directory.takeWhile (· = '/') = directory :=
        (List.takeWhile_prefix _).eq_of_length sameLength
      have slashes : ∀ char ∈ directory, char = '/' := fun char isIn =>
        of_decide_eq_true (List.takeWhile_eq_self_iff.mp all char isIn)
      rw [takeWhile_slash_eq_nil (stops slashes), List.append_nil, all]
    · rfl
  rw [rootOf, same, rootOf]

theorem parts_append_slash (front back : Text) :
    (ofText (front ++ '/' :: back)).parts = (ofText front).parts ++ (ofText back).parts := by
  simp only [ofText, pieces_append_cons, List.filter_append]

/-- Joining puts the parts of a relative path behind those of a directory. -/
theorem ofText_join (directory : Text) (relative : writing.head? ≠ some '/') :
    ofText (join directory writing) =
      { slashes := (ofText directory).slashes
        parts := (ofText directory).parts ++ (ofText writing).parts } := by
  have same {joined : Text} (root : rootOf joined = rootOf directory)
      (parts : (ofText joined).parts = (ofText directory).parts ++ (ofText writing).parts) :
      ofText joined =
        { slashes := (ofText directory).slashes
          parts := (ofText directory).parts ++ (ofText writing).parts } := by
    rw [← parts]
    exact congrArg (fun slashes => Path.mk slashes (ofText joined).parts) root
  rw [join, if_neg relative]
  split
  · rename_i closed
    simp only [Bool.or_eq_true, List.isEmpty_iff, decide_eq_true_eq] at closed
    refine same (rootOf_append fun _ => relative) ?_
    rcases closed with rfl | closed
    · rfl
    · obtain ⟨front, rfl⟩ := List.getLast?_eq_some_iff.mp closed
      have nothing : (ofText []).parts = [] := rfl
      rw [List.append_assoc, List.singleton_append, parts_append_slash, parts_append_slash, nothing,
        List.append_nil]
  · rename_i opened
    simp only [Bool.or_eq_true, List.isEmpty_iff, decide_eq_true_eq, not_or] at opened
    refine same (rootOf_append fun slashes => ?_) (parts_append_slash directory writing)
    -- A directory that does not end in a slash does not consist of slashes.
    have isLast := List.getLast?_eq_some_getLast opened.1
    rw [slashes _ (List.getLast_mem opened.1)] at isLast
    exact absurd isLast opened.2

/-! ## Normalizing -/

/-- Parts that are no steps to the parent directory are kept. -/
theorem foldl_resolvePart (isRooted : Bool) (resolved : List Text)
    (noStep : ∀ part ∈ parts, part ≠ ['.', '.']) :
    parts.foldl (resolvePart isRooted) resolved = parts.reverse ++ resolved := by
  induction parts generalizing resolved with
  | nil => rfl
  | cons part parts induct =>
      obtain ⟨first, others⟩ := List.forall_mem_cons.mp noStep
      have kept : resolvePart isRooted resolved part = part :: resolved := if_neg first
      rw [List.foldl_cons, kept, induct (part :: resolved) others,
        List.reverse_cons, List.append_assoc, List.singleton_append]

/-- Steps to the parent directory take away the last parts that were kept. -/
theorem foldl_resolvePart_steps (isRooted : Bool) {resolved : List Text}
    (noStep : ∀ part ∈ resolved, part ≠ ['.', '.']) {steps : Nat} (few : steps ≤ resolved.length) :
    (List.replicate steps ['.', '.']).foldl (resolvePart isRooted) resolved =
      resolved.drop steps := by
  induction steps generalizing resolved with
  | zero => rfl
  | succ steps induct =>
      cases resolved with
      | nil => contradiction
      | cons last resolved =>
          obtain ⟨first, others⟩ := List.forall_mem_cons.mp noStep
          have taken : resolvePart isRooted (last :: resolved) ['.', '.'] = resolved := by
            rw [resolvePart, if_pos rfl]
            exact if_neg first
          rw [List.replicate_succ, List.foldl_cons, taken,
            induct others (Nat.le_of_succ_le_succ few), List.drop_succ_cons]

theorem mem_of_mem_resolvePart {isRooted : Bool} {resolved : List Text} {other : Text}
    (isIn : other ∈ resolvePart isRooted resolved part) : other = part ∨ other ∈ resolved := by
  rw [resolvePart.eq_def] at isIn
  split at isIn
  · split at isIn
    · split at isIn
      · exact .inr isIn
      · exact .inl (List.mem_singleton.mp isIn)
    · split at isIn
      · exact List.mem_cons.mp isIn
      · exact .inr (List.mem_cons_of_mem _ isIn)
  · exact List.mem_cons.mp isIn

/-- Resolving makes up no parts. -/
theorem foldl_resolvePart_subset (isRooted : Bool) (resolved parts : List Text) :
    parts.foldl (resolvePart isRooted) resolved ⊆ parts ++ resolved := by
  induction parts generalizing resolved with
  | nil => exact List.Subset.refl resolved
  | cons part parts induct =>
      intro other isIn
      rcases List.mem_append.mp (induct _ isIn) with isIn | isIn
      · simp [isIn]
      · rcases mem_of_mem_resolvePart isIn with rfl | isIn
        · simp
        · simp [isIn]

/-- A normalized text is read as the path with its steps resolved. -/
theorem ofText_normalize (writing : Text) :
    ofText (normalize writing) =
      { slashes := (ofText writing).slashes
        parts := ((ofText writing).parts.foldl
          (resolvePart (0 < (ofText writing).slashes)) []).reverse } := by
  have proper := isProper_ofText writing
  refine ofText_text ⟨proper.slashes, fun part isIn => proper.parts part ?_⟩
  simpa using foldl_resolvePart_subset _ _ _ (List.mem_reverse.mp isIn)

/-- A component that is joined to a directory stands behind what the directory is resolved to. -/
theorem parts_normalize_join (directory : Text) (component : IsComponent part) :
    (ofText (normalize (join directory part))).parts =
      ((ofText directory).parts.foldl
        (resolvePart (0 < (ofText directory).slashes)) []).reverse ++ [part] := by
  have relative : part.head? ≠ some '/' := fun first => component.noSlash (List.mem_of_head? first)
  have isRead : (ofText part).parts = [part] := by
    rw [ofText, pieces_of_notMem component.noSlash]
    exact List.filter_eq_self.mpr (List.forall_mem_singleton.mpr component.isWhole.1)
  rw [ofText_normalize, ofText_join directory relative, isRead, List.foldl_append,
    List.foldl_cons, List.foldl_nil, resolvePart.eq_def, if_neg component.noStep,
    List.reverse_cons]

/-- A text without steps to the parent directory is normalized to the writing of its path. -/
theorem normalize_eq_text (noStep : ∀ part ∈ (ofText writing).parts, part ≠ ['.', '.']) :
    normalize writing = (ofText writing).text := by
  simp only [normalize, foldl_resolvePart _ _ noStep, List.append_nil, List.reverse_reverse]

/-- A path that has parts and no root is written as its parts between slashes. -/
theorem text_eq_glue (nonempty : parts ≠ []) (whole : ∀ part ∈ parts, IsWhole part) :
    (Path.mk 0 parts).text = glue ['/'] parts := by
  simp [Path.text, glue_ne_nil nonempty whole]

/-- The path with the given parts and no root, in writing. -/
theorem ofText_text_of_isComponent (components : ∀ part ∈ parts, IsComponent part) :
    ofText (Path.mk 0 parts).text = { parts } :=
  ofText_text ⟨Nat.zero_le 2, fun part isIn => (components part isIn).isWhole⟩

/-- Joining components to a path of components puts them behind, and nothing has to be resolved. -/
theorem normalize_join {front back : List Text} {writing : Text}
    (components : ∀ part ∈ front ++ back, IsComponent part)
    (isRead : ofText writing = { parts := back }) (relative : writing.head? ≠ some '/') :
    normalize (join (Path.mk 0 front).text writing) = (Path.mk 0 (front ++ back)).text := by
  have joined : ofText (join (Path.mk 0 front).text writing) = { parts := front ++ back } := by
    rw [ofText_join _ relative, isRead, ofText_text_of_isComponent fun part isIn =>
      components part (List.mem_append_left back isIn)]
  have noStep : ∀ part ∈ (ofText (join (Path.mk 0 front).text writing)).parts,
      part ≠ ['.', '.'] := by
    rw [joined]
    exact fun part isIn => (components part isIn).noStep
  rw [normalize_eq_text noStep, joined]

end Path

end Marginalia
