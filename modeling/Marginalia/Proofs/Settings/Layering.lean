import Marginalia.Proofs.Settings.Defaults
import Marginalia.Proofs.Value.KeyPath

/-!
# The layers of the settings document

The configuration file overrides the standard document key by key, what the command line decides
replaces whole keys of the outermost mapping, and the token has a key of its own.  Where neither the
file nor a decision touches a path of keys, the standard document shows through.
-/

namespace Marginalia

namespace Settings

open Value

variable {Foreign : Type} [Scalar Foreign]

/-- Whether something is decided under the key with which a path begins. -/
def Decides (decisions : Entries Foreign) (path : List (Value Foreign)) : Prop :=
  ∃ decision ∈ decisions, decision.2 ≠ .null ∧
    ∃ key ∈ path.head?, decision.1.sameKey key = true

/-- The entries of a configuration file, of which there are none without a file. -/
def FileHolds (reader : Text → Except Refusal (Value Foreign)) (path : Text)
    (file : Option (List Nat)) (entries : Entries Foreign) : Prop :=
  match file with
  | none => entries = []
  | some bytes => readFileBy reader path bytes = .ok entries

variable {reader : Text → Except Refusal (Value Foreign)} {path : Text}
  {file : Option (List Nat)} {entries decisions : Entries Foreign}
  {key value : Value Foreign} {keys : List (Value Foreign)}

theorem FileHolds.isKeyed (reads : ReadsKeyed reader)
    (holds : FileHolds reader path file entries) : IsKeyed (.mapping entries) := by
  cases file with
  | none =>
      obtain rfl : entries = [] := holds
      exact isKeyed_nil
  | some bytes => exact reads.isKeyed holds

theorem loadBy_eq_ok (holds : FileHolds reader path file entries) (decisions : Entries Foreign)
    (token : Option Text) :
    loadBy reader path file decisions token = .ok (complete entries decisions token) := by
  cases file with
  | none =>
      obtain rfl : entries = [] := holds
      rfl
  | some bytes =>
      have isRead : readFileBy reader path bytes = .ok entries := holds
      rw [loadBy, isRead]
      rfl

/-- A key about which nothing is decided keeps what it has. -/
theorem lookup?_decide (undecided : ¬Decides decisions (key :: keys))
    (document : Entries Foreign) :
    lookup? key (decide decisions document) = lookup? key document := by
  induction decisions generalizing document with
  | nil => rfl
  | cons decision decisions induct =>
      have others : ¬Decides decisions (key :: keys) := fun ⟨other, isIn, decides⟩ =>
        undecided ⟨other, List.mem_cons_of_mem _ isIn, decides⟩
      obtain ⟨asked, value⟩ := decision
      rw [decide, List.foldl_cons, ← decide, induct others]
      dsimp only
      split
      · rfl
      · rename_i decided
        have other : ¬asked.sameKey key = true := fun same =>
          undecided ⟨(asked, value), List.mem_cons_self, decided, key, rfl, same⟩
        rw [lookup?_put, if_neg other]

/-- The token stands under a key that the standard document does not have. -/
theorem token_sameKey_of_lookup? (standard : lookup? key standardDocument = some value) :
    (Value.text "github_token".toList).sameKey key = false := by
  refine Bool.eq_false_iff.mpr fun same => ?_
  rw [← lookup?_congr same] at standard
  contradiction

/-- Where nothing is decided, a completed document has what the file, laid over the standard
document, has. -/
theorem at?_complete (undecided : ¬Decides decisions keys)
    (standard : at? keys (.mapping standardDocument) = some value) (token : Option Text)
    (nonempty : keys ≠ []) :
    at? keys (.mapping (complete entries decisions token)) =
      at? keys (.mapping (overlay standardDocument entries)) := by
  obtain ⟨key, rest, rfl⟩ := List.exists_cons_of_ne_nil nonempty
  rw [at?_cons_mapping, Option.bind_eq_some_iff] at standard
  obtain ⟨below, isBelow, -⟩ := standard
  have other := Bool.eq_false_iff.mp (token_sameKey_of_lookup? isBelow)
  rw [at?_cons_mapping, at?_cons_mapping, complete, lookup?_put, if_neg other,
    lookup?_decide undecided]

/-- Laying a document over another one overrides it key by key and does nothing else; so a settings
document, which is there whenever the configuration file can be read, has at each path of keys that
neither the file nor a decision touches what the standard document has there.  This holds whatever
scalars documents may have, and of every reader of them that gives no mapping with a key twice. -/
theorem overrides_key_by_key (reads : ReadsKeyed reader) :
    (∀ lower upper : Entries Foreign, IsKeyed (.mapping upper) →
      HasScalarKeys (.mapping upper) → Overrides lower upper (overlay lower upper)) ∧
    ∀ path file entries decisions token, FileHolds reader path file entries →
      ∃ document, loadBy reader path file decisions token = .ok document ∧
        ∀ keys value, at? keys (.mapping standardDocument) = some value →
          ¬Touches standardDocument entries keys → ¬Decides decisions keys →
            at? keys (.mapping document) = some value := by
  refine ⟨fun lower upper keyed scalar => overrides_overlay lower keyed scalar, ?_⟩
  intro path file entries decisions token holds
  refine ⟨complete entries decisions token, loadBy_eq_ok holds decisions token, ?_⟩
  intro keys value standard untouched undecided
  have nonempty : keys ≠ [] := by
    rintro rfl
    exact untouched (.inl ⟨_, at?_nil _⟩)
  calc at? keys (.mapping (complete entries decisions token))
      = at? keys (.mapping (overlay standardDocument entries)) :=
        at?_complete undecided standard token nonempty
    _ = at? keys (.mapping standardDocument) :=
        at?_overlay_of_untouched (holds.isKeyed reads) untouched
    _ = some value := standard

/-- A document with a mapping, an empty one, and a truth value for a key. -/
def lowerSample : Entries :=
  [(.text ['a'], .mapping [(.text ['x'], .integer 1), (.text ['y'], .integer 2)]),
    (.text ['b'], .mapping []), (.bool true, .null)]

/-- A document with a mapping over a number, a number over a mapping, and a number for a key, which
is the same key as a truth value. -/
def upperSample : Entries :=
  [(.text ['a'], .mapping [(.text ['x'], .mapping [(.null, .null)])]),
    (.text ['b'], .integer 3), (.integer 1, .text ['c'])]

theorem isKeyed_upperSample : IsKeyed (.mapping upperSample) := by
  simp [upperSample, isKeyed_mapping_iff, DistinctKeys, IsKeyed.integer, IsKeyed.text,
    IsKeyed.null, sameKey, wholeNumber?]

theorem hasScalarKeys_upperSample : HasScalarKeys (.mapping upperSample) := by
  have innermost : HasScalarKeys (.mapping [(.null, .null)] : Value) :=
    .mapping (by decide) (List.forall_mem_singleton.mpr (.leaf (by decide)))
  have inner : HasScalarKeys (.mapping [(.text ['x'], .mapping [(.null, .null)])] : Value) :=
    .mapping (by decide) (List.forall_mem_singleton.mpr innermost)
  refine .mapping (by decide) (List.forall_mem_cons.mpr ⟨inner, List.forall_mem_cons.mpr ⟨?_, ?_⟩⟩)
  · exact .leaf (by decide)
  · exact List.forall_mem_singleton.mpr (.leaf (by decide))

/-- The path of a setting about which the sample file says nothing, though it says something about
its section. -/
def largestDiff : List Value :=
  [.text "context".toList, .text "rollout".toList, .text "max_diff_lines".toList]

/-- Under a key stands a mapping when what stands there is of that kind. -/
theorem exists_lookup?_of_kind {entries : Entries} {key : Value}
    (seen : (lookup? key entries).map kind = some .mapping) :
    ∃ below, lookup? key entries = some (.mapping below) := by
  obtain ⟨value, found, isMapping⟩ := Option.map_eq_some_iff.mp seen
  obtain ⟨below, rfl⟩ := exists_eq_mapping_of_kind isMapping
  exact ⟨below, found⟩

/-- The sample file has the sections of the setting, but not the setting. -/
theorem exists_not_touches_largestDiff :
    ∃ entries, readFileBy readDocument [] partialFile = .ok entries ∧
      ¬Touches standardDocument entries largestDiff := by
  have outcome : (readFileBy readDocument [] partialFile).toOption.map (fun entries =>
      ((lookup? (.text "context".toList) entries).map kind,
        (at? (largestDiff.take 2) (.mapping entries)).map kind,
        (at? largestDiff (.mapping entries)).map kind)) =
      some (some .mapping, some .mapping, none) := by
    decide +kernel
  obtain ⟨entries, isRead, seen⟩ := exists_of_toOption_map outcome
  obtain ⟨seenContext, seen⟩ := Prod.mk.inj seen
  obtain ⟨seenRollout, seenSize⟩ := Prod.mk.inj seen
  obtain ⟨context, isContext⟩ := exists_lookup?_of_kind seenContext
  have rolloutSeen : (lookup? (.text "rollout".toList) context).map kind = some .mapping := by
    rw [← seenRollout, ← at?_singleton, ← at?_cons_of_lookup? isContext]
    rfl
  obtain ⟨rollout, isRollout⟩ := exists_lookup?_of_kind rolloutSeen
  have absent : lookup? (.text "max_diff_lines".toList) rollout = none := by
    rw [largestDiff, at?_cons_of_lookup? isContext, at?_cons_of_lookup? isRollout,
      at?_singleton] at seenSize
    exact Option.map_eq_none_iff.mp seenSize
  have belowContext : lookup? (.text "context".toList) standardDocument =
      some (.mapping (standardContext : Entries)) := rfl
  have belowRollout : lookup? (.text "rollout".toList) standardContext =
      some (.mapping (standardRollout : Entries)) := rfl
  refine ⟨entries, isRead, ?_⟩
  rw [largestDiff, touches_cons_iff belowContext isContext, touches_cons_iff belowRollout isRollout]
  exact not_touches_of_absent absent

/-- Decisions about another setting and, without a value, about the section of the largest diff. -/
def otherDecisions : Entries :=
  [(.text "max_lines_per_chunk".toList, .integer 7), (.text "context".toList, .null)]

theorem overrides_key_by_key_partial :
    ReadsKeyed readDocument ∧ IsKeyed (.mapping upperSample) ∧
      HasScalarKeys (.mapping upperSample) ∧
      Overrides lowerSample upperSample (overlay lowerSample upperSample) ∧
      ∃ entries document, FileHolds readDocument [] (some partialFile) entries ∧
        ¬Touches standardDocument entries largestDiff ∧ ¬Decides otherDecisions largestDiff ∧
        loadBy readDocument [] (some partialFile) otherDecisions none = .ok document ∧
        at? largestDiff (.mapping document) = some (.integer 5000) := by
  refine ⟨readsKeyed_readDocument, isKeyed_upperSample, hasScalarKeys_upperSample,
    (overrides_key_by_key readsKeyed_readDocument).1 _ _ isKeyed_upperSample
      hasScalarKeys_upperSample, ?_⟩
  obtain ⟨entries, holds, untouched⟩ := exists_not_touches_largestDiff
  have undecided : ¬Decides otherDecisions largestDiff := by
    simp [Decides, otherDecisions, largestDiff, sameKey]
  obtain ⟨document, loaded, shows⟩ := (overrides_key_by_key readsKeyed_readDocument).2 []
    (some partialFile) entries otherDecisions none holds
  exact ⟨entries, document, holds, untouched, undecided, loaded,
    shows largestDiff _ rfl untouched undecided⟩

end Settings

end Marginalia
