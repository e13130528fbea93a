import Marginalia.Proofs.Value.Overlay
import Marginalia.Proofs.Yaml.Keyed
import Marginalia.Settings.Basic
import Marginalia.Settings.Document

/-!
# Two sets of standard values

What a configuration leaves out is supplied twice: by the standard document, over which it is laid,
and by the readers of settings, which have a standard for every field.  The settings read from a
completed document and those read from the configuration alone are the same, and so are the faults.
-/

namespace Marginalia

namespace Settings

open Value

variable {Foreign : Type} [Scalar Foreign]

/-! ## Fields -/

section

variable (name : String) {lower upper : Entries Foreign} (distinct : DistinctKeys upper)

include distinct

theorem integerField_overlay {standard : Int}
    (below : field? name.toList lower = some (.integer standard)) :
    integerField name standard (overlay lower upper) = integerField name standard upper := by
  have found := field?_overlay_of_flat distinct below (by simp)
  rw [integerField, integerField, found]
  cases field? name.toList upper <;> rfl

theorem decimalField_overlay {standard : Float} {value : Value Foreign}
    (below : field? name.toList lower = some value) (same : value.toDecimal = .ok standard) :
    decimalField name standard (overlay lower upper) = decimalField name standard upper := by
  have flat : ∀ entries, value ≠ .mapping entries := by
    rintro entries rfl
    cases same
  have found := field?_overlay_of_flat distinct below flat
  rw [decimalField, decimalField, found]
  cases field? name.toList upper with
  | none => exact congrArg (Except.mapError Fault.value) same
  | some above => rfl

theorem optionalDecimalField_overlay (below : field? name.toList lower = some .null) :
    optionalDecimalField name (overlay lower upper) = optionalDecimalField name upper := by
  have found := field?_overlay_of_flat distinct below (by simp)
  rw [optionalDecimalField, optionalDecimalField, found]
  cases field? name.toList upper <;> rfl

theorem flagField_overlay {standard : Bool}
    (below : field? name.toList lower = some (.bool standard)) :
    flagField name standard (overlay lower upper) = flagField name standard upper := by
  have found := field?_overlay_of_flat distinct below (by simp)
  rw [flagField, flagField, found]
  cases field? name.toList upper <;> rfl

theorem strategyItems_overlay
    (below : field? "strategies".toList lower =
      some (.list (({} : ContextSettings).strategies.map Value.text))) :
    strategyItems (overlay lower upper) = strategyItems upper := by
  have found := field?_overlay_of_flat distinct below (by simp)
  rw [strategyItems, strategyItems, found]
  cases field? "strategies".toList upper <;> rfl

end

/-! ## Standard decimals

The document writes as decimals, or as a whole number, what the readers take as quotients. -/

theorem standard_high : (Thresholds.standard : Thresholds Float).high = 0.7 := by
  decide

theorem standard_medium : (Thresholds.standard : Thresholds Float).medium = 0.4 := by
  decide

theorem toDecimal_five : (Value.integer 5 : Value Foreign).toDecimal = .ok 5 := by
  have nearest : Number.ofInteger 5 = 5 := by decide
  have finite : Number.isInfinite 5 = false := by decide +kernel
  simp [toDecimal, decimalOfInteger, nearest, finite]

/-! ## Sections -/

/-- A mapping as a section gives its entries, also when it has none. -/
theorem sectionEntries_mapping (entries : Entries Foreign) :
    sectionEntries (some (.mapping entries)) = .ok entries := by
  cases entries <;> rfl

/-- A section over a standard one is read as it is alone, when its entries are. -/
theorem sectionOf_overlay {Result : Type} {name : String}
    {lower upper standard : Entries Foreign}
    {read : Entries Foreign → Except (Fault Foreign) Result} (keyed : IsKeyed (.mapping upper))
    (below : field? name.toList lower = some (.mapping standard))
    (same : ∀ part, IsKeyed (.mapping part) → read (overlay standard part) = read part) :
    sectionOf name (overlay lower upper) >>= read = sectionOf name upper >>= read := by
  have distinct := ((isKeyed_mapping_iff upper).mp keyed).1
  -- A section that is left out is read as one without entries; nothing else than a mapping is laid
  -- over the standard section, so what is read, or refused, is the same on both sides.
  cases found : field? name.toList upper with
  | none =>
      have empty : read standard = read [] := overlay_nil standard ▸ same [] isKeyed_nil
      rw [sectionOf, sectionOf, field?_overlay_of_none found, below, found,
        sectionEntries_mapping]
      exact empty
  | some value =>
      have laid : field? name.toList (overlay lower upper) =
          some (laidOver (some (.mapping standard)) value) :=
        below ▸ field?_overlay_of_some distinct found
      cases value with
      | mapping part =>
          rw [laidOver_mapping_mapping] at laid
          rw [sectionOf, sectionOf, laid, found, sectionEntries_mapping, sectionEntries_mapping]
          exact same part (keyed.of_lookup? found)
      | _ =>
          rw [laidOver_of_upper (by simp)] at laid
          rw [sectionOf, sectionOf, laid, found]

theorem rollout_overlay {part : Entries Foreign} (keyed : IsKeyed (.mapping part)) :
    Rollout.ofEntries (overlay standardRollout part) = Rollout.ofEntries part := by
  have distinct := ((isKeyed_mapping_iff part).mp keyed).1
  have percentage : integerField "percentage" 100 (overlay standardRollout part) =
      integerField "percentage" 100 part := integerField_overlay _ distinct rfl
  have skips : flagField "skip_large_diffs" true (overlay standardRollout part) =
      flagField "skip_large_diffs" true part := flagField_overlay _ distinct rfl
  have size : integerField "max_diff_lines" 5000 (overlay standardRollout part) =
      integerField "max_diff_lines" 5000 part := integerField_overlay _ distinct rfl
  simp only [Rollout.ofEntries, percentage, skips, size]

theorem history_overlay {part : Entries Foreign} (keyed : IsKeyed (.mapping part)) :
    HistorySettings.ofEntries (overlay standardHistory part) = HistorySettings.ofEntries part := by
  have distinct := ((isKeyed_mapping_iff part).mp keyed).1
  have days := integerField_overlay "lookback_days" distinct
    (show field? _ standardHistory = some (.integer 90) from rfl)
  have results := integerField_overlay "max_results" distinct
    (show field? _ standardHistory = some (.integer 100) from rfl)
  have high : decimalField "high_threshold" Thresholds.standard.high
        (overlay standardHistory part) =
      decimalField "high_threshold" Thresholds.standard.high part :=
    decimalField_overlay _ distinct
      (show field? _ standardHistory = some (.decimal 0.7) from rfl)
      (congrArg Except.ok standard_high.symm)
  have medium : decimalField "medium_threshold" Thresholds.standard.medium
        (overlay standardHistory part) =
      decimalField "medium_threshold" Thresholds.standard.medium part :=
    decimalField_overlay _ distinct
      (show field? _ standardHistory = some (.decimal 0.4) from rfl)
      (congrArg Except.ok standard_medium.symm)
  simp only [HistorySettings.ofEntries, days, results, high, medium]

theorem context_overlay {part : Entries Foreign} (keyed : IsKeyed (.mapping part)) :
    ContextSettings.ofEntries (overlay standardContext part) = ContextSettings.ofEntries part := by
  have distinct := ((isKeyed_mapping_iff part).mp keyed).1
  have items : strategyItems (overlay standardContext part) = strategyItems part :=
    strategyItems_overlay distinct rfl
  have enabled := flagField_overlay "enabled" distinct
    (show field? _ standardContext = some (.bool true) from rfl)
  have timeout : decimalField "strategy_timeout_seconds" 5 (overlay standardContext part) =
      decimalField "strategy_timeout_seconds" 5 part :=
    decimalField_overlay _ distinct
      (show field? _ standardContext = some (.integer 5) from rfl) toDecimal_five
  have overall := optionalDecimalField_overlay "overall_timeout_seconds" distinct
    (show field? _ standardContext = some .null from rfl)
  have rollout : sectionOf "rollout" (overlay standardContext part) >>= Rollout.ofEntries =
      sectionOf "rollout" part >>= Rollout.ofEntries :=
    sectionOf_overlay keyed rfl fun _ => rollout_overlay
  have history : sectionOf "history" (overlay standardContext part) >>= HistorySettings.ofEntries =
      sectionOf "history" part >>= HistorySettings.ofEntries :=
    sectionOf_overlay keyed rfl fun _ => history_overlay
  simp only [ContextSettings.ofEntries, items, enabled, timeout, overall, rollout, history]

/-! ## Documents -/

/-- No mapping of a document that a reader gives has a key twice. -/
def ReadsKeyed (reader : Text → Except Refusal (Value Foreign)) : Prop :=
  ∀ text value, reader text = .ok value → value.IsKeyed

/-- The command line reads no key twice. -/
theorem readsKeyed_readDocument : ReadsKeyed readDocument := fun _ _ isRead =>
  Yaml.isKeyed_of_read (mapError_eq_ok_iff.mp isRead)

variable {reader : Text → Except Refusal (Value Foreign)}

/-- A configuration file has no key twice. -/
theorem ReadsKeyed.isKeyed (reads : ReadsKeyed reader) {path : Text} {bytes : List Nat}
    {entries : Entries Foreign} (found : readFileBy reader path bytes = .ok entries) :
    IsKeyed (.mapping entries) := by
  obtain ⟨text, -, rest⟩ := bind_eq_ok_iff.mp found
  obtain ⟨document, isRead, last⟩ := bind_eq_ok_iff.mp rest
  have keyed := reads text document (mapError_eq_ok_iff.mp isRead)
  unfold fileEntries at last
  split at last
  · cases document with
    | mapping present =>
        obtain rfl : present = entries := Except.ok.inj last
        exact keyed
    | _ => cases last
  · obtain rfl : [] = entries := Except.ok.inj last
    exact isKeyed_nil

theorem ofDocument_complete {entries : Entries Foreign} (keyed : IsKeyed (.mapping entries))
    (token : Option Text) :
    ContextSettings.ofDocument (.mapping (complete entries [] token)) =
      ContextSettings.ofDocument (.mapping entries) := by
  have other : (Value.text "github_token".toList : Value Foreign) ≠ .text "context".toList := by
    simp
  have untouched : sectionOf "context" (complete entries [] token) =
      sectionOf "context" (overlay standardDocument entries) := by
    rw [sectionOf, complete, field?_put_of_ne other, sectionOf]
    rfl
  calc ContextSettings.ofDocument (.mapping (complete entries [] token))
      = sectionOf "context" (complete entries [] token) >>= ContextSettings.ofEntries := rfl
    _ = sectionOf "context" (overlay standardDocument entries) >>= ContextSettings.ofEntries := by
        rw [untouched]
    _ = sectionOf "context" entries >>= ContextSettings.ofEntries :=
        sectionOf_overlay keyed rfl fun _ => context_overlay
    _ = ContextSettings.ofDocument (.mapping entries) := rfl

/-- Settings do not depend on which of the two sets of standard values supplies what a configuration
file, or any mapping without repeated keys, leaves out.  This holds whatever scalars documents may
have, and of every reader of them that gives no mapping with a key twice. -/
theorem standards_agree (reads : ReadsKeyed reader) (token : Option Text) :
    (∀ path bytes entries, readFileBy reader path bytes = .ok entries →
      ∃ document, loadBy reader path (some bytes) [] token = .ok document ∧
        ContextSettings.ofDocument (.mapping document) =
          ContextSettings.ofDocument (.mapping entries)) ∧
    ∀ entries : Entries Foreign, IsKeyed (.mapping entries) →
      ContextSettings.ofDocument (.mapping (complete entries [] token)) =
        ContextSettings.ofDocument (.mapping entries) := by
  refine ⟨fun path bytes entries found => ?_, fun entries keyed => ofDocument_complete keyed token⟩
  refine ⟨complete entries [] token, ?_, ofDocument_complete (reads.isKeyed found) token⟩
  rw [loadBy, found]
  rfl

/-- A file with a part of one section, nothing in another, and a key that nobody asks for. -/
def partialFile : List Nat :=
  "context:\n  rollout:\n    percentage: '7'\n  history:\n  1: {}\n".toList.map (·.toNat)

theorem standards_agree_partial :
    ReadsKeyed readDocument ∧ ∃ entries document,
      readFileBy readDocument [] partialFile = .ok entries ∧ IsKeyed (.mapping entries) ∧
      loadBy readDocument [] (some partialFile) [] none = .ok document ∧
      ContextSettings.ofDocument (.mapping document) =
        ContextSettings.ofDocument (.mapping entries) ∧
      ContextSettings.ofDocument (.mapping (complete entries [] none)) =
        ContextSettings.ofDocument (.mapping entries) ∧
      (ContextSettings.ofDocument (.mapping document)).toOption.map (·.rollout.percentage) =
        some 7 := by
  refine ⟨readsKeyed_readDocument, ?_⟩
  have outcome : ((readFileBy readDocument [] partialFile).toOption.bind fun entries =>
      (ContextSettings.ofDocument (.mapping entries)).toOption.map (·.rollout.percentage)) =
        some 7 := by
    decide +kernel
  cases found : readFileBy readDocument [] partialFile with
  | error fault => simp [found, Except.toOption] at outcome
  | ok entries =>
      have keyed := readsKeyed_readDocument.isKeyed found
      obtain ⟨document, loaded, same⟩ :=
        (standards_agree readsKeyed_readDocument none).1 [] partialFile entries found
      have completed := (standards_agree readsKeyed_readDocument none).2 entries keyed
      rw [found] at outcome
      exact ⟨entries, document, rfl, keyed, loaded, same, completed, same ▸ outcome⟩

end Settings

end Marginalia
