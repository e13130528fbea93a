import Marginalia.Proofs.Value.Overlay

/-!
# Overlays along paths of keys

A path of keys leads into nested mappings.  An overlay has, at each path, what the upper document
has there if that is no mapping, and what the lower one has if the upper one does not touch the
path; it has no path that neither of them has, and laying the same document over it once more
changes nothing.
-/

namespace Marginalia

namespace Value

variable {Foreign : Type} [Scalar Foreign]

/-! ## Paths of keys -/

/-- The value at a path of keys. -/
def at? : List (Value Foreign) → Value Foreign → Option (Value Foreign)
  | [], value => some value
  | key :: path, .mapping entries => (lookup? key entries).bind (at? path)
  | _ :: _, _ => none

@[simp]
theorem at?_nil (value : Value Foreign) : at? [] value = some value := by
  cases value <;> rfl

theorem at?_cons_mapping (key : Value Foreign) (path : List (Value Foreign))
    (entries : Entries Foreign) :
    at? (key :: path) (.mapping entries) = (lookup? key entries).bind (at? path) := rfl

theorem at?_cons_of_lookup? {key value : Value Foreign} {entries : Entries Foreign}
    (found : lookup? key entries = some value) (path : List (Value Foreign)) :
    at? (key :: path) (.mapping entries) = at? path value := by
  rw [at?_cons_mapping, found, Option.bind_some]

theorem at?_cons_of_absent {key : Value Foreign} {entries : Entries Foreign}
    (absent : lookup? key entries = none) (path : List (Value Foreign)) :
    at? (key :: path) (.mapping entries) = none := by
  rw [at?_cons_mapping, absent, Option.bind_none]

theorem at?_singleton (key : Value Foreign) (entries : Entries Foreign) :
    at? [key] (.mapping entries) = lookup? key entries := by
  rw [at?_cons_mapping]
  cases lookup? key entries <;> simp

theorem ne_mapping_of_kind {value : Value Foreign} (flat : value.kind ≠ .mapping)
    (entries : Entries Foreign) : value ≠ .mapping entries := by
  rintro rfl
  exact flat rfl

theorem exists_eq_mapping_of_kind {value : Value Foreign} (isMapping : value.kind = .mapping) :
    ∃ entries, value = .mapping entries := by
  cases value with
  | mapping entries => exact ⟨entries, rfl⟩
  | _ => contradiction

/-- Whether the upper of two documents touches a path: it has a value there, or somewhere on the way
it has what is no mapping, or a mapping over what is none. -/
def Touches (lower upper : Entries Foreign) (path : List (Value Foreign)) : Prop :=
  (∃ value, at? path (.mapping upper) = some value) ∨
    ∃ front, front ≠ [] ∧ front <+: path ∧ ∃ value, at? front (.mapping upper) = some value ∧
      (value.kind ≠ .mapping ∨
        ∃ below, at? front (.mapping lower) = some below ∧ below.kind ≠ .mapping)

section

variable {key : Value Foreign} {lower upper below above : Entries Foreign}
  {path : List (Value Foreign)}

theorem not_touches_of_absent (absent : lookup? key upper = none) :
    ¬Touches lower upper (key :: path) := by
  rintro (⟨value, found⟩ | ⟨front, nonempty, isFront, value, found, -⟩)
  · rw [at?_cons_of_absent absent] at found
    contradiction
  · obtain ⟨first, rest, rfl⟩ := List.exists_cons_of_ne_nil nonempty
    obtain ⟨rfl, -⟩ := List.cons_prefix_cons.mp isFront
    rw [at?_cons_of_absent absent] at found
    contradiction

/-- A path into a mapping of both documents is touched as its rest is touched inside of them. -/
theorem touches_cons_iff (isBelow : lookup? key lower = some (.mapping below))
    (isAbove : lookup? key upper = some (.mapping above)) :
    Touches lower upper (key :: path) ↔ Touches below above path := by
  simp only [Touches, at?_cons_of_lookup? isAbove]
  refine or_congr_right ⟨?_, ?_⟩
  · rintro ⟨front, nonempty, isFront, value, found, stops⟩
    obtain ⟨first, rest, rfl⟩ := List.exists_cons_of_ne_nil nonempty
    obtain ⟨rfl, isRest⟩ := List.cons_prefix_cons.mp isFront
    rw [at?_cons_of_lookup? isAbove] at found
    rw [at?_cons_of_lookup? isBelow] at stops
    refine ⟨rest, ?_, isRest, value, found, stops⟩
    -- Both documents have a mapping under the key itself, so the path is not touched there.
    rintro rfl
    obtain rfl := Option.some.inj ((at?_nil _).symm.trans found)
    rcases stops with flat | ⟨other, isOther, flat⟩
    · exact flat rfl
    · obtain rfl := Option.some.inj ((at?_nil _).symm.trans isOther)
      exact flat rfl
  · rintro ⟨front, -, isFront, value, found, stops⟩
    refine ⟨key :: front, List.cons_ne_nil key front, List.cons_prefix_cons.mpr ⟨rfl, isFront⟩,
      value, (at?_cons_of_lookup? isAbove front).trans found, ?_⟩
    rwa [at?_cons_of_lookup? isBelow]

end

/-! ## What is found at a path of an overlay -/

variable {lower upper : Entries Foreign} {path : List (Value Foreign)}

/-- A value that is no mapping is found where the upper document has it. -/
theorem at?_laidOver {above found : Value Foreign} (keyed : above.IsKeyed)
    (flat : found.kind ≠ .mapping) (isFound : at? path above = some found)
    (below : Option (Value Foreign)) : at? path (laidOver below above) = some found := by
  induction path generalizing above below with
  | nil =>
      obtain rfl := Option.some.inj ((at?_nil above).symm.trans isFound)
      rw [laidOver_of_upper (ne_mapping_of_kind flat), at?_nil]
  | cons key path induct =>
      rcases laidOver_cases below above with ⟨lower, upper, rfl, rfl⟩ | same
      · rw [at?_cons_mapping, Option.bind_eq_some_iff] at isFound
        obtain ⟨value, present, isFound⟩ := isFound
        have distinct := ((isKeyed_mapping_iff upper).mp keyed).1
        rw [laidOver_mapping_mapping,
          at?_cons_of_lookup? (lookup?_overlay_of_some distinct present)]
        exact induct (keyed.of_lookup? present) isFound _
      · rw [same, isFound]

/-- What an upper document has under the first key of a path that it does not touch is a mapping,
and so is what lies below, if anything does. -/
theorem exists_mapping_of_untouched {key value : Value Foreign}
    (untouched : ¬Touches lower upper (key :: path)) (above : lookup? key upper = some value) :
    (∃ entries, value = .mapping entries) ∧
      ∀ below, lookup? key lower = some below → ∃ entries, below = .mapping entries := by
  have passes : ¬(value.kind ≠ .mapping ∨
      ∃ below, at? [key] (.mapping lower) = some below ∧ below.kind ≠ .mapping) := fun stops =>
    untouched (.inr ⟨[key], List.cons_ne_nil key [],
      List.cons_prefix_cons.mpr ⟨rfl, List.nil_prefix⟩, value,
      (at?_singleton key upper).trans above, stops⟩)
  obtain ⟨isMapping, belowIsMapping⟩ := not_or.mp passes
  refine ⟨exists_eq_mapping_of_kind (not_not.mp isMapping), fun below isBelow => ?_⟩
  exact exists_eq_mapping_of_kind
    (not_not.mp fun flat => belowIsMapping ⟨below, (at?_singleton key lower).trans isBelow, flat⟩)

/-- At a path that the upper document does not touch stands what lies below. -/
theorem at?_overlay_of_untouched (keyed : IsKeyed (.mapping upper))
    (untouched : ¬Touches lower upper path) :
    at? path (.mapping (overlay lower upper)) = at? path (.mapping lower) := by
  induction path generalizing lower upper with
  | nil => exact absurd (.inl ⟨_, at?_nil _⟩) untouched
  | cons key path induct =>
      have distinct := ((isKeyed_mapping_iff upper).mp keyed).1
      cases above : lookup? key upper with
      | none => rw [at?_cons_mapping, lookup?_overlay_of_none above, at?_cons_mapping]
      | some value =>
          obtain ⟨⟨entries, rfl⟩, mappingBelow⟩ := exists_mapping_of_untouched untouched above
          rw [at?_cons_of_lookup? (lookup?_overlay_of_some distinct above)]
          -- The upper mapping lies over another one, into which the path goes on, or over nothing,
          -- and then there is nothing at the path in either document.
          cases isBelow : lookup? key lower with
          | some below =>
              obtain ⟨others, rfl⟩ := mappingBelow below isBelow
              rw [laidOver_mapping_mapping, at?_cons_of_lookup? isBelow]
              exact induct (keyed.of_lookup? above)
                (mt (touches_cons_iff isBelow above).mpr untouched)
          | none =>
              rw [laidOver_none, at?_cons_of_absent isBelow, ← at?_cons_of_lookup? above]
              exact Option.eq_none_iff_forall_ne_some.mpr fun value found =>
                untouched (.inl ⟨value, found⟩)

/-- What stands at a path stands there in one of the documents, unless it is a mapping that both of
them have there, the one laid over the other. -/
theorem at?_overlay_cases {value : Value Foreign} (keyed : IsKeyed (.mapping upper))
    (isFound : at? path (.mapping (overlay lower upper)) = some value) :
    at? path (.mapping lower) = some value ∨ at? path (.mapping upper) = some value ∨
      ∃ below above, at? path (.mapping lower) = some (.mapping below) ∧
        at? path (.mapping upper) = some (.mapping above) ∧
        value = .mapping (overlay below above) := by
  induction path generalizing lower upper with
  | nil =>
      obtain rfl := Option.some.inj ((at?_nil _).symm.trans isFound)
      exact .inr (.inr ⟨lower, upper, at?_nil _, at?_nil _, rfl⟩)
  | cons key path induct =>
      have distinct := ((isKeyed_mapping_iff upper).mp keyed).1
      cases above : lookup? key upper with
      | none =>
          rw [at?_cons_mapping, lookup?_overlay_of_none above, ← at?_cons_mapping] at isFound
          exact .inl isFound
      | some entry =>
          rw [at?_cons_of_lookup? (lookup?_overlay_of_some distinct above)] at isFound
          rw [at?_cons_of_lookup? above]
          rcases laidOver_cases (lookup? key lower) entry with ⟨others, entries, below, rfl⟩ | same
          · rw [below, laidOver_mapping_mapping] at isFound
            rw [at?_cons_of_lookup? below]
            exact induct (keyed.of_lookup? above) isFound
          · rw [same] at isFound
            exact .inr (.inl isFound)

/-! ## The same document once more -/

/-- A value of whose nested mappings every key is a scalar; what is no mapping is a leaf. -/
inductive HasScalarKeys : Value Foreign → Prop where
  | leaf {value : Value Foreign} (flat : value.kind ≠ .mapping) : HasScalarKeys value
  | mapping {entries : Entries Foreign}
      (scalar : ∀ entry ∈ entries, entry.1.sameKey entry.1 = true)
      (nested : ∀ entry ∈ entries, HasScalarKeys entry.2) : HasScalarKeys (.mapping entries)

/-- Entries that change nothing, each where its key stands, change nothing together. -/
theorem overlay_eq_self {entries : Entries Foreign}
    (settled : ∀ entry ∈ upper, ∃ value, lookup? entry.1 entries = some value ∧
      laidOver (some value) entry.2 = value) :
    overlay entries upper = entries := by
  induction upper with
  | nil => exact overlay_nil entries
  | cons entry upper induct =>
      obtain ⟨⟨value, found, same⟩, others⟩ := List.forall_mem_cons.mp settled
      rw [overlay_cons, found, same, put_of_lookup? found, induct others]

/-- Laying a value over what it was laid over already changes nothing. -/
theorem laidOver_laidOver {value : Value Foreign} (keyed : value.IsKeyed)
    (scalar : value.HasScalarKeys) (below : Option (Value Foreign)) :
    laidOver (some (laidOver below value)) value = laidOver below value := by
  induction scalar generalizing below with
  | leaf flat =>
      have stays := laidOver_of_upper (ne_mapping_of_kind flat)
      rw [stays, stays]
  | @mapping entries scalar nested induct =>
      obtain ⟨distinct, keyed⟩ := (isKeyed_mapping_iff entries).mp keyed
      have found {entry : Value Foreign × Value Foreign} (isEntry : entry ∈ entries) :
          lookup? entry.1 entries = some entry.2 :=
        distinct.lookup?_of_mem (scalar entry isEntry) isEntry
      rcases laidOver_cases below (.mapping entries) with ⟨lower, upper, rfl, isUpper⟩ | same
      · have again : overlay (overlay lower entries) entries = overlay lower entries :=
          overlay_eq_self fun entry isEntry =>
            ⟨_, lookup?_overlay_of_some distinct (found isEntry),
              induct entry isEntry (keyed entry isEntry) _⟩
        rw [laidOver_mapping_mapping, laidOver_mapping_mapping, again]
      · have overItself : overlay entries entries = entries :=
          overlay_eq_self fun entry isEntry =>
            ⟨_, found isEntry, by simpa using induct entry isEntry (keyed entry isEntry) none⟩
        rw [same, laidOver_mapping_mapping, overItself]

theorem overlay_overlay (keyed : IsKeyed (.mapping upper))
    (scalar : HasScalarKeys (.mapping upper)) :
    overlay (overlay lower upper) upper = overlay lower upper := by
  simpa using laidOver_laidOver keyed scalar (some (.mapping lower))

/-- What one document has where another one is laid over it: the upper one counts key by key, and
nothing else changes. -/
structure Overrides (lower upper result : Entries Foreign) : Prop where
  /-- What the upper document has is found where it has it, if it is no mapping. -/
  decided : ∀ path value, value.kind ≠ .mapping → at? path (.mapping upper) = some value →
    at? path (.mapping result) = some value
  /-- At a path that the upper document does not touch stands what stands there below. -/
  kept : ∀ path, ¬Touches lower upper path →
    at? path (.mapping result) = at? path (.mapping lower)
  /-- What is found at a path stands there in one of the documents, or it is a mapping that both
  have there, the one laid over the other. -/
  origin : ∀ path value, at? path (.mapping result) = some value →
    at? path (.mapping lower) = some value ∨ at? path (.mapping upper) = some value ∨
      ∃ below above, at? path (.mapping lower) = some (.mapping below) ∧
        at? path (.mapping upper) = some (.mapping above) ∧ value = .mapping (overlay below above)
  /-- Laying the upper document over the result changes nothing. -/
  settled : overlay result upper = result

/-- An overlay overrides the lower document with the upper one. -/
theorem overrides_overlay (lower : Entries Foreign) (keyed : IsKeyed (.mapping upper))
    (scalar : HasScalarKeys (.mapping upper)) : Overrides lower upper (overlay lower upper) where
  decided path value flat isFound := by
    simpa using at?_laidOver keyed flat isFound (some (.mapping lower))
  kept path := at?_overlay_of_untouched keyed
  origin path value := at?_overlay_cases keyed
  settled := overlay_overlay keyed scalar

end Value

end Marginalia
