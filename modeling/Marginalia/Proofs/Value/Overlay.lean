import Marginalia.Proofs.Value.Keyed
import Marginalia.Value.Overlay

/-!
# What is found in an overlay

Under a key that only one of two documents has, an overlay has what that one has; where both have
it, the upper value is laid over the lower one.
-/

namespace Marginalia

namespace Value

variable {Foreign : Type} [Scalar Foreign]

@[simp]
theorem laidOver_mapping_mapping (lower upper : Entries Foreign) :
    laidOver (some (.mapping lower)) (.mapping upper) = .mapping (overlay lower upper) := by
  simp [laidOver]

@[simp]
theorem laidOver_none (value : Value Foreign) : laidOver none value = value := by
  cases value <;> simp [laidOver]

/-- What is no mapping counts as it stands. -/
theorem laidOver_of_upper {value : Value Foreign} (flat : ∀ entries, value ≠ .mapping entries)
    (below : Option (Value Foreign)) : laidOver below value = value := by
  cases value with
  | mapping entries => exact absurd rfl (flat entries)
  | _ => simp [laidOver]

/-- Over what is no mapping, any value counts as it stands. -/
theorem laidOver_of_below {below : Value Foreign} (flat : ∀ entries, below ≠ .mapping entries)
    (value : Value Foreign) : laidOver (some below) value = value := by
  cases value with
  | mapping upper =>
      cases below with
      | mapping lower => exact absurd rfl (flat lower)
      | _ => simp [laidOver]
  | _ => simp [laidOver]

/-- A mapping over a mapping is an overlay; anything else counts as it stands. -/
theorem laidOver_cases (below : Option (Value Foreign)) (value : Value Foreign) :
    (∃ lower upper, below = some (.mapping lower) ∧ value = .mapping upper) ∨
      laidOver below value = value := by
  cases value with
  | mapping upper =>
      cases below with
      | none => exact .inr (laidOver_none _)
      | some lower =>
          cases lower with
          | mapping lower => exact .inl ⟨lower, upper, rfl, rfl⟩
          | _ => exact .inr (laidOver_of_below (by simp) _)
  | _ => exact .inr (laidOver_of_upper (by simp) _)

/-- What the upper document does not have is found as it lies below. -/
theorem lookup?_overlay_of_none {key : Value Foreign} {lower upper : Entries Foreign}
    (absent : lookup? key upper = none) :
    lookup? key (overlay lower upper) = lookup? key lower := by
  induction upper generalizing lower with
  | nil => rw [overlay_nil]
  | cons entry upper induct =>
      obtain ⟨present, value⟩ := entry
      rw [lookup?_cons] at absent
      split at absent
      · contradiction
      · rename_i other
        rw [overlay_cons, induct absent, lookup?_put, if_neg other]

/-- What the upper document has is found, laid over what lies below. -/
theorem lookup?_overlay_of_some {key value : Value Foreign} {lower upper : Entries Foreign}
    (distinct : DistinctKeys upper) (present : lookup? key upper = some value) :
    lookup? key (overlay lower upper) = some (laidOver (lookup? key lower) value) := by
  induction upper generalizing lower with
  | nil => contradiction
  | cons entry upper induct =>
      obtain ⟨first, other⟩ := entry
      rw [lookup?_cons] at present
      rw [overlay_cons]
      split at present
      · rename_i same
        obtain rfl := Option.some.inj present
        have absent : lookup? key upper = none :=
          lookup?_congr same upper ▸ distinct.lookup?_eq_none
        rw [lookup?_overlay_of_none absent, lookup?_put, if_pos same, lookup?_congr same]
      · rename_i different
        rw [induct (List.pairwise_cons.mp distinct).2 present, lookup?_put, if_neg different]

/-- What the upper document does not have under a name is found as it lies below. -/
theorem field?_overlay_of_none {name : Text} {lower upper : Entries Foreign}
    (absent : field? name upper = none) :
    field? name (overlay lower upper) = field? name lower :=
  lookup?_overlay_of_none absent

/-- What the upper document has under a name is found, laid over what lies below. -/
theorem field?_overlay_of_some {name : Text} {value : Value Foreign} {lower upper : Entries Foreign}
    (distinct : DistinctKeys upper) (present : field? name upper = some value) :
    field? name (overlay lower upper) = some (laidOver (field? name lower) value) :=
  lookup?_overlay_of_some distinct present

/-- Over what is no mapping, the upper document decides where it has something. -/
theorem field?_overlay_of_flat {name : Text} {below : Value Foreign} {lower upper : Entries Foreign}
    (distinct : DistinctKeys upper) (isBelow : field? name lower = some below)
    (flat : ∀ entries, below ≠ .mapping entries) :
    field? name (overlay lower upper) = some ((field? name upper).getD below) := by
  cases present : field? name upper with
  | none => rw [field?_overlay_of_none present, isBelow, Option.getD_none]
  | some value =>
      rw [field?_overlay_of_some distinct present, isBelow, laidOver_of_below flat,
        Option.getD_some]

end Value

end Marginalia
