import Marginalia.Value.Basic

/-!
# Overlays

One document may be laid over another.  Where both have a mapping, the entries are laid over one
another key by key; anywhere else what lies on top counts.  Keys of the lower document keep their
place, and keys that only the upper one has follow.
-/

namespace Marginalia

namespace Value

variable {Foreign : Type} [Scalar Foreign]

mutual

/-- Lay a value over what may be below it. -/
def laidOver (below : Option (Value Foreign)) : Value Foreign → Value Foreign
  | .mapping upper =>
      match below with
      | some (.mapping lower) => .mapping (overlay lower upper)
      | _ => .mapping upper
  | value => value

/-- Lay entries over others. -/
def overlay (lower : Entries Foreign) : Entries Foreign → Entries Foreign
  | [] => lower
  | (key, value) :: upper => overlay (put key (laidOver (lookup? key lower) value) lower) upper

end

@[simp]
theorem overlay_nil (lower : Entries Foreign) : overlay lower [] = lower := by
  simp [overlay]

@[simp]
theorem overlay_cons (lower : Entries Foreign) (key value : Value Foreign)
    (upper : Entries Foreign) :
    overlay lower ((key, value) :: upper) =
      overlay (put key (laidOver (lookup? key lower) value) lower) upper := by
  simp [overlay]

end Value

end Marginalia
