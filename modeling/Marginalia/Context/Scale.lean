import Marginalia.Number.Shortest

/-!
# Scales of confidence

Confidences are ratios, and all that is done with them is to multiply two, to compare two, and to
write one down.  Whatever offers these operations can serve as the scale; doubles do, with the
nearest double in the place of a ratio.
-/

namespace Marginalia

/-- Numbers that confidences are measured in. -/
class Scale (Amount : Type) where
  /-- The amount of a ratio. -/
  ratio : Nat → Nat → Amount
  /-- The product of two amounts. -/
  times : Amount → Amount → Amount
  /-- Whether an amount does not exceed another one. -/
  atMost : Amount → Amount → Bool
  /-- Whether an amount stays below another one. -/
  below : Amount → Amount → Bool
  /-- An amount in writing. -/
  text : Amount → Text

namespace Scale

/-- Doubles as a scale. -/
instance : Scale Float where
  ratio := Number.nearestQuotient
  times left right := left * right
  atMost := Number.atMost
  below := Number.below
  text := Number.text

/-- Whether an amount lies between nothing and certainty. -/
def isShare {Amount : Type} [Scale Amount] (amount : Amount) : Bool :=
  atMost (ratio 0 1) amount && atMost amount (ratio 1 1)

end Scale

end Marginalia
