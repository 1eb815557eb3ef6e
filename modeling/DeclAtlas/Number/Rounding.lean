/-!
# Rounding

Quotients of natural numbers rounded to whole numbers and to binary fractions, a half always going
to the even neighbour.
-/

namespace DeclAtlas.Number

/-- The natural number nearest to `num / den`; a half goes to the even neighbour. -/
def roundDiv (num den : Nat) : Nat :=
  let quotient := num / den
  let rest := num % den
  if 2 * rest < den ∨ (2 * rest = den ∧ quotient % 2 = 0) then quotient else quotient + 1

/-- The number of significant bits of a binary fraction. -/
def precision : Nat := 53

/-- A binary fraction `mantissa / 2 ^ scale`. -/
structure Fraction where
  /-- The numerator. -/
  mantissa : Nat
  /-- The exponent of the denominator. -/
  scale : Nat
  deriving DecidableEq, Repr

/-- The scale at which the quotient `num / den` has `precision` bits in front of the point. -/
def scaleOf (num den : Nat) : Nat :=
  let scale := precision + den.log2 - num.log2
  if den <<< precision ≤ num <<< scale then scale - 1 else scale

/-- The binary fraction of `precision` bits nearest to `num / den`, for a quotient below
`2 ^ precision`. -/
def binaryFraction (num den : Nat) : Fraction :=
  let scale := scaleOf num den
  { mantissa := roundDiv (num <<< scale) den, scale }

end DeclAtlas.Number
