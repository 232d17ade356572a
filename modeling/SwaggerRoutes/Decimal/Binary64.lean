/-
Floating-point numbers of 64 bits, as exact dyadic rationals. Every operation is the exact one
followed by one rounding to the nearest number of the format, a tie going to the even neighbour, so
that a reader of decimals is correctly rounded by construction.
-/

namespace SwaggerRoutes

/-- A finite number of the format: `significand * 2 ^ exponent` with a sign. The numbers built here
have a significand below `2 ^ 53`, and one of at least `2 ^ 52` unless the exponent is `-1074`. -/
structure Binary64 where
  negative : Bool
  significand : Nat
  exponent : Int
deriving DecidableEq, Repr

namespace Binary64

/-- The quotient rounded to the nearest whole number, a half to the even neighbour. -/
def roundHalfEven (num den : Nat) : Nat :=
  let quotient := num / den
  let twice := 2 * (num % den)
  if den < twice || (den == twice && quotient % 2 == 1) then quotient + 1 else quotient

/-- Numerator and denominator of `num / den / 2 ^ exponent`. -/
def scaled (num den : Nat) (exponent : Int) : Nat × Nat :=
  if 0 ≤ exponent then (num, den * Nat.pow 2 exponent.toNat)
  else (num * Nat.pow 2 (-exponent).toNat, den)

/-- The number of the format nearest to `num / den`, or `none` if that is beyond the largest. -/
def nearest? (negative : Bool) (num den : Nat) : Option Binary64 :=
  if num = 0 then some ⟨negative, 0, -1074⟩
  else
    let low := max ((num.log2 : Int) - den.log2 - 53) (-1074)
    let atLow := scaled num den low
    let exponent := if 0x20000000000000 ≤ atLow.1 / atLow.2 then low + 1 else low
    let ratio := scaled num den exponent
    let rounded := roundHalfEven ratio.1 ratio.2
    let carried := if rounded = 0x20000000000000 then (0x10000000000000, exponent + 1)
      else (rounded, exponent)
    if 971 < carried.2 then none else some ⟨negative, carried.1, carried.2⟩

/-- The magnitude as a quotient of natural numbers. -/
def ratio (x : Binary64) : Nat × Nat := scaled x.significand 1 (-x.exponent)

/-- Whether the number is zero of either sign. -/
def isZero (x : Binary64) : Bool := x.significand == 0

/-- The product, rounded; `none` if it is beyond the largest number. -/
def mul? (x y : Binary64) : Option Binary64 :=
  nearest? (x.negative != y.negative) (x.ratio.1 * y.ratio.1) (x.ratio.2 * y.ratio.2)

/-- The quotient by a number that is not zero, rounded. -/
def div? (x y : Binary64) : Option Binary64 :=
  nearest? (x.negative != y.negative) (x.ratio.1 * y.ratio.2) (x.ratio.2 * y.ratio.1)

/-- The number nearest to `digits * 10 ^ exponent`. The exponent is looked at first, so that no
power is computed for a number that is certainly too large or certainly rounds to zero. -/
def ofDecimal? (negative : Bool) (digits : Nat) (exponent : Int) : Option Binary64 :=
  let size := (Nat.toDigits 10 digits).length
  if digits = 0 then nearest? negative 0 1
  else if 310 < size + exponent then none
  else if size + exponent < -330 then nearest? negative 0 1
  else if 0 ≤ exponent then nearest? negative (digits * Nat.pow 10 exponent.toNat) 1
  else nearest? negative digits (Nat.pow 10 (-exponent).toNat)

end Binary64

end SwaggerRoutes
