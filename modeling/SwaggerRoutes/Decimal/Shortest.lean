/-
The decimal text of a 64-bit number. The digits are the fewest that read back as the number, and of
those the nearest to it: for one digit, two digits and so on, the two neighbours of the number on
the grid of decimals with that many digits are compared with the interval of reals that round to
it. All comparisons are exact, in natural numbers.
-/
import SwaggerRoutes.Decimal.Binary64

namespace SwaggerRoutes.Binary64

/-! ## The digits -/

/-- The ends of the interval of reals that round to the number, and the number itself, as
numerators over one common denominator. -/
structure Interval where
  lower : Nat
  middle : Nat
  upper : Nat
  den : Nat
  closed : Bool

/-- The interval of a number other than zero. Its ends belong to it when the significand is even;
below a power of two the spacing is halved, and so is the lower part of the interval. -/
def interval (x : Binary64) : Interval :=
  let gap := if x.significand = 0x10000000000000 ∧ -1074 < x.exponent then 1 else 2
  let unit := scaled 1 4 (-x.exponent)
  { lower := (4 * x.significand - gap) * unit.1
    middle := 4 * x.significand * unit.1
    upper := (4 * x.significand + 2) * unit.1
    den := unit.2
    closed := x.significand % 2 == 0 }

/-- Whether `num / den` lies in the interval. -/
def Interval.contains (i : Interval) (num den : Nat) : Bool :=
  let value := num * i.den
  if i.closed then i.lower * den ≤ value && value ≤ i.upper * den
  else i.lower * den < value && value < i.upper * den

/-- How many digits stand before the decimal point of `num / den`: the least power of ten above it,
counted down from `guess`. -/
def pointAfter (num den : Nat) : (steps : Nat) → (guess : Int) → Int
  | 0, guess => guess
  | steps + 1, guess =>
    let below := guess - 1
    let reaches :=
      if 0 ≤ below then den * Nat.pow 10 below.toNat ≤ num else den ≤ num * Nat.pow 10 (-below).toNat
    if reaches then guess else pointAfter num den steps below

/-- The decimal of `count` digits nearest to the number among those in its interval, as a natural
number and the power of ten it is multiplied with. -/
def onGrid? (i : Interval) (point : Int) (count : Nat) : Option (Nat × Int) :=
  let power := point - count
  let up := if 0 ≤ power then Nat.pow 10 power.toNat else 1
  let down := if 0 ≤ power then 1 else Nat.pow 10 (-power).toNat
  let below := i.middle * down / (i.den * up)
  let above := below + 1
  let hitsBelow := i.contains (below * up) down
  let hitsAbove := i.contains (above * up) down
  let fromBelow := i.middle * down - below * (i.den * up)
  let toAbove := above * (i.den * up) - i.middle * down
  if hitsBelow && hitsAbove then
    if fromBelow < toAbove || (fromBelow == toAbove && below % 2 == 0) then some (below, power)
    else some (above, power)
  else if hitsBelow then some (below, power)
  else if hitsAbove then some (above, power)
  else none

/-- The first grid with a hit, from `count` digits on. -/
def firstGrid (i : Interval) (point : Int) : (steps count : Nat) → Nat × Int
  | 0, count => (onGrid? i point count).getD (0, 0)
  | steps + 1, count =>
    match onGrid? i point count with
    | some decimal => decimal
    | none => firstGrid i point steps (count + 1)

/-- The digits, without zeros at the end, and the place of the decimal point relative to them:
the magnitude is `0.digits * 10 ^ point`. -/
def shortest (x : Binary64) : List Char × Int :=
  if x.significand = 0 then (['0'], 1)
  else
    let i := x.interval
    let guess := (x.significand.log2 + 1 + x.exponent).toNat / 3 + 1
    let point := pointAfter i.middle i.den 400 guess
    let decimal := firstGrid i point 17 1
    let digits := Nat.toDigits 10 decimal.1
    ((digits.reverse.dropWhile (· == '0')).reverse, decimal.2 + digits.length)

/-! ## The layout -/

/-- How a number is laid out: positionally between two places of the point, otherwise with an
exponent. -/
structure Layout where
  firstPoint : Int
  lastPoint : Int

/-- Positional notation from `0.00001` up to below `10000000000000000.0`. -/
def layout : Layout := ⟨-4, 16⟩

/-- The text of a number: in positional notation always with a fraction; otherwise one digit, the
others as a fraction if there are any, and the exponent with its sign. -/
def text (x : Binary64) : List Char :=
  let (digits, point) := x.shortest
  let sign := if x.negative then ['-'] else []
  let size := digits.length
  sign ++
    if layout.firstPoint ≤ point ∧ point ≤ layout.lastPoint then
      if point ≤ 0 then
        ['0', '.'] ++ List.replicate (-point).toNat '0' ++ digits
      else if point < size then
        digits.take point.toNat ++ '.' :: digits.drop point.toNat
      else
        digits ++ List.replicate (point.toNat - size) '0' ++ ['.', '0']
    else
      let fraction := if size ≤ 1 then [] else '.' :: digits.drop 1
      let power := point - 1
      digits.take 1 ++ fraction ++ 'e' :: (if power < 0 then '-' else '+')
        :: Nat.toDigits 10 power.natAbs

end SwaggerRoutes.Binary64
