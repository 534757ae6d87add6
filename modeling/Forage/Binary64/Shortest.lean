import Forage.Binary64

/-!
# The shortest text of a number

Of all decimals that round to a number, its text has the fewest digits, and of
those the decimal nearest the number. The grid of decimals with a given count of
digits is tried coarse to fine; on each grid only the two neighbours of the
number can be the nearest.
-/

namespace Forage.Binary64

def compareScaled (a : Nat) (k : Int) (b : Nat) (e : Int) : Ordering :=
  compare (a * tenTo k.toNat * twoTo (-e).toNat) (b * twoTo e.toNat * tenTo (-k).toNat)

/-- The decimals that round to a number: the ends, in quarters of its unit, and whether they count. -/
structure Interval where
  low : Nat
  high : Nat
  closed : Bool

/-- The interval of a positive number. Below a power of two the numbers are twice as dense. -/
def interval (mantissa : Nat) (exponent : Int) : Interval :=
  let low :=
    if mantissa = leadingBit && exponent != leastExponent then 4 * mantissa - 1 else 4 * mantissa - 2
  ⟨low, 4 * mantissa + 2, mantissa % 2 == 0⟩

def Interval.holds (range : Interval) (a : Nat) (k e : Int) : Bool :=
  let low := compareScaled a k range.low (e - 2)
  let high := compareScaled a k range.high (e - 2)
  if range.closed then low != .lt && high != .gt else low == .gt && high == .lt

def magnitude (mantissa : Nat) (exponent : Int) : Int :=
  let estimate := ((bitLength mantissa : Int) + exponent) * 30103 / 100000
  let candidates := [estimate - 1, estimate, estimate + 1, estimate + 2]
  (candidates.find? fun k => compareScaled 1 k mantissa exponent == .gt).getD (estimate + 2)

/--
The neighbour on the grid of step `10 ^ k` that rounds to the number, if one does: the nearer
one if both do, and the even one if they are equally near.
-/
def onGrid? (mantissa : Nat) (exponent k : Int) : Option Nat :=
  let range := interval mantissa exponent
  let numerator := mantissa * twoTo exponent.toNat * tenTo (-k).toNat
  let denominator := twoTo (-exponent).toNat * tenTo k.toNat
  let below := numerator / denominator
  let nearest := roundQuotient numerator denominator
  let other := if nearest = below then below + 1 else below
  if range.holds nearest k exponent then some nearest
  else if range.holds other k exponent then some other
  else none

structure Decimal where
  coefficient : Nat
  exponent : Int
deriving DecidableEq, Repr

def mostDigits : Nat := 17

/-- The decimal with the fewest digits that rounds to a positive number. -/
def shortest (mantissa : Nat) (exponent : Int) : Decimal :=
  let size := magnitude mantissa exponent
  let grids := (List.range mostDigits).map fun (count : Nat) => size - (count : Int) - 1
  let found := grids.findSome? fun k => (onGrid? mantissa exponent k).map fun n => Decimal.mk n k
  found.getD ⟨mantissa, exponent⟩

/-- Decimal digits without the zeros at their end; a lone zero stays. -/
def stripZeros (digits : List Char) : List Char :=
  match (digits.reverse.dropWhile (· == '0')).reverse with
  | [] => ['0']
  | digits => digits

structure Layout where
  /-- The exponents of ten that are written without an exponent lie from `least` up. -/
  least : Int
  /-- The exponents of ten that are written without an exponent lie below `limit`. -/
  limit : Int
  exponentDigits : Nat

/-- Numbers from a ten-thousandth up to ten to the sixteenth have no exponent. -/
def layout : Layout := ⟨-4, 16, 2⟩

def positional (digits : List Char) (point : Int) : List Char :=
  if point ≤ 0 then '0' :: '.' :: List.replicate (-point).toNat '0' ++ digits
  else
    let whole := digits.take point.toNat
    let fraction := digits.drop point.toNat
    whole ++ List.replicate (point.toNat - whole.length) '0' ++
      '.' :: (if fraction.isEmpty then ['0'] else fraction)

def scientific (digits : List Char) (exponent : Int) : List Char :=
  let count := (Nat.toDigits 10 exponent.natAbs)
  let padded := List.replicate (layout.exponentDigits - count.length) '0' ++ count
  digits.take 1 ++ (if digits.length ≤ 1 then [] else '.' :: digits.drop 1) ++
    'e' :: (if exponent < 0 then '-' else '+') :: padded

def magnitudeText (mantissa : Nat) (exponent : Int) : List Char :=
  if mantissa = 0 then "0.0".toList
  else
    let decimal := shortest mantissa exponent
    let written := Nat.toDigits 10 decimal.coefficient
    let point := (written.length : Int) + decimal.exponent
    if layout.least ≤ point - 1 && point - 1 < layout.limit then
      positional (stripZeros written) point
    else scientific (stripZeros written) (point - 1)

def text (number : Binary64) : String :=
  match number.form with
  | .nan => "nan"
  | .infinite negative => if negative then "-inf" else "inf"
  | .finite negative mantissa exponent =>
      String.ofList ((if negative then ['-'] else []) ++ magnitudeText mantissa exponent)

end Forage.Binary64
