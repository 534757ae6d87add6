import Forage.Power

/-!
# Double-precision numbers

A number of the 64-bit binary interchange format, kept as its bits. What a number
stands for is read off the bits as a sign, a mantissa and a power of two, and a
quotient of whole numbers is rounded to the nearest number, a tie to the even
mantissa. All arithmetic is on whole numbers, so nothing is lost on the way.
-/

namespace Forage

/-- The bits: a sign, eleven bits of exponent, fifty-two of fraction. -/
structure Binary64 where
  bits : UInt64
deriving DecidableEq, Repr, Inhabited

namespace Binary64

/-- What the bits stand for: a finite number is the mantissa times a power of two. -/
inductive Form where
  | nan
  | infinite (negative : Bool)
  | finite (negative : Bool) (mantissa : Nat) (exponent : Int)
deriving DecidableEq, Repr

def leadingBit : Nat := 0x10000000000000

/-- The code of the sign of a negative number. -/
def signCode : Nat := 0x8000000000000000

/-- The power of two that the smallest positive number stands for. -/
def leastExponent : Int := -1074

/-- The first code that no finite number has, the sign apart. -/
def infinityCode : Nat := 0x7ff0000000000000

def nan : Binary64 := ⟨0x7ff8000000000000⟩

def ofCode (negative : Bool) (code : Nat) : Binary64 :=
  ⟨(code + if negative then signCode else 0).toUInt64⟩

def infinity (negative : Bool) : Binary64 :=
  ofCode negative infinityCode

def form (number : Binary64) : Form :=
  let code := number.bits.toNat
  let negative := decide (signCode ≤ code)
  let exponent : Nat := code / leadingBit % 0x800
  let fraction : Nat := code % leadingBit
  if exponent = 0x7ff then
    if fraction = 0 then .infinite negative else .nan
  else if exponent = 0 then .finite negative fraction leastExponent
  else .finite negative (leadingBit + fraction) (exponent + leastExponent - 1)

/-- The whole number nearest a quotient, a tie going to the even one. -/
def roundQuotient (numerator denominator : Nat) : Nat :=
  let quotient := numerator / denominator
  let rest := numerator % denominator
  if denominator < 2 * rest || (2 * rest == denominator && quotient % 2 == 1) then quotient + 1
  else quotient

def scaled (mantissa : Nat) (exponent : Int) : Nat × Nat :=
  if 0 ≤ exponent then (mantissa * twoTo exponent.toNat, 1)
  else (mantissa, twoTo (-exponent).toNat)

/--
The exponent at which a positive quotient has a full mantissa, or the least
exponent if that is larger.
-/
def exponentFor (numerator denominator : Nat) : Int :=
  let lengths : Int := (bitLength numerator : Int) - bitLength denominator
  let (above, below) := scaled denominator lengths
  let exact := if above ≤ numerator * below then lengths - 52 else lengths - 53
  max exact leastExponent

/-- The code of the number nearest a quotient; a code of infinity or more is too large. -/
def codeOfQuotient (numerator denominator : Nat) : Nat :=
  if numerator = 0 then 0
  else
    let exponent := exponentFor numerator denominator
    let mantissa :=
      if 0 ≤ exponent then roundQuotient numerator (denominator * twoTo exponent.toNat)
      else roundQuotient (numerator * twoTo (-exponent).toNat) denominator
    (exponent - leastExponent).toNat * leadingBit + mantissa

def ofQuotient (negative : Bool) (numerator denominator : Nat) : Binary64 :=
  ofCode negative (min (codeOfQuotient numerator denominator) infinityCode)

/-- The number nearest `numerator / denominator`, or nothing when that is too large. -/
def quotient? (numerator : Int) (denominator : Nat) : Option Binary64 :=
  let code := codeOfQuotient numerator.natAbs denominator
  if code < infinityCode then some (ofCode (numerator < 0) code) else none

def scale (factor : Nat) (number : Binary64) : Binary64 :=
  match number.form with
  | .finite negative mantissa exponent =>
      let (numerator, denominator) := scaled (factor * mantissa) exponent
      ofQuotient negative numerator denominator
  | .infinite negative => infinity negative
  | .nan => nan

def maxNonnegative (a b : Binary64) : Binary64 :=
  if a.bits < b.bits then b else a

def isZero (number : Binary64) : Bool :=
  match number.form with
  | .finite _ 0 _ => true
  | _ => false

inductive TruncateError where
  | notANumber
  | infinite
deriving DecidableEq, Repr

def truncate (number : Binary64) : Except TruncateError Int :=
  match number.form with
  | .nan => .error .notANumber
  | .infinite _ => .error .infinite
  | .finite negative mantissa exponent =>
      let (numerator, denominator) := scaled mantissa exponent
      let whole : Nat := numerator / denominator
      .ok (if negative then -(whole : Int) else whole)

def isWhole (number : Binary64) : Bool :=
  match number.form with
  | .finite _ mantissa exponent =>
      let (numerator, denominator) := scaled mantissa exponent
      numerator % denominator == 0
  | _ => false

/-- Whether the number is less than a whole number; what is not a number is not. -/
def isBelow (number : Binary64) (bound : Int) : Bool :=
  match number.form with
  | .nan => false
  | .infinite negative => negative
  | .finite negative mantissa exponent =>
      let (numerator, denominator) := scaled mantissa exponent
      let size : Int := numerator
      decide ((if negative then -size else size) < bound * denominator)

def isPositive (number : Binary64) : Bool :=
  match number.form with
  | .nan => false
  | .infinite negative => !negative
  | .finite negative mantissa _ => !negative && mantissa != 0

/-- Whether a whole number is a multiple of the number; of an infinity only zero is. -/
def divides (number : Binary64) (value : Int) : Bool :=
  match number.form with
  | .nan => false
  | .infinite _ => value == 0
  | .finite _ mantissa exponent =>
      let (numerator, denominator) := scaled mantissa exponent
      value * denominator % numerator == 0

end Binary64

end Forage
