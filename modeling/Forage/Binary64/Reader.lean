import Forage.Binary64
import Forage.Text.Whole

/-!
# Numbers from decimal text

A decimal with a point or an exponent is read as a whole number times a power of
ten and rounded once. Its digits may be of any script, with single low lines
between two of them, and blanks may stand around it all.
-/

namespace Forage.Binary64

/-- Decimals beyond this power of ten are infinite, and below its inverse zero. -/
def decimalRange : Int := 400

def ofDecimal (negative : Bool) (coefficient : Nat) (exponent : Int) : Binary64 :=
  let size := exponent + (Nat.toDigits 10 coefficient).length
  if coefficient = 0 || size < -decimalRange then ofCode negative 0
  else if decimalRange < size then infinity negative
  else ofQuotient negative (coefficient * tenTo exponent.toNat) (tenTo (-exponent).toNat)

def digitsValue (digits : List Char) : Nat :=
  digits.foldl (fun sum c => 10 * sum + (c.toNat - '0'.toNat)) 0

/-- The exponent that follows a decimal: none, or a mark, a sign or none, and digits. -/
def readExponent : List Char → Option Int
  | [] => some 0
  | mark :: rest =>
      let (negative, digits) :=
        match rest with
        | '-' :: digits => (true, digits)
        | '+' :: digits => (false, digits)
        | digits => (false, digits)
      if (mark == 'e' || mark == 'E') && !digits.isEmpty && digits.all Char.isDigit then
        let size : Int := digitsValue digits
        some (if negative then -size else size)
      else none

def ofParts (negative : Bool) (whole fraction : List Char) (exponent : Int) : Binary64 :=
  ofDecimal negative (digitsValue (whole ++ fraction)) (exponent - fraction.length)

def readMagnitude (negative : Bool) (chars : List Char) : Option Binary64 :=
  let whole := chars.takeWhile Char.isDigit
  let rest := chars.dropWhile Char.isDigit
  let (fraction, rest) :=
    match rest with
    | '.' :: rest => (rest.takeWhile Char.isDigit, rest.dropWhile Char.isDigit)
    | rest => ([], rest)
  if whole.isEmpty && fraction.isEmpty then none
  else (readExponent rest).map (ofParts negative whole fraction)

def asciiDigit (c : Char) : Char :=
  match Text.digitValue? c with
  | some value => Char.ofNat ('0'.toNat + value)
  | none => c

/-- The characters without their low lines, if each stands between two digits. -/
def withoutLowLines? : List Char → Option (List Char)
  | [] => some []
  | c :: '_' :: next :: rest =>
      if c.isDigit && next.isDigit then (withoutLowLines? (next :: rest)).map (c :: ·) else none
  | c :: rest => if c == '_' then none else (withoutLowLines? rest).map (c :: ·)

def readUnsigned (negative : Bool) (chars : List Char) : Option Binary64 :=
  match String.ofList (chars.map Char.toLower) with
  | "nan" => some (ofCode negative nan.bits.toNat)
  | "inf" | "infinity" => some (infinity negative)
  | _ => (withoutLowLines? chars).bind (readMagnitude negative)

/-- Reads a number: a decimal, an infinity or what is not a number, with a sign or none. -/
def read? (text : String) : Option Binary64 :=
  let chars := (text.toList.dropWhile Text.isNumberBlank).reverse.dropWhile Text.isNumberBlank
  let (negative, chars) := Text.takeSign (chars.reverse.map asciiDigit)
  readUnsigned negative chars

end Forage.Binary64
