import Forage.Text.Blank
import Forage.Text.Digit

/-!
# Whole numbers in text

A whole number is a sign or none, then decimal digits of any script with single
low lines between them, with blanks around it all. The ASCII separators, blank
elsewhere, are not blank here. Too many digits are neither read nor written; how many
are too many to be written is for the interpreter to say, and there may be no such limit.
-/

namespace Forage.Text

inductive WholeError where
  | malformed
  | tooManyDigits (count : Nat)
deriving DecidableEq, Repr

def digitLimit : Nat := 4300

/-- A whole number has no more digits than a limit allows, if there is one. -/
def IsWithin (limit : Option Nat) (value : Int) : Prop :=
  ∀ most ∈ limit, (Nat.toDigits 10 value.natAbs).length ≤ most

instance (limit : Option Nat) (value : Int) : Decidable (IsWithin limit value) :=
  match limit with
  | none => isTrue nofun
  | some most =>
      decidable_of_iff ((Nat.toDigits 10 value.natAbs).length ≤ most) (by simp [IsWithin])

/-- A whole number has no more digits than can be written. -/
def IsShort (value : Int) : Prop :=
  IsWithin (some digitLimit) value

instance (value : Int) : Decidable (IsShort value) :=
  inferInstanceAs (Decidable (IsWithin _ _))

/-- A whole number in decimal digits, if it has not too many of them. -/
def decimal? (limit : Option Nat) (value : Int) : Option String :=
  if IsWithin limit value then some (toString value) else none

def isNumberBlank (c : Char) : Bool :=
  isBlank c && !(0x1c ≤ c.toNat && c.toNat ≤ 0x1f)

def isNumeral (c : Char) : Bool :=
  isDecimalDigit c || c == '_'

/-- The values of the digits, if every low line stands between two of them. -/
def digitValues? : List Char → Option (List Nat)
  | [] => some []
  | c :: rest =>
      match digitValue? c, rest with
      | none, _ => none
      | some value, '_' :: next :: rest =>
          if next == '_' then none else (digitValues? (next :: rest)).map (value :: ·)
      | some value, rest => (digitValues? rest).map (value :: ·)

def ofDecimals (digits : List Nat) : Nat :=
  digits.foldl (fun sum digit => 10 * sum + digit) 0

def takeSign : List Char → Bool × List Char
  | '-' :: rest => (true, rest)
  | '+' :: rest => (false, rest)
  | chars => (false, chars)

def readWhole (chars : List Char) : Except WholeError Int :=
  let (negative, chars) := takeSign (chars.dropWhile isNumberBlank)
  let rest := chars.dropWhile isNumeral
  match digitValues? (chars.takeWhile isNumeral) with
  | none | some [] => .error .malformed
  | some digits =>
      if digitLimit < digits.length then .error (.tooManyDigits digits.length)
      else if rest.all isNumberBlank then
        .ok (if negative then -(ofDecimals digits : Int) else ofDecimals digits)
      else .error .malformed

end Forage.Text
