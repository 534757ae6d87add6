import Forage.Binary64.Reader
import Forage.Datum
import Forage.Fault
import Forage.Text.Hexadecimal
import Forage.Text.Point
import Forage.Text.Whole

/-!
# Reading documents

A document is read as JSON: one value with nothing but white space around it.
Numbers may also be the names of an infinity and of what is not a number, and of
two fields with one name the later value counts, in the place of the earlier one.
What is wrong with a document is said together with the place where it is wrong. A
document may be nested only so deeply.
-/

namespace Forage.Json

inductive Complaint where
  | value
  | fieldName
  | colon
  | comma
  | control
  | unterminated
  | escape
  | unicodeEscape
  | extra
  | byteOrderMark
deriving DecidableEq, Repr

def Complaint.wording : Complaint → String
  | value => "Expecting value"
  | fieldName => "Expecting property name enclosed in double quotes"
  | colon => "Expecting ':' delimiter"
  | comma => "Expecting ',' delimiter"
  | control => "Invalid control character at"
  | unterminated => "Unterminated string starting at"
  | escape => "Invalid \\escape"
  | unicodeEscape => "Invalid \\uXXXX escape"
  | extra => "Extra data"
  | byteOrderMark => "Unexpected UTF-8 BOM (decode using utf-8-sig)"

inductive Defect where
  /-- Something is wrong where only the given characters are left. -/
  | complaint (complaint : Complaint) (left : List Char)
  | tooManyDigits (count : Nat)
  | tooDeep
deriving DecidableEq, Repr

abbrev Parsed (α : Type) : Type := Except Defect (α × List Char)

def fail {α : Type} (complaint : Complaint) (left : List Char) : Parsed α :=
  .error (.complaint complaint left)

def isSpace (c : Char) : Bool :=
  c == ' ' || c == '\t' || c == '\n' || c == '\r'

def skipSpaces (chars : List Char) : List Char :=
  chars.dropWhile isSpace

def after? (front : String) (chars : List Char) : Option (List Char) :=
  if front.toList.isPrefixOf chars then some (chars.drop front.length) else none

/-- The digits of the whole part: a zero alone, or digits that do not begin with one. -/
def wholePart (chars : List Char) : List Char :=
  match chars with
  | '0' :: _ => ['0']
  | chars => chars.takeWhile Char.isDigit

def fractionPart : List Char → List Char
  | '.' :: chars => chars.takeWhile Char.isDigit
  | _ => []

def exponentPart : List Char → List Char
  | [] => []
  | mark :: chars =>
      let sign := match chars with
        | '+' :: _ => ['+']
        | '-' :: _ => ['-']
        | _ => []
      let digits := (chars.drop sign.length).takeWhile Char.isDigit
      if (mark == 'e' || mark == 'E') && !digits.isEmpty then mark :: sign ++ digits else []

/-- Reads a number without its sign; `start` is where the number begins. -/
def readMagnitude (negative : Bool) (start chars : List Char) : Parsed Datum :=
  let whole := wholePart chars
  let rest := chars.drop whole.length
  let fraction := fractionPart rest
  let rest := if fraction.isEmpty then rest else rest.drop (fraction.length + 1)
  let exponent := exponentPart rest
  let rest := rest.drop exponent.length
  if whole.isEmpty then fail .value start
  else if fraction.isEmpty && exponent.isEmpty then
    if Text.digitLimit < whole.length then .error (.tooManyDigits whole.length)
    else
      let size : Int := Binary64.digitsValue whole
      .ok (.whole (if negative then -size else size), rest)
  else
    let power := (Binary64.readExponent exponent).getD 0
    .ok (.real (Binary64.ofParts negative whole fraction power), rest)

def readNumber (chars : List Char) : Parsed Datum :=
  match chars with
  | '-' :: rest => readMagnitude true chars rest
  | _ => readMagnitude false chars chars

def names : List (String × Datum) :=
  [("null", .null), ("true", .truth true), ("false", .truth false), ("NaN", .real .nan),
    ("Infinity", .real (.infinity false)), ("-Infinity", .real (.infinity true))]

def readScalar (chars : List Char) : Parsed Datum :=
  match names.findSome? fun name => (after? name.1 chars).map fun rest => (name.2, rest) with
  | some result => .ok result
  | none => readNumber chars

def hexFour? : List Char → Option Nat
  | [a, b, c, d] => do
      return 0x1000 * (← Text.hexValue? a) + 0x100 * (← Text.hexValue? b) + 0x10 * (← Text.hexValue? c) +
        (← Text.hexValue? d)
  | _ => none

def isHigh (unit : Nat) : Bool :=
  0xd800 ≤ unit && unit < 0xdc00

def isLow (unit : Nat) : Bool :=
  0xdc00 ≤ unit && unit < 0xe000

def ofUnit (unit : Nat) : Text.Point :=
  (Text.Point.half? unit).getD (.char (Char.ofNat unit))

def ofPair (high low : Nat) : Text.Point :=
  .char (Char.ofNat (0x10000 + (high - 0xd800) * 0x400 + (low - 0xdc00)))

/--
Reads the code point after a backslash and a `u`; `mark` is where that `u` stands. The first half
of a pair takes the second with it when that is escaped too and the text goes on after it.
-/
def readUnit (mark chars : List Char) : Parsed Text.Point :=
  match hexFour? (chars.take 4), chars.drop 4 with
  | none, _ | _, [] => fail .unicodeEscape mark
  | some unit, rest =>
      match isHigh unit, rest with
      | true, '\\' :: 'u' :: next =>
          if next.length ≤ 4 then .ok (ofUnit unit, rest)
          else
            match hexFour? (next.take 4) with
            | none => fail .unicodeEscape ('u' :: next)
            | some low =>
                if isLow low then .ok (ofPair unit low, next.drop 4)
                else .ok (ofUnit unit, rest)
      | _, _ => .ok (ofUnit unit, rest)

def simpleEscape? : Char → Option Char
  | '"' => some '"'
  | '\\' => some '\\'
  | '/' => some '/'
  | 'b' => some '\x08'
  | 'f' => some '\x0c'
  | 'n' => some '\n'
  | 'r' => some '\r'
  | 't' => some '\t'
  | _ => none

/--
Reads a text up to its closing quote; `start` is where the text begins, and `done` holds what was
read of it, the last code point first.
-/
def readText (start : List Char) :
    (fuel : Nat) → (done : List Text.Point) → List Char → Parsed String
  | 0, _, _ | _, _, [] | _, _, ['\\'] => fail .unterminated start
  | _ + 1, done, '"' :: rest => .ok (Text.ofPoints done.reverse, rest)
  | fuel + 1, done, '\\' :: 'u' :: rest =>
      match readUnit ('u' :: rest) rest with
      | .error defect => .error defect
      | .ok (point, rest) => readText start fuel (point :: done) rest
  | fuel + 1, done, '\\' :: letter :: rest =>
      match simpleEscape? letter with
      | some c => readText start fuel (.char c :: done) rest
      | none => fail .escape ('\\' :: letter :: rest)
  | fuel + 1, done, c :: rest =>
      if c.toNat ≤ 0x1f then fail .control (c :: rest) else readText start fuel (.char c :: done) rest

def put (name : String) (value : Datum) : List (String × Datum) → List (String × Datum)
  | [] => [(name, value)]
  | field :: fields =>
      if field.1 == name then (name, value) :: fields else field :: put name value fields

/-- How deeply lists and records may be nested. -/
def greatestDepth : Nat := 988

mutual

def readValue : (fuel room : Nat) → List Char → Parsed Datum
  | 0, _, chars => fail .value chars
  | fuel + 1, _, '"' :: rest => (readText ('"' :: rest) (fuel + 1) [] rest).map fun result =>
      (.text result.1, result.2)
  | _ + 1, 0, '[' :: _ | _ + 1, 0, '\x7b' :: _ => .error .tooDeep
  | fuel + 1, room + 1, '[' :: rest =>
      match skipSpaces rest with
      | ']' :: rest => .ok (.list [], rest)
      | rest => readItems fuel room [] rest
  | fuel + 1, room + 1, '\x7b' :: rest =>
      match skipSpaces rest with
      | '\x7d' :: rest => .ok (.record [], rest)
      | rest => readFields fuel room [] rest
  | _ + 1, _, chars => readScalar chars

def readItems : (fuel room : Nat) → (done : List Datum) → List Char → Parsed Datum
  | 0, _, _, chars => fail .value chars
  | fuel + 1, room, done, chars =>
      match readValue fuel room chars with
      | .error defect => .error defect
      | .ok (item, rest) =>
          match skipSpaces rest with
          | ']' :: rest => .ok (.list (item :: done).reverse, rest)
          | ',' :: rest => readItems fuel room (item :: done) (skipSpaces rest)
          | rest => fail .comma rest

def readFields : (fuel room : Nat) → (done : List (String × Datum)) → List Char → Parsed Datum
  | 0, _, _, chars => fail .fieldName chars
  | fuel + 1, room, done, '"' :: chars =>
      match readText ('"' :: chars) (fuel + 1) [] chars with
      | .error defect => .error defect
      | .ok (name, rest) =>
          match skipSpaces rest with
          | ':' :: rest =>
              match readValue fuel room (skipSpaces rest) with
              | .error defect => .error defect
              | .ok (value, rest) =>
                  match skipSpaces rest with
                  | '\x7d' :: rest => .ok (.record (put name value done), rest)
                  | ',' :: rest => readFields fuel room (put name value done) (skipSpaces rest)
                  | rest => fail .comma rest
          | rest => fail .colon rest
  | _ + 1, _, _, chars => fail .fieldName chars

end

/-- Where a complaint is: its line and column, counted from one, and the characters before it. -/
def describe (complaint : Complaint) (before : List Char) : String :=
  let line := before.count '\n' + 1
  let column := (before.reverse.takeWhile fun c => c != '\n').length + 1
  s!"{complaint.wording}: line {line} column {column} (char {before.length})"

def Defect.toFault (chars : List Char) : Defect → Fault
  | complaint what left => .syntaxFault (describe what (chars.take (chars.length - left.length)))
  | tooManyDigits count => .tooManyDigits count
  | tooDeep => .nestedTooDeeply

def readDocument (chars : List Char) : Except Defect Datum :=
  match chars with
  | '\ufeff' :: _ => .error (.complaint .byteOrderMark chars)
  | chars =>
      match readValue (2 * chars.length + 2) greatestDepth (skipSpaces chars) with
      | .error defect => .error defect
      | .ok (datum, rest) =>
          match skipSpaces rest with
          | [] => .ok datum
          | rest => .error (.complaint .extra rest)

def read (chars : List Char) : Except Fault Datum :=
  match readDocument chars with
  | .ok datum => .ok datum
  | .error defect => .error (defect.toFault chars)

def plainLines : List Char → List Char
  | '\r' :: '\n' :: rest => '\n' :: plainLines rest
  | '\r' :: rest => '\n' :: plainLines rest
  | c :: rest => c :: plainLines rest
  | [] => []

end Forage.Json
