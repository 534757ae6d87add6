import Forage.Datum
import Forage.Fault
import Forage.Text.Whole

/-!
# Writing documents

A datum is written as JSON on one line, or spread over lines that are indented by
two blanks a level. Characters are written as they are, except for quotes,
backslashes and control characters. A datum with a whole number that has too many
digits is not written.
-/

namespace Forage.Json

def escapeChar (c : Char) : List Char :=
  if c = '"' then ['\\', '"']
  else if c = '\\' then ['\\', '\\']
  else if c = '\n' then ['\\', 'n']
  else if c = '\r' then ['\\', 'r']
  else if c = '\t' then ['\\', 't']
  else if c = '\x0c' then ['\\', 'f']
  else if c = '\x08' then ['\\', 'b']
  else if c.toNat < 0x20 then '\\' :: 'u' :: Text.hexDigits 4 c.toNat
  else [c]

def textOf (text : String) : String :=
  "\"" ++ String.ofList (text.toList.flatMap escapeChar) ++ "\""

def numberOf (number : Binary64) : String :=
  match number.form with
  | .nan => "NaN"
  | .infinite negative => if negative then "-Infinity" else "Infinity"
  | .finite .. => number.text

/-- How the items of a list or record are set apart. -/
inductive Spacing where
  | oneLine
  | indented
deriving DecidableEq, Repr

def indentation : Nat := 2

/-- What stands before the first of several items, between two, and after the last. -/
def Spacing.around (spacing : Spacing) (level : Nat) : String × String × String :=
  match spacing with
  | oneLine => ("", ", ", "")
  | indented =>
      let line (level : Nat) := "\n" ++ String.ofList (List.replicate (indentation * level) ' ')
      (line (level + 1), "," ++ line (level + 1), line level)

def enclose (spacing : Spacing) (level : Nat) (left right : String) (items : List String) :
    String :=
  match items with
  | [] => left ++ right
  | items =>
      let (first, between, last) := spacing.around level
      left ++ first ++ between.intercalate items ++ last ++ right

mutual

def write (spacing : Spacing) (level : Nat) : Datum → String
  | .null => "null"
  | .truth value => if value then "true" else "false"
  | .whole value => toString value
  | .real value => numberOf value
  | .text value => textOf value
  | .list items => enclose spacing level "[" "]" (writeItems spacing (level + 1) items)
  | .record fields =>
      enclose spacing level "\x7b" "\x7d" (writeFields spacing (level + 1) fields)

def writeItems (spacing : Spacing) (level : Nat) : List Datum → List String
  | [] => []
  | item :: items => write spacing level item :: writeItems spacing level items

def writeFields (spacing : Spacing) (level : Nat) : List (String × Datum) → List String
  | [] => []
  | field :: fields =>
      (textOf field.1 ++ ": " ++ write spacing level field.2) :: writeFields spacing level fields

end

mutual

/-- Every whole number of a datum has few enough digits to be written. -/
def isShort : Datum → Bool
  | .whole value => decide (Text.IsShort value)
  | .list items => areShort items
  | .record fields => haveShort fields
  | _ => true

def areShort : List Datum → Bool
  | [] => true
  | item :: items => isShort item && areShort items

def haveShort : List (String × Datum) → Bool
  | [] => true
  | field :: fields => isShort field.2 && haveShort fields

end

/-- The text of a datum, if all of its numbers can be written. -/
def print (spacing : Spacing) (datum : Datum) : Except Fault String :=
  if isShort datum then .ok (write spacing 0 datum) else .error .numberTooLong

theorem print_eq_ok_iff {spacing : Spacing} {datum : Datum} {text : String} :
    print spacing datum = .ok text ↔ isShort datum = true ∧ write spacing 0 datum = text := by
  unfold print
  split <;> simp_all

end Forage.Json
