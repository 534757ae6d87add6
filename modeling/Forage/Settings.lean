import Forage.Datum
import Forage.Fault
import Forage.Text.Lower
import Forage.Text.Whole

/-!
# Settings

A setting is given as a datum and read as a truth value, a whole number or a
text. Truth values may be spelled in several ways and whole numbers written as
text; a truth value never counts as a number or as text. A setting given directly
goes before one from a file, and that before the default.
-/

namespace Forage.Setting

def trueWords : List String := ["1", "true", "yes", "on"]

def falseWords : List String := ["0", "false", "no", "off"]

def plain (text : String) : String :=
  String.ofList (Text.lower (Text.trim text.toList))

def truth (key : String) : Datum → Except Fault Bool
  | .truth value => .ok value
  | .text text =>
      if trueWords.contains (plain text) then .ok true
      else if falseWords.contains (plain text) then .ok false
      else .error (.notBoolean key)
  | _ => .error (.notBoolean key)

def truncateFault : Binary64.TruncateError → Fault
  | .notANumber => .notANumber
  | .infinite => .tooLarge

def truncate (number : Binary64) : Except Fault Int :=
  number.truncate.mapError truncateFault

def whole (key : String) : Datum → Except Fault Int
  | .whole value => .ok value
  | .real number => do
      let value ← truncate number
      if number.isWhole then .ok value
      else .error (.notWholeText key (Datum.real number).shown)
  | .text text =>
      match Text.readWhole (Text.trim text.toList) with
      | .ok value => .ok value
      | .error _ => .error (.notWholeText key (Datum.text text).shown)
  | _ => .error (.notWhole key)

def text (key : String) : Datum → Except Fault String
  | .text text => .ok text
  | .whole value => .ok (Datum.whole value).asText
  | .real number => .ok (Datum.real number).asText
  | _ => .error (.notText key)

/-- The setting that counts: the one given directly, or the one of a file, or the default. -/
def pick (given : Option Datum) (key : String) (file : List (String × Datum)) (default : Datum) :
    Datum :=
  match given with
  | some datum => datum
  | none => (Datum.lookup key file).getD default

end Forage.Setting
