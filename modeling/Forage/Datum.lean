import Forage.Binary64.Shortest
import Forage.Text.Quoted

/-!
# Data

A datum is a value whose shape is not known beforehand: what a document or a list
of settings holds. Data are looked up, tested and shown; nothing is computed with
them before they are read as something of a known type.
-/

namespace Forage

/-- A value of a document. The fields of a record keep their order. -/
inductive Datum where
  | null
  | truth (value : Bool)
  | whole (value : Int)
  | real (value : Binary64)
  | text (value : String)
  | list (items : List Datum)
  | record (fields : List (String × Datum))
deriving Repr, Inhabited

namespace Datum

/-- The field of a list of fields; of two with one name the last counts. -/
def lookup (key : String) (fields : List (String × Datum)) : Option Datum :=
  (fields.reverse.find? fun field => field.1 == key).map Prod.snd

/-- Whether a datum counts as true: zeros, null and whatever is empty do not. -/
def truthy : Datum → Bool
  | null => false
  | truth value => value
  | whole value => value != 0
  | real value => !value.isZero
  | text value => !value.isEmpty
  | list items => !items.isEmpty
  | record fields => !fields.isEmpty

def nullName : String := "None"

def truthName (value : Bool) : String :=
  if value then "True" else "False"

mutual

def shown : Datum → String
  | null => nullName
  | truth value => truthName value
  | whole value => toString value
  | real value => value.text
  | text value => Text.quoted value
  | list items => "[" ++ ", ".intercalate (shownItems items) ++ "]"
  | record fields => "\x7b" ++ ", ".intercalate (shownFields fields) ++ "\x7d"

def shownItems : List Datum → List String
  | [] => []
  | item :: items => shown item :: shownItems items

def shownFields : List (String × Datum) → List String
  | [] => []
  | field :: fields => (Text.quoted field.1 ++ ": " ++ shown field.2) :: shownFields fields

end

/-- A datum as text: a text as it stands, anything else as it is shown. -/
def asText : Datum → String
  | text value => value
  | datum => datum.shown

end Datum

end Forage
