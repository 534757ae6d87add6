import Forage.Binary64
import Forage.Datum
import Forage.Fault

/-!
# Logs

A log is a table with named and typed columns. Its rows were written in groups,
and a group is written as a whole or not at all.
-/

namespace Forage

inductive ColumnType where
  | text
  | whole
  | real
deriving DecidableEq, Repr

def ColumnType.name : ColumnType → String
  | text => "string"
  | whole => "int64"
  | real => "double"

structure Column where
  name : String
  type : ColumnType
deriving DecidableEq, Repr

abbrev Row : Type := List Datum

structure Log where
  columns : List Column
  /-- The groups of rows, in the order in which they were written. -/
  groups : List (List Row)
deriving Repr

namespace Log

def empty (columns : List Column) : Log := ⟨columns, []⟩

def rows (log : Log) : List Row :=
  log.groups.flatten

def leastWhole : Int := -0x8000000000000000

def greatestWhole : Int := 0x7fffffffffffffff

def fits (value : Int) : Bool :=
  decide (leastWhole ≤ value) && decide (value ≤ greatestWhole)

def storable : Datum → Bool
  | .whole value => fits value
  | _ => true

def append (log : Log) (group : List Row) : Except Fault Log :=
  if group.all fun row => row.all storable then .ok ⟨log.columns, log.groups ++ [group]⟩
  else .error .tooLarge

def column? (log : Log) (name : String) : Option (List Datum) :=
  (log.columns.findIdx? fun column => column.name == name).map fun index =>
    log.rows.map fun row => row.getD index .null

end Log

end Forage
