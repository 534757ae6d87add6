import Forage.Binary64.Reader
import Forage.Disk
import Forage.Picture
import Forage.Text.Lower

/-!
# Figures

A figure is either the frame of a scene or a chart with one curve for each series
of a log. Some series have a colour of their own; the others take the colours of a
cycle in turn.
-/

namespace Forage

structure Curve where
  label : String
  colour : String
  xs : List Binary64
  ys : List Binary64
deriving DecidableEq, Repr

inductive Figure where
  | frame (width height : Binary64) (title : String) (picture : Picture)
  | chart (curves : List Curve)

namespace Figure

def inches (count : Nat) : Binary64 :=
  Binary64.ofQuotient false count 1

def leastExtent : Binary64 := inches 3

/-- The extent of one cell of a frame, eight hundredths of an inch. -/
def cellExtent : Binary64 := Binary64.ofQuotient false 8 100

def extent (cells : Int) : Binary64 :=
  Binary64.maxNonnegative leastExtent (Binary64.scale cells.toNat cellExtent)

def ofScene (scene : Scene) : Except Fault Figure := do
  let picture ← Picture.ofScene scene
  return .frame (extent scene.width) (extent scene.height)
    s!"Step {scene.step} | population {scene.population}" picture

def chartExtents : Binary64 × Binary64 := (inches 8, inches 4)

def ownColours : List (String × String) :=
  [("population", "tab:red"), ("food", "tab:green"), ("distinct_programs", "tab:purple")]

/-- The colours that the other series take in turn. -/
def cycle : List String :=
  ["#1f77b4", "#ff7f0e", "#2ca02c", "#d62728", "#9467bd", "#8c564b", "#e377c2", "#7f7f7f",
    "#bcbd22", "#17becf"]

def coloursFrom (taken : Nat) : List String → List String
  | [] => []
  | name :: names =>
      match ownColours.lookup name with
      | some colour => colour :: coloursFrom taken names
      | none => cycle.getD (taken % cycle.length) "" :: coloursFrom (taken + 1) names

def colours (names : List String) : List String :=
  coloursFrom 0 names

def labelOf (name : String) : String :=
  String.ofList (name.toList.map fun c => if c = '_' then ' ' else c)

def textOf? : Datum → Option String
  | .text text => some text
  | _ => none

def categories (values : List Datum) : List String :=
  (values.filterMap textOf?).eraseDups

def isMixed (values : List Datum) : Bool :=
  values.any (fun value => (textOf? value).isSome) && values.any fun value => (textOf? value).isNone

def position (texts : List String) : Datum → Binary64
  | .whole value => Binary64.ofQuotient (value < 0) value.natAbs 1
  | .real value => value
  | .truth value => inches (if value then 1 else 0)
  | .text text => inches (texts.idxOf text)
  | _ => Binary64.nan

/-- The chart of some columns of a log over its steps; no column may mix texts with other values. -/
def ofColumns (steps : List Datum) (columns : List (String × List Datum)) : Except Fault Figure := do
  if columns.any fun column => isMixed column.2 then throw .wrongShape
  let texts := categories (columns.flatMap Prod.snd)
  return .chart ((columns.zip (colours (columns.map Prod.fst))).map fun (column, colour) => {
    label := labelOf column.1
    colour
    xs := steps.map (position [])
    ys := column.2.map (position texts) })

def ending : String := "png"

def knownEndings : List String :=
  ["avif", "eps", "gif", "jpeg", "jpg", "pdf", "pgf", "png", "ps", "raw", "rgba", "svg", "svgz",
    "tif", "tiff", "webp"]

def typesetEnding : String := "pgf"

def frontOf (ending : String) : List UInt8 :=
  match ending with
  | "png" => [0x89]
  | "pdf" => "%PDF-1.4\n%".toUTF8.toList ++ [0xac]
  | "eps" | "ps" => "%!PS-Adobe-3.0".toUTF8.toList
  | "svg" => "<?xml".toUTF8.toList
  | "svgz" => [0x1f, 0x8b]
  | _ => [0xff]

/-- What follows the last dot of a name, dots in front of it apart. -/
def endingOf (name : String) : Option (List Char) :=
  let reversed := (name.toList.dropWhile (· == '.')).reverse
  (Text.cut '.' reversed).map fun parts => parts.1.reverse

/-- The name under which an image is stored, and the ending that says how, if it can be. -/
def storedName (name : String) : Except Fault (String × String) :=
  match endingOf name with
  | none | some [] =>
      let trimmed := (name.toList.reverse.dropWhile (· == '.')).reverse
      .ok (String.ofList trimmed ++ "." ++ ending, ending)
  | some chars =>
      let lower := String.ofList (Text.lower chars)
      if lower == typesetEnding then .error .noTypesetter
      else if knownEndings.contains lower then .ok (name, lower)
      else .error (.unknownEnding lower knownEndings)

def store (path : Path) (disk : Disk) : Except Fault Disk := do
  match path.parts.getLast? with
  | none => throw .isDirectory
  | some name =>
      let (name, ending) ← storedName name
      disk.write (path.parent.child name) (.image (frontOf ending))

end Figure

end Forage
