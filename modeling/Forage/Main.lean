import Forage.Command.Chart
import Forage.Command.Simulate

/-!
# The program

The first word chooses between running a world and drawing. The files that the
other words name are read beforehand, the command does its work on them, and what
it has written is put into the files of this machine. Logs are written as
documents with one line a row; of an image only its description would be known, so
none is written.
-/

namespace Forage.Program

/-- What stands for half of a surrogate pair where there are only characters. -/
def replacement : Char := Char.ofNat 0xfffd

def shown (text : String) : String :=
  String.ofList ((Text.points text.toList).map fun point => point.char?.getD replacement)

def placeOf (path : String) : Place :=
  (Path.ofString path).parts

def pathsOf (word : String) : List String :=
  (Text.splitOn '=' word.toList).map String.ofList

def lineOf (row : Row) : String :=
  Json.write .oneLine 0 (.list row) ++ "\n"

def written : Content → Option ByteArray
  | .bytes bytes => some ⟨bytes⟩
  | .log log =>
      let heading := lineOf (log.columns.map fun column => .text column.name)
      some (String.join (heading :: log.rows.map lineOf)).toUTF8
  | .image _ => none

def load (disk : Disk) (text : String) : IO Disk := do
  let path := Path.ofString text
  try
    let bytes ← IO.FS.readBinFile path.text
    match Disk.makeDirectories path.parent disk with
    | .ok _ disk => return (disk.write path (.bytes bytes.data)).toOption.getD disk
    | .error _ disk => return disk
  catch _ => return disk

def pathAt (place : Place) : String :=
  (Path.fromRoot place).text

def store (place : Place) (content : Content) : IO Unit := do
  match written content with
  | none => return
  | some bytes =>
      IO.FS.createDirAll (pathAt place.dropLast)
      IO.FS.writeBinFile (pathAt place) bytes

def carryOut (command : List String → Work String) (args : List String) : IO UInt32 := do
  let cwd := placeOf (← IO.currentDir).toString
  let args := args.map fun arg => Text.ofChars arg.toList
  let before ← (args.flatMap pathsOf).foldlM load (Disk.bare cwd)
  let (code, after) ←
    match command args (.ofDisk before) with
    | .ok reply session =>
        IO.print (shown reply)
        pure (0, session)
    | .error (.misuse misuse) session =>
        IO.eprintln (shown s!"error: {misuse.message}")
        pure (2, session)
    | .error (.refusal fault) session =>
        IO.eprintln (shown s!"error: {fault.message}")
        pure (2, session)
    | .error (.failure fault) session =>
        IO.eprintln (shown s!"failure: {fault.message}")
        pure (1, session)
  for (place, content) in after.disk.files.toList do
    store place content
  return code

end Forage.Program

def main (args : List String) : IO UInt32 :=
  match args with
  | "run" :: rest => Forage.Program.carryOut Forage.Simulate.main rest
  | "chart" :: rest => Forage.Program.carryOut Forage.Chart.main rest
  | _ => do
      IO.eprintln "error: the first word must be run or chart"
      return 2
