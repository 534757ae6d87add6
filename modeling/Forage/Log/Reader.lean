import Forage.Log.Location

/-!
# Reading logs

A log is read from a file, or from all files below a directory as one. Files and
directories whose names begin with a dot or a low line are passed over, and the rest
are taken in the order of their paths. The columns are those of the first, and a
column that another log does not have is empty there.
-/

namespace Forage

namespace Log

def magics : List (List UInt8) := ["PAR1".toUTF8.toList, "PARE".toUTF8.toList]

/-- How many bytes the end of a log has: a length and a magic. -/
def footerSize : Nat := 8

def littleEndian (bytes : List UInt8) : Nat :=
  bytes.foldr (fun byte sum => byte.toNat + 0x100 * sum) 0

/-- Why bytes are no log, unless their end is that of one. -/
def defectOf (bytes : List UInt8) : Option LogDefect :=
  let size := bytes.length
  let footer := bytes.drop (size - footerSize)
  let claimed := littleEndian (footer.take 4)
  if size = 0 then some .empty
  else if size < footerSize then some (.short size)
  else if !magics.contains (footer.drop 4) then some .noMagic
  else if size - footerSize < claimed then some (.cut size claimed)
  else none

def contentDefect : Content → Option LogDefect
  | .log _ => none
  | .bytes bytes => defectOf bytes.toList
  | .image _ => some .noMagic

def ofContent (report : LogDefect → Fault) (content : Content) : Except Fault Log :=
  match content, contentDefect content with
  | _, some defect => .error (report defect)
  | .log log, none => .ok log
  | _, none => .error .brokenLog

def arrange (columns : List Column) (log : Log) : List Row :=
  log.rows.map fun row => columns.map fun column =>
    match log.columns.findIdx? fun other => other.name == column.name with
    | some index => row.getD index .null
    | none => .null

/-- Several logs as one with given columns. -/
def gather (columns : List Column) (logs : List Log) : Log :=
  ⟨columns, logs.map (arrange columns)⟩

def ofFiles : List (String × Content) → Except Fault Log
  | [] => .ok (empty [])
  | (path, content) :: rest => do
      let first ← ofContent (.noColumns path) content
      let others ← rest.mapM fun file => ofContent (.notALog file.1) file.2
      return gather first.columns (first :: others)

def isHidden (name : String) : Bool :=
  name.startsWith "." || name.startsWith "_"

end Log

namespace Disk

/-- The files below a directory that are not passed over, with the texts of their paths in order. -/
def filesBelow (disk : Disk) (directory : String) (place : Place) : List (String × Content) :=
  let below := disk.files.toList.filterMap fun (file, content) =>
    let rest := file.drop place.length
    if place.isPrefixOf file && !rest.any Log.isHidden then
      some ("/".intercalate (directory :: rest), content)
    else none
  below.mergeSort fun a b => Text.precedes a.1 b.1

def readLogAt (disk : Disk) (path : Path) : Except Fault Log :=
  match disk.locate path with
  | .error .nulInPath => .error (.nulInLogPath path.text)
  | .error .nameTooLong => .error .nameTooLong
  | .error _ => .error .fileMissing
  | .ok place =>
      if disk.isDirectory place then Log.ofFiles (disk.filesBelow path.text place)
      else
        match disk.files[place]? with
        | none => .error .fileMissing
        | some content => Log.ofContent (.notALog path.text) content

def readLog (disk : Disk) (path : Path) : Except Fault Log := do
  Log.checkName path
  disk.readLogAt (← Log.readingPath path)

end Disk

end Forage
