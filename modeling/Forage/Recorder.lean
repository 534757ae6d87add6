import Forage.Disk
import Forage.Ordinal
import Forage.Template

/-!
# Recorders

A recorder writes a tally of every scene to its record files, each through a
template of its own. What is written waits until the file is flushed or closed, or
until more would wait than there is room for, and goes to where the file left off.
Without files nothing is tallied.
-/

namespace Forage

/-- A file that records are written to. -/
structure RecordFile where
  path : Path
  template : Template
  place : Place
  offset : Nat
  waiting : Array UInt8
  isOpen : Bool
deriving DecidableEq, Repr

namespace RecordFile

/-- Opens a file, which is empty from then on; a template at fault leaves everything as it is. -/
def create (path : Path) (pattern : String) : EStateM Fault Disk RecordFile := fun disk =>
  match Template.parse pattern with
  | .error fault => .error fault disk
  | .ok template =>
      match Disk.makeDirectories path.parent disk with
      | .error fault disk => .error fault disk
      | .ok _ disk =>
          match disk.writable path with
          | .error fault => .error fault disk
          | .ok place =>
              .ok ⟨path, template, place, 0, #[], true⟩ (disk.put place (.bytes #[]))

def room : Nat := 4096

def store (disk : Disk) (file : RecordFile) (bytes : Array UInt8) : Disk × RecordFile :=
  (disk.put file.place (.bytes (Disk.overlay (disk.bytesAt file.place) file.offset bytes)),
    { file with offset := file.offset + bytes.size })

def flush (disk : Disk) (file : RecordFile) : Disk × RecordFile :=
  if file.waiting.isEmpty then (disk, file)
  else { file with waiting := #[] }.store disk file.waiting

/--
Takes a record. One that finds too little room puts what waits on the disk first, and one for
which there is no room at all follows it there.
-/
def take (disk : Disk) (file : RecordFile) (record : Array UInt8) : Disk × RecordFile :=
  if file.waiting.size + record.size ≤ room ∧ record.size < room then
    (disk, { file with waiting := file.waiting ++ record })
  else
    let (disk, file) := file.flush disk
    if room < record.size then file.store disk record
    else (disk, { file with waiting := record })

def write (disk : Disk) (file : RecordFile) (tally : Tally) : Except Fault (Disk × RecordFile) := do
  if !file.isOpen then throw (.recordFileClosed file.path.text)
  let record ← file.template.render tally
  return file.take disk record.toArray

def close (disk : Disk) (file : RecordFile) : Disk × RecordFile :=
  let (disk, file) := file.flush disk
  (disk, { file with isOpen := false })

end RecordFile

structure Recorder where
  disk : Disk
  files : List RecordFile
  last : Option Tally

namespace Recorder

def each (action : Disk → RecordFile → Disk × RecordFile) (recorder : Recorder) : Recorder :=
  let (disk, files) := recorder.files.foldl
    (fun (disk, files) file =>
      let (disk, file) := action disk file
      (disk, files ++ [file])) (recorder.disk, [])
  { recorder with disk, files }

def flush (recorder : Recorder) : Recorder :=
  recorder.each RecordFile.flush

def close (recorder : Recorder) : Recorder :=
  recorder.each RecordFile.close

def addFile (path : Path) (pattern : String) : EStateM Fault Recorder Unit := fun recorder =>
  match RecordFile.create path pattern recorder.disk with
  | .ok file disk => .ok () { recorder with disk, files := recorder.files ++ [file] }
  | .error fault disk => .error fault { recorder with disk }

def addFiles : List (Path × String) → EStateM Fault Recorder Unit
  | [], recorder => .ok () recorder
  | (path, pattern) :: rest, recorder =>
      match addFile path pattern recorder with
      | .ok _ recorder => addFiles rest recorder
      | .error fault recorder => .error fault recorder

/--
Builds a recorder with the given files. If one of them cannot be opened those before it are
closed, and the recorder is left with nothing open.
-/
def create (destinations : List (Path × String)) (disk : Disk) :
    EStateM.Result Fault Recorder Unit :=
  match addFiles destinations ⟨disk, [], none⟩ with
  | .ok _ recorder => .ok () recorder
  | .error fault recorder => .error fault recorder.close

/-- Writes a tally to files until one is at fault; those before it have been written. -/
def writeAll (tally : Tally) : Disk → List RecordFile → Option Fault × Disk × List RecordFile
  | disk, [] => (none, disk, [])
  | disk, file :: files =>
      match file.write disk tally with
      | .error fault => (some fault, disk, file :: files)
      | .ok (disk, file) =>
          let (fault, disk, files) := writeAll tally disk files
          (fault, disk, file :: files)

def update (scene : Scene) : EStateM Fault Recorder (Option Tally) := fun recorder =>
  if recorder.files.isEmpty then .ok none recorder
  else
    let tally := Tally.next recorder.last scene
    match writeAll tally recorder.disk recorder.files with
    | (none, disk, files) => .ok (some tally) { disk, last := some tally, files }
    | (some fault, disk, files) => .error fault { disk, last := some tally, files }

/-- Does to one file what may change the disk; a negative number counts from the end. -/
def alter (number : Int) (action : Disk → RecordFile → Except Fault (Disk × RecordFile)) :
    EStateM Fault Recorder Unit := fun recorder =>
  match Ordinal.place? recorder.files.length number with
  | none => .error (.nothingAt number) recorder
  | some place =>
      match recorder.files[place]? with
      | none => .error (.nothingAt number) recorder
      | some file =>
          match action recorder.disk file with
          | .ok (disk, file) => .ok () { recorder with disk, files := recorder.files.set place file }
          | .error fault => .error fault recorder

def writeTo (number : Int) (tally : Tally) : EStateM Fault Recorder Unit :=
  alter number fun disk file => file.write disk tally

def closeFile (number : Int) : EStateM Fault Recorder Unit :=
  alter number fun disk file => .ok (file.close disk)

end Recorder

end Forage
