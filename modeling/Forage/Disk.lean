import Forage.Log
import Forage.Path
import Forage.Picture
import Std.Data.ExtTreeMap
import Std.Data.ExtTreeSet

/-!
# The disk

The disk holds directories and files, each under the parts of its path from the
root. A path is followed part by part, so every part but the last must be that of
a directory, even if the next one leads back out of it. Neither a path nor a part of
it may be too long.
-/

namespace Forage

inductive Content where
  | bytes (bytes : Array UInt8)
  | log (log : Log)
  /-- An image, of which only the first bytes are known. -/
  | image (front : List UInt8)

/-- The parts of the path of a file or directory from the root. -/
abbrev Place : Type := List String

structure Disk where
  cwd : Place
  directories : Std.ExtTreeSet Place
  files : Std.ExtTreeMap Place Content

namespace Disk

def bare (cwd : Place) : Disk where
  cwd
  directories := (List.range (cwd.length + 1)).foldl (fun places depth => places.insert (cwd.take depth)) ∅
  files := ∅

def isDirectory (disk : Disk) (place : Place) : Bool :=
  disk.directories.contains place

def holds (disk : Disk) (place : Place) : Bool :=
  disk.isDirectory place || disk.files.contains place

def partLimit : Nat := 255

def pathLimit : Nat := 4095

/-- Follows parts from a place; every place that is left must be that of a directory. -/
def walk (disk : Disk) : Place → List String → Except Fault Place
  | place, [] => .ok place
  | place, part :: parts =>
      if disk.isDirectory place then
        if partLimit < Path.byteCount part then .error .nameTooLong
        else walk disk (Path.follow place part) parts
      else if disk.files.contains place then .error .notDirectory
      else .error .fileMissing

def locate (disk : Disk) (path : Path) : Except Fault Place := do
  path.checkBytes
  if pathLimit < Path.byteCount path.text then throw .nameTooLong
  disk.walk (if path.isAbsolute then [] else disk.cwd) path.parts

def read (disk : Disk) (path : Path) : Except Fault Content := do
  let place ← disk.locate path
  if disk.isDirectory place then throw .isDirectory
  match disk.files[place]? with
  | some content => return content
  | none => throw .fileMissing

def writable (disk : Disk) (path : Path) : Except Fault Place := do
  let place ← disk.locate path
  if disk.isDirectory place then throw .isDirectory
  return place

def put (disk : Disk) (place : Place) (content : Content) : Disk :=
  { disk with files := disk.files.insert place content }

def write (disk : Disk) (path : Path) (content : Content) : Except Fault Disk := do
  let place ← disk.writable path
  return disk.put place content

def makeDirectory (disk : Disk) (path : Path) : Except Fault Disk := do
  let place ← disk.locate path
  if disk.holds place then throw .fileExists
  return { disk with directories := disk.directories.insert place }

def leadsToDirectory (disk : Disk) (path : Path) : Bool :=
  match disk.locate path with
  | .ok place => disk.isDirectory place
  | .error _ => false

def makeUnlessThere (disk : Disk) (path : Path) : Except Fault Disk :=
  match disk.makeDirectory path with
  | .error .fileMissing => .error .fileMissing
  | .error fault => if disk.leadsToDirectory path then .ok disk else .error fault
  | .ok disk => .ok disk

/--
Makes the directory that parts lead to, and those on the way, as far as they are
missing. The parts are given with the last one first. What was made stays made
when something in the end cannot be.
-/
def makeParts (root : String) : (reversed : List String) → EStateM Fault Disk Unit
  | [], disk =>
      match disk.makeUnlessThere ⟨root, []⟩ with
      | .ok disk => .ok () disk
      | .error fault => .error fault disk
  | part :: parts, disk =>
      let path : Path := ⟨root, (part :: parts).reverse⟩
      match disk.makeUnlessThere path with
      | .ok disk => .ok () disk
      | .error .fileMissing =>
          match makeParts root parts disk with
          | .error fault disk => .error fault disk
          | .ok _ disk =>
              match disk.makeUnlessThere path with
              | .ok disk => .ok () disk
              | .error fault => .error fault disk
      | .error fault => .error fault disk

def makeDirectories (path : Path) : EStateM Fault Disk Unit :=
  makeParts path.root path.parts.reverse

/-- Does what changes the disk only if it succeeds. -/
def attempt (change : Disk → Except Fault Disk) : EStateM Fault Disk Unit := fun disk =>
  match change disk with
  | .ok disk => .ok () disk
  | .error fault => .error fault disk

/-- Puts bytes into an array from a given place on; a gap before them is filled with zeros. -/
def overlay (held : Array UInt8) (offset : Nat) (bytes : Array UInt8) : Array UInt8 :=
  held.extract 0 offset ++ Array.replicate (offset - held.size) 0 ++ bytes ++
    held.extract (offset + bytes.size) held.size

/-- The bytes of a file; a file of another kind, or none at all, has none. -/
def bytesAt (disk : Disk) (place : Place) : Array UInt8 :=
  match disk.files[place]? with
  | some (.bytes bytes) => bytes
  | _ => #[]

end Disk

end Forage
