import Forage.Command.Options
import Forage.Figure
import Forage.Json.Reader
import Forage.Log.Reader

/-!
# Commands

A command reads its words, does its work on the disk, and says something in the
end. A command that cannot make sense of what it was told says why and is done; a
fault that arises later on, or that is not about what it was told, is let through. A
figure that was drawn has been drawn even if it cannot be stored.
-/

namespace Forage

/-- Why a command did not come to its end. -/
inductive Halt where
  | misuse (misuse : Misuse)
  | refusal (fault : Fault)
  | failure (fault : Fault)
deriving DecidableEq, Repr

structure Session where
  disk : Disk
  drawn : Option Figure

namespace Session

def ofDisk (disk : Disk) : Session := ⟨disk, none⟩

end Session

namespace Halt

def refused : List FaultKind := [.invalid, .unencodable, .misplaced]

/-- A fault that is about what was asked for is refused, and any other let through. -/
def ofFault (fault : Fault) : Halt :=
  if refused.contains fault.kind then .refusal fault else .failure fault

end Halt

abbrev Work (α : Type) : Type := EStateM Halt Session α

namespace Work

def understood {α : Type} (result : Except Misuse α) : Work α := fun session =>
  match result with
  | .ok value => .ok value session
  | .error misuse => .error (.misuse misuse) session

def asked {α : Type} (result : Except Fault α) : Work α := fun session =>
  match result with
  | .ok value => .ok value session
  | .error fault => .error (.ofFault fault) session

/-- Work of which every fault is turned into a reason to halt. -/
def mapFault {α : Type} (halt : Fault → Halt) (work : EStateM Fault Session α) : Work α :=
  fun session =>
    match work session with
    | .ok value session => .ok value session
    | .error fault session => .error (halt fault) session

end Work

namespace Session

def onDisk {α : Type} (work : EStateM Fault Disk α) : EStateM Fault Session α := fun session =>
  match work session.disk with
  | .ok value disk => .ok value { session with disk }
  | .error fault disk => .error fault { session with disk }

def given {α : Type} (result : Except Fault α) : EStateM Fault Session α := fun session =>
  match result with
  | .ok value => .ok value session
  | .error fault => .error fault session

end Session

namespace Disk

/-- The first bytes of a log, which belong to no text. -/
def logFront : List UInt8 := "PAR1".toUTF8.toList ++ [0xff]

def knownBytes : Content → List UInt8
  | .bytes bytes => bytes.toList
  | .image front => front
  | .log _ => logFront

def readChars (disk : Disk) (path : Path) : Except Fault (List Char) := do
  match Text.decode (knownBytes (← disk.read path)) with
  | .ok chars => return Json.plainLines chars
  | .error stretch => throw (.undecodable stretch)

def readSettings (disk : Disk) (path : Path) : Except Fault (List (String × Datum)) :=
  match disk.readChars path with
  | .error .fileMissing => .error (.configMissing path.text)
  | .error fault => .error fault
  | .ok chars =>
      match Json.read chars with
      | .error (.syntaxFault description) => .error (.configSyntax path.text description)
      | .error fault => .error fault
      | .ok (.record fields) => .ok fields
      | .ok _ => .error (.configNotObject path.text)

end Disk

/-- Draws a figure and stores it at a path that must not lead out of a base. -/
def Figure.draw (base path : Path) (figure : Except Fault Figure) : EStateM Fault Session Path := do
  let resolved ← Session.given (Path.resolveWithin (← get).disk.cwd base path)
  Session.onDisk (Disk.makeDirectories resolved.parent)
  let figure ← Session.given figure
  modify fun session => { session with drawn := some figure }
  Session.onDisk (Disk.attempt (Figure.store resolved))
  return resolved

end Forage
