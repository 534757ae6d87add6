import Forage.Disk
import Forage.Text.Hexadecimal

/-!
# Where logs are

What a log is named by is a path, or a locator: the name of a storage, a colon, and
what is there. Of the storages only this disk is to be had. A path can also start
from home, a directory of which nothing is known.

A log is written where its path leads if there is something already, and otherwise
where its locator says. It is read where its locator says if that is on this disk
or nowhere, and otherwise where its path leads.
-/

namespace Forage

namespace Log

inductive Storage where
  | own
  | buckets (service : String)
  | remote
  /-- A storage that never holds anything. -/
  | void
deriving DecidableEq, Repr

def Storage.ofName? : String → Option Storage
  | "file" => some .own
  | "s3" => some (.buckets "S3")
  | "gs" | "gcs" => some (.buckets "GCS")
  | "hdfs" | "viewfs" => some .remote
  | "mock" => some .void
  | _ => none

structure Locator where
  storage : String
  target : List Char
deriving DecidableEq, Repr

namespace Locator

/-- Whether characters name a storage: a letter comes first, then letters, digits and some signs. -/
def isName : List Char → Bool
  | [] => false
  | first :: rest => first.isAlpha && rest.all fun c => c.isAlphanum || "+-.".contains c

def isPlain (c : Char) : Bool :=
  c.isAlphanum || "-._~!$&'()*+,;=:@/?".contains c

/--
Whether characters are a target: two hexadecimal digits follow a percent sign, and a number sign
occurs only once; `marked` says whether it has occurred.
-/
def isTarget (marked : Bool) : List Char → Bool
  | [] => true
  | '%' :: high :: low :: rest =>
      (Text.hexValue? high).isSome && (Text.hexValue? low).isSome && isTarget marked rest
  | '#' :: rest => !marked && isTarget true rest
  | c :: rest => isPlain c && isTarget marked rest

def ofText? (text : String) : Option Locator :=
  match Text.cut ':' text.toList with
  | some (name, target) =>
      if isName name && isTarget false target then some ⟨String.ofList name, target⟩ else none
  | none => none

def pathBytes : List Char → List UInt8
  | [] => []
  | '%' :: high :: low :: rest =>
      (0x10 * (Text.hexValue? high).getD 0 + (Text.hexValue? low).getD 0).toUInt8 :: pathBytes rest
  | c :: rest => if c = '?' || c = '#' then [] else c.toNat.toUInt8 :: pathBytes rest

def path (locator : Locator) : Except Fault Path :=
  match Text.decode (pathBytes locator.target) with
  | .ok (first :: rest) => .ok (.ofString (Text.ofChars (first :: rest)))
  | _ => .error .fileMissing

end Locator

def home : String := "~"

def startsFromHome (path : Path) : Bool :=
  !path.isAbsolute && path.parts.head? == some home

def readingPath (path : Path) : Except Fault Path :=
  if startsFromHome path then .error .fileMissing
  else
    match Locator.ofText? path.text with
    | none => .ok path
    | some locator =>
        match Storage.ofName? locator.storage with
        | some .own => locator.path
        | some .remote => .error .unreachable
        | some .void => .error .fileMissing
        | some (.buckets _) | none => .ok path

/-- The path at which a log is written when there is nothing yet where its own path leads. -/
def writingPath (path : Path) : Except Fault Path :=
  match Locator.ofText? path.text with
  | none => .ok path
  | some locator =>
      match Storage.ofName? locator.storage with
      | some .own => locator.path
      | some .remote => .error .unreachable
      | some .void => .error .fileMissing
      | some (.buckets service) => .error (.noBucket service)
      | none => .error (.unknownStorage path.text)

/-- What names a log must have bytes without halves that stand for some. -/
def checkName (path : Path) : Except Fault Unit :=
  match Text.unencodable? Text.noByte (Text.points path.text.toList) with
  | some stretch => .error (.unencodable stretch)
  | none => .ok ()

end Log

namespace Disk

def logPlace (disk : Disk) (path : Path) : Except Fault Place := do
  Log.checkName path
  if Log.startsFromHome path then throw .fileMissing
  match disk.locate path with
  | .error .nameTooLong => throw .nameTooLong
  | .ok place =>
      if disk.holds place then disk.writable path else disk.writable (← Log.writingPath path)
  | .error _ => disk.writable (← Log.writingPath path)

end Disk

end Forage
