import Forage.Fault
import Forage.Text.Blank

/-!
# Paths

A path names its way from a place, or from the root, one part after the other.
Empty parts and single dots count for nothing; double dots are kept, since what
they lead to depends on where the path starts. Resolved, a path has neither. A disk
knows a path by the bytes of its text, so there are texts that no disk can follow.
-/

namespace Forage

structure Path where
  /-- The slashes in front: none for a path that starts from a place. -/
  root : String
  parts : List String
deriving DecidableEq, Repr, Inhabited

namespace Path

def back : String := ".."

def isPart (stretch : List Char) : Bool :=
  !stretch.isEmpty && stretch != ['.']

/-- The slashes in front of a path: two are kept, more count as one. -/
def rootOf (chars : List Char) : String :=
  match (chars.takeWhile (· == '/')).length with
  | 0 => ""
  | 2 => "//"
  | _ => "/"

def ofString (text : String) : Path where
  root := rootOf text.toList
  parts := ((Text.splitOn '/' text.toList).filter isPart).map String.ofList

/-- A path as text; the path of the place itself is a dot. -/
def text (path : Path) : String :=
  let joined := path.root ++ "/".intercalate path.parts
  if joined.isEmpty then "." else joined

def isAbsolute (path : Path) : Bool :=
  path.root != ""

def join (base path : Path) : Path :=
  if path.isAbsolute then path else ⟨base.root, base.parts ++ path.parts⟩

def child (path : Path) (name : String) : Path :=
  ⟨path.root, path.parts ++ [name]⟩

def parent (path : Path) : Path :=
  ⟨path.root, path.parts.dropLast⟩

/-- One part further from a place below the root, where nothing leads further back than the root. -/
def follow (place : List String) (part : String) : List String :=
  if part = back then place.dropLast else place ++ [part]

def resolve (cwd : List String) (path : Path) : List String :=
  path.parts.foldl follow (if path.isAbsolute then [] else cwd)

def fromRoot (parts : List String) : Path :=
  ⟨"/", parts⟩

def byteCount (text : String) : Nat :=
  ((Text.points text.toList).flatMap (Text.bytesOf Text.byteOfHalf?)).length

/-- A path has bytes if its text has, and none of them is zero. -/
def checkBytes (path : Path) : Except Fault Unit :=
  let chars := path.text.toList
  match Text.unencodable? Text.byteOfHalf? (Text.points chars) with
  | some stretch => .error (.unencodable stretch)
  | none => if chars.contains '\x00' then .error .nulInPath else .ok ()

/-- One part further along a path without double dots, except for those that lead back from its start. -/
def retrace (walked : Path) (part : String) : Path :=
  if part != back then walked.child part
  else if walked.parts.all (· == back) then
    if walked.isAbsolute then walked else walked.child back
  else walked.parent

def checkAlong (walked : Path) : List String → Except Fault Unit
  | [] => .ok ()
  | part :: parts => do
      let next := walked.retrace part
      if part != back then next.checkBytes
      next.checkAlong parts

def checkWay (path : Path) : Except Fault Unit :=
  checkAlong ⟨if path.isAbsolute then "/" else "", []⟩ path.parts

/-- Resolves a path that must not lead out of a base. -/
def resolveWithin (cwd : List String) (base path : Path) : Except Fault Path := do
  let candidate := base.join path
  candidate.checkWay
  base.checkWay
  let resolved := candidate.resolve cwd
  if (base.resolve cwd).isPrefixOf resolved then return fromRoot resolved
  else throw (.escapesBase path.text)

end Path

end Forage
