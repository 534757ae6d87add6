import Forage.Text.Point

/-!
# UTF-8

Characters as bytes and bytes as characters. Halves of surrogate pairs have no bytes,
except where some of them may stand for a byte that belongs to no character. Bytes
are gone through one by one, with the ranges in which the next bytes of a character
must lie; the first byte out of its range is where decoding fails.
-/

namespace Forage.Text

/-- A stretch of halves that have no bytes: where it starts, where it has ended, and its first half. -/
structure Unencodable where
  start : Nat
  stop : Nat
  first : Fin halves
deriving DecidableEq, Repr

/-- The byte that a half stands for, if it stands for one: those above ASCII have one each. -/
def byteOfHalf? (index : Fin halves) : Option UInt8 :=
  if 0x480 ≤ index.val ∧ index.val < 0x500 then some (index.val - 0x400).toUInt8 else none

def bytesOf (byte? : Fin halves → Option UInt8) : Point → List UInt8
  | .char c => String.utf8EncodeChar c
  | .half index => (byte? index).toList

def isLoose (byte? : Fin halves → Option UInt8) : Point → Bool
  | .char _ => false
  | .half index => (byte? index).isNone

def unencodable? (byte? : Fin halves → Option UInt8) (points : List Point) : Option Unencodable :=
  let front := points.takeWhile fun point => !isLoose byte? point
  match points.drop front.length with
  | .half first :: rest =>
      some ⟨front.length, front.length + 1 + (rest.takeWhile Point.isHalf).length, first⟩
  | _ => none

def encode (byte? : Fin halves → Option UInt8) (points : List Point) :
    Except Unencodable (List UInt8) :=
  match unencodable? byte? points with
  | some stretch => .error stretch
  | none => .ok (points.flatMap (bytesOf byte?))

def noByte (_ : Fin halves) : Option UInt8 := none

inductive Utf8Defect where
  | start
  | continuation
  | truncated
deriving DecidableEq, Repr

/-- Bytes that are no characters: the first of them, where they start, and where they have ended. -/
structure Undecodable where
  first : UInt8
  start : Nat
  stop : Nat
  defect : Utf8Defect
deriving DecidableEq, Repr

def tail : Nat × Nat := (0x80, 0xbf)

/-- What the first byte of a character gives to its number, and the ranges of the bytes to follow. -/
def lead? (byte : Nat) : Option (Nat × List (Nat × Nat)) :=
  if byte < 0x80 then some (byte, [])
  else if byte < 0xc2 then none
  else if byte < 0xe0 then some (byte - 0xc0, [tail])
  else if byte < 0xf0 then
    some (byte - 0xe0,
      [if byte = 0xe0 then (0xa0, 0xbf) else if byte = 0xed then (0x80, 0x9f) else tail, tail])
  else if byte < 0xf5 then
    some (byte - 0xf0,
      [if byte = 0xf0 then (0x90, 0xbf) else if byte = 0xf4 then (0x80, 0x8f) else tail, tail, tail])
  else none

structure Pending where
  first : UInt8
  start : Nat
  number : Nat
  ranges : List (Nat × Nat)

/--
Goes through bytes; `position` is that of the next byte, and `done` holds the
characters before it, the last one first.
-/
def decodeFrom (position : Nat) (done : List Char) :
    Option Pending → List UInt8 → Except Undecodable (List Char)
  | none, [] => .ok done.reverse
  | some pending, [] => .error ⟨pending.first, pending.start, position, .truncated⟩
  | none, byte :: rest =>
      match lead? byte.toNat with
      | none => .error ⟨byte, position, position + 1, .start⟩
      | some (number, []) => decodeFrom (position + 1) (Char.ofNat number :: done) none rest
      | some (number, ranges) =>
          decodeFrom (position + 1) done (some ⟨byte, position, number, ranges⟩) rest
  | some ⟨first, start, number, ranges⟩, byte :: rest =>
      let value := byte.toNat
      match ranges with
      | [] => .error ⟨first, start, position, .continuation⟩
      | (low, high) :: ranges =>
          if value < low ∨ high < value then .error ⟨first, start, position, .continuation⟩
          else
            let number := 0x40 * number + (value - 0x80)
            match ranges with
            | [] => decodeFrom (position + 1) (Char.ofNat number :: done) none rest
            | ranges => decodeFrom (position + 1) done (some ⟨first, start, number, ranges⟩) rest

def decode (bytes : List UInt8) : Except Undecodable (List Char) :=
  decodeFrom 0 [] none bytes

end Forage.Text
