import Forage.Fault
import Forage.Tally
import Forage.Text.Lower
import Forage.Text.Whole

/-!
# Templates

A template says how a tally is written: as text in which a percent sign and a
letter stand for a number of the tally, in decimal for a capital letter and as a
word of four bytes for a small one, or for a percent sign or an end of line.
-/

namespace Forage

inductive Entry where
  | population
  | change
  | step
  | food
deriving DecidableEq, Repr

/-- The entry that a small letter names. -/
def Entry.ofLetter? : Char → Option Entry
  | 'p' => some population
  | 'd' => some change
  | 'g' => some step
  | 'f' => some food
  | _ => none

def Tally.get (tally : Tally) : Entry → Int
  | .population => tally.population
  | .change => tally.change
  | .step => tally.step
  | .food => tally.food

inductive Element where
  | stretch (chars : List Char)
  | mark (char : Char)
  | decimal (entry : Entry)
  | word (entry : Entry)
deriving DecidableEq, Repr

namespace Element

/-- The characters that can only be had by an escape, by their letters. -/
def control? : Char → Option Char
  | '%' => some '%'
  | 'n' => some '\n'
  | 'r' => some '\r'
  | _ => none

/-- What an escape stands for; a letter that names nothing may do so in lower case. -/
def ofLetter? (letter : Char) : Option Element :=
  match control? letter with
  | some char => some (mark char)
  | none =>
      match Entry.ofLetter? letter with
      | some entry => some (word entry)
      | none =>
          match Text.lower [letter] with
          | [small] => (Entry.ofLetter? small).map decimal
          | _ => none

def utf8 (chars : List Char) : List UInt8 :=
  chars.flatMap String.utf8EncodeChar

/-- The bytes of a word, the most significant one first, a negative number in two's complement. -/
def wordBytes (value : Int) : List UInt8 :=
  let bits := (value % 0x100000000).toNat
  [(bits / 0x1000000).toUInt8, (bits / 0x10000).toUInt8, (bits / 0x100).toUInt8, bits.toUInt8]

def FitsWord (value : Int) : Prop :=
  -0x80000000 ≤ value ∧ value < 0x80000000

instance (value : Int) : Decidable (FitsWord value) :=
  inferInstanceAs (Decidable (_ ∧ _))

def FitsLong (value : Int) : Prop :=
  -0x8000000000000000 ≤ value ∧ value < 0x8000000000000000

instance (value : Int) : Decidable (FitsLong value) :=
  inferInstanceAs (Decidable (_ ∧ _))

def pack (value : Int) : Except Fault (List UInt8) :=
  if FitsWord value then .ok (wordBytes value)
  else if FitsLong value then .error .numberOutsideWord
  else .error .numberOutsideLong

def render (limit : Option Nat) (tally : Tally) : Element → Except Fault (List UInt8)
  | stretch chars => .ok (utf8 chars)
  | mark char => .ok (utf8 [char])
  | decimal entry =>
      match Text.decimal? limit (tally.get entry) with
      | some text => .ok (utf8 text.toList)
      | none => .error .numberTooLong
  | word entry => pack (tally.get entry)

end Element

abbrev Template : Type := List Element

namespace Template

inductive Piece where
  | stretch (points : List Text.Point)
  | escape (letter : Text.Point)
  | dangling
deriving DecidableEq, Repr

/-- The pieces of a template, with the text between two escapes as one piece. -/
def pieces : List Text.Point → List Piece
  | [] => []
  | [.char '%'] => [.dangling]
  | .char '%' :: letter :: rest => .escape letter :: pieces rest
  | point :: rest =>
      match pieces rest with
      | .stretch points :: more => .stretch (point :: points) :: more
      | more => .stretch [point] :: more

/-- The part of a template that a piece is; `whole` is all of it, for the wording of a fault. -/
def elementOf (whole : String) : Piece → Except Fault Element
  | .dangling => .error .danglingEscape
  | .escape letter =>
      match letter.char?.bind Element.ofLetter? with
      | some element => .ok element
      | none => .error (.unknownEscape letter whole)
  | .stretch points =>
      match Text.unencodable? Text.noByte points with
      | some stretch => .error (.unencodable stretch)
      | none => .ok (.stretch (points.filterMap Text.Point.char?))

def ofPieces (whole : String) : List Piece → Except Fault Template
  | [] => .ok []
  | piece :: rest => do
      let element ← elementOf whole piece
      return element :: (← ofPieces whole rest)

def parse (text : String) : Except Fault Template :=
  ofPieces text (pieces (Text.points text.toList))

/-- What is written through a template where numbers may have so many digits. -/
def renderWithin (limit : Option Nat) (tally : Tally) : Template → Except Fault (List UInt8)
  | [] => .ok []
  | element :: elements => do
      let first ← element.render limit tally
      return first ++ (← renderWithin limit tally elements)

def render (tally : Tally) (template : Template) : Except Fault (List UInt8) :=
  renderWithin (some Text.digitLimit) tally template

end Template

end Forage
