import Forage.Random.Words

/-!
# Opcodes

The closed set of instructions a tape can hold, and the two vocabularies that
random instructions are drawn from. The order of the opcodes matters: draws index
into it.
-/

namespace Forage

inductive Opcode where
  | doubleMove
  | move
  | left
  | right
  | ifEntity
  | ifFood
  | ifWall
  | skip
  | skip2
  | sleep
deriving DecidableEq, Repr, Inhabited

namespace Opcode

/-- Every opcode, in the order that draws go by. -/
def all : List Opcode :=
  [doubleMove, move, left, right, ifEntity, ifFood, ifWall, skip, skip2, sleep]

def name : Opcode → String
  | doubleMove => "DOUBLEMOVE"
  | move => "MOVE"
  | left => "LEFT"
  | right => "RIGHT"
  | ifEntity => "IFENTITY"
  | ifFood => "IFFOOD"
  | ifWall => "IFWALL"
  | skip => "SKIP"
  | skip2 => "SKIP2"
  | sleep => "SLEEP"

def ofName? (name : String) : Option Opcode :=
  all.find? fun opcode => opcode.name == name

def description : Opcode → String
  | doubleMove => "Move two steps forward"
  | move => "Move one step forward"
  | left => "Turn left"
  | right => "Turn right"
  | ifEntity => "Skips the next command if the entity faces another entity"
  | ifFood => "Skips the next command if the entity faces food"
  | ifWall => "Skips the next command if the entity faces a wall"
  | skip => "Skip one command"
  | skip2 => "Skip two commands"
  | sleep => "Do nothing"

theorem mem_all (opcode : Opcode) : opcode ∈ all := by
  cases opcode <;> decide

@[simp]
theorem ofName?_name (opcode : Opcode) : ofName? opcode.name = some opcode := by
  cases opcode <;> decide

theorem name_of_ofName? {text : String} {opcode : Opcode} (h : ofName? text = some opcode) :
    opcode.name = text := by
  simpa using List.find?_some h

end Opcode

/-- The sets of opcodes that random draws are made from. -/
inductive Vocabulary where
  | basic
  | extended
deriving DecidableEq, Repr, Inhabited

namespace Vocabulary

def all : List Vocabulary := [basic, extended]

def name : Vocabulary → String
  | basic => "basic"
  | extended => "extended"

def opcodes : Vocabulary → List Opcode
  | basic => [.doubleMove, .move, .left, .right, .sleep]
  | extended => Opcode.all

def ofName? (name : String) : Option Vocabulary :=
  all.find? fun vocabulary => vocabulary.name == name

def draw {G : Type} [WordSource G] (vocabulary : Vocabulary) (source : G) : Opcode × G :=
  Draw.pick vocabulary.opcodes .sleep source

theorem opcodes_ne_nil (vocabulary : Vocabulary) : vocabulary.opcodes ≠ [] := by
  cases vocabulary <;> decide

theorem draw_mem {G : Type} [WordSource G] (vocabulary : Vocabulary) (source : G) :
    (vocabulary.draw source).1 ∈ vocabulary.opcodes :=
  Draw.pick_mem vocabulary.opcodes_ne_nil _ _

end Vocabulary

end Forage
