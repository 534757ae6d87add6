import Forage.Cell
import Forage.Random.Words

/-!
# Headings

The four ways a forager can face. Rows are counted downwards, so `up` lowers the
row. Turning right runs through the headings in the order up, right, down, left.
-/

namespace Forage

inductive Heading where
  | up
  | right
  | down
  | left
deriving DecidableEq, Repr, Inhabited

namespace Heading

/-- The headings, each to the right of the one before it. -/
def clockwise : List Heading := [up, right, down, left]

def name : Heading → String
  | up => "UP"
  | right => "RIGHT"
  | down => "DOWN"
  | left => "LEFT"

def ofName? (name : String) : Option Heading :=
  clockwise.find? fun heading => heading.name == name

def dx : Heading → Int
  | up => 0
  | right => 1
  | down => 0
  | left => -1

def dy : Heading → Int
  | up => -1
  | right => 0
  | down => 1
  | left => 0

def turnRight : Heading → Heading
  | up => right
  | right => down
  | down => left
  | left => up

def turnLeft : Heading → Heading
  | up => left
  | right => up
  | down => right
  | left => down

/-- The next cell in this heading, on the grid or not. -/
def ahead (heading : Heading) (cell : Cell) : Cell :=
  ⟨cell.x + heading.dx, cell.y + heading.dy⟩

def draw {G : Type} [WordSource G] (source : G) : Heading × G :=
  Draw.pick clockwise up source

@[simp]
theorem turnRight_turnLeft (heading : Heading) : heading.turnLeft.turnRight = heading := by
  cases heading <;> rfl

@[simp]
theorem turnLeft_turnRight (heading : Heading) : heading.turnRight.turnLeft = heading := by
  cases heading <;> rfl

theorem mem_clockwise (heading : Heading) : heading ∈ clockwise := by
  cases heading <;> decide

end Heading

end Forage
