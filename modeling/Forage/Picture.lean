import Forage.Ordinal
import Forage.Scene

/-!
# Pictures

A picture gives every cell of a scene one shade. Where things coincide a forager
is drawn over a wall and a wall over food.
-/

namespace Forage

inductive Shade where
  | bare
  | food
  | wall
  | forager
deriving DecidableEq, Repr

namespace Shade

def all : List Shade := [bare, food, wall, forager]

def code : Shade → Nat
  | bare => 0
  | food => 1
  | wall => 2
  | forager => 3

def colour : Shade → String
  | bare => "#F0F0F0"
  | food => "#4CAF50"
  | wall => "#424242"
  | forager => "#FF5722"

def caption : Shade → String
  | bare => "Empty"
  | food => "Food"
  | wall => "Wall"
  | forager => "Entity"

end Shade

abbrev Picture : Type := List (List Shade)

namespace Picture

/-- The cell of a picture that a cell is drawn on; a negative coordinate counts from the end. -/
def target (scene : Scene) (cell : Cell) : Except Fault Cell :=
  match Ordinal.place? scene.width cell.x, Ordinal.place? scene.height cell.y with
  | some x, some y => .ok ⟨x, y⟩
  | _, _ => .error (.offPicture cell)

def targets (scene : Scene) (cells : List Cell) : Except Fault CellSet :=
  cells.foldlM (fun places cell => return places.insert (← target scene cell)) ∅

def shadeAt (food walls foragers : CellSet) (cell : Cell) : Shade :=
  if foragers.contains cell then .forager
  else if walls.contains cell then .wall
  else if food.contains cell then .food
  else .bare

def extentLimit : Int := 0x8000000000000000

/-- The first number that is too large for the cells of a picture, each of which has eight bytes. -/
def sizeLimit : Int := 0x1000000000000000

/-- The first number of cells for which there is no room in memory. -/
def roomLimit : Int := 0x100000000

/-- Refuses extents that no picture has; the height comes before the width. -/
def checkExtents (width height : Int) : Except Fault Unit :=
  let tooFar (extent : Int) := extent < -extentLimit || extentLimit ≤ extent
  if tooFar height || tooFar width then .error .hugeExtent
  else if height < 0 then .error .negativeExtent
  else if sizeLimit ≤ height then .error .hugePicture
  else if width < 0 then .error .negativeExtent
  else if sizeLimit ≤ max height 1 * width then .error .hugePicture
  else if roomLimit ≤ height * width then .error .noRoom
  else .ok ()

def ofScene (scene : Scene) : Except Fault Picture := do
  checkExtents scene.width scene.height
  let food ← targets scene scene.food.toList
  let walls ← targets scene scene.walls.toList
  let foragers ← targets scene (scene.sightings.map Sighting.cell)
  return (List.range scene.height.toNat).map fun (y : Nat) =>
    (List.range scene.width.toNat).map fun (x : Nat) => shadeAt food walls foragers ⟨x, y⟩

def codes (picture : Picture) : List (List Nat) :=
  picture.map (·.map Shade.code)

end Picture

end Forage
