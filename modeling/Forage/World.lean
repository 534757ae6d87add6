import Forage.Config.Draft
import Forage.Situation

/-!
# Worlds

A world is a ground, the foragers that were let onto it, and the source of words
by which everything that is left to chance is settled. Foragers are let in one
after the other; each is known by the number it was first let in under, and its
record is kept when it dies. The living are listed in the order in which they came.
-/

namespace Forage

structure World (G : Type) where
  config : Config
  ground : Ground
  /-- Every forager that was let in, by the number it was first let in under. -/
  records : Std.ExtTreeMap Nat Forager
  /-- The living, the earliest first. -/
  live : Array Nat
  source : G
  step : Nat
  /-- The ticks left before food grows again. -/
  countdown : Nat
  nextId : Nat

namespace World

variable {G : Type}

def empty (config : Config) (source : G) : World G where
  config
  ground := .bare
  records := ∅
  live := #[]
  source
  step := 0
  countdown := 0
  nextId := 0

/-- The living foragers, in the order in which they came. -/
def foragers (world : World G) : List Forager :=
  world.live.toList.filterMap fun key => world.records[key]?

def population (world : World G) : Nat :=
  world.live.size

/-- Lets a forager in that stands on a cell of the grid. -/
def letIn (world : World G) (forager : Forager) : World G :=
  { world with
    ground := world.ground.occupy forager.position
    records := world.records.insert world.nextId { forager with id := world.nextId }
    live := world.live.push world.nextId
    nextId := world.nextId + 1 }

/-- Lets in a forager that the world has known before, under another number. -/
def letInAgain (world : World G) (key : Nat) (forager : Forager) : World G :=
  { world with
    ground := world.ground.occupy forager.position
    records := world.records.insert key { forager with id := world.nextId }
    live := world.live.push key
    nextId := world.nextId + 1 }

def add (world : World G) (forager : Forager) : Except Fault (World G) := do
  let position ← world.config.requireCell forager.position
  return world.letIn { forager with position }

def addAgain (world : World G) (key : Nat) (forager : Forager) : Except Fault (World G) := do
  let position ← world.config.requireCell forager.position
  return world.letInAgain key { forager with position }

/-- Lets in a new forager; without an energy of its own it has what first foragers have. -/
def place (world : World G) (position : Cell) (heading : Heading) (tape : Tape)
    (energy : Option Int) : Except Fault (World G) :=
  world.add {
    id := Forager.outsider
    energy := energy.getD world.config.initialEnergy
    position
    heading
    tape }

def addFood (world : World G) (cell : Cell) : Except Fault (World G) := do
  let cell ← world.config.requireCell cell
  return { world with ground := world.ground.sow cell }

def addWall (world : World G) (cell : Cell) : Except Fault (World G) := do
  let cell ← world.config.requireCell cell
  return { world with ground := world.ground.build cell }

def removeFood (world : World G) (cell : Cell) : Bool × World G :=
  let (found, ground) := world.ground.harvest world.config cell
  (found, { world with ground })

/-- The name that stands for the world itself, and so cannot be that of a change. -/
def ownName : String := "self"

/-- Changes tunable parameters; changes are made as a whole or not at all. -/
def update (world : World G) (changes : List (String × Datum)) : Except Fault (World G) := do
  if changes.any fun change => change.1 == ownName then throw .wrongShape
  return { world with config := ← world.config.update changes }

def put (world : World G) (key : Nat) (situation : Situation) : World G :=
  { world with
    ground := situation.ground
    records := world.records.insert key situation.forager }

end World

end Forage
