import Forage.World.Stocking

/-!
# Ticks

One tick of a world. Food grows if it is due; every forager that is alive at the
start takes one step, in the order in which they came; the dead leave; and every
survivor with more energy than the threshold splits. The young are let in after
all of that, so they never act in the tick of their birth. A forager without an
opcode under its pointer ends the tick where it stands.
-/

namespace Forage

/-- The ticks that are let pass between two in which food grows. -/
def regrowthCadence : Nat := 10

structure Report where
  step : Nat
  births : Nat
  deaths : Nat
  population : Nat
  food : Nat
deriving DecidableEq, Repr

/--
Splits a forager: the young has half of the energy, a cell and a heading of its
own, and a copy of the tape that may have been edited.
-/
def Forager.split {G : Type} [WordSource G] (config : Config) (parent : Forager) (source : G) :
    Forager × Forager × G :=
  let (position, source) := config.drawCell source
  let (heading, source) := Heading.draw source
  let (tape, source) := parent.tape.mutate config.mutationRate config.vocabulary source
  let half := parent.energy / 2
  ({ parent with energy := half },
    { id := Forager.outsider, energy := half, position, heading, tape },
    source)

namespace World

variable {G : Type} [WordSource G]

def regrow (world : World G) : World G :=
  match world.countdown with
  | 0 => { world.sow world.config.regrowthRate.toNat with countdown := regrowthCadence }
  | left + 1 => { world with countdown := left }

def stepOne (key : Nat) : EStateM Fault (World G) Unit := fun world =>
  match world.records[key]? with
  | none => .ok () world
  | some forager =>
      match Situation.step world.config ⟨world.ground, forager⟩ with
      | .ok situation => .ok () (world.put key situation)
      | .error fault => .error fault world

/-- Lets the foragers of a list take their steps, one after the other. -/
def stepAll : (keys : List Nat) → EStateM Fault (World G) Unit
  | [], world => .ok () world
  | key :: keys, world =>
      match stepOne key world with
      | .ok _ world => stepAll keys world
      | .error fault world => .error fault world

def isAlive (world : World G) (key : Nat) : Bool :=
  world.records[key]?.any fun forager => forager.Alive

/-- Whether a forager of the records has more energy than the threshold. -/
def isFertile (world : World G) (key : Nat) : Bool :=
  world.records[key]?.any fun forager =>
    forager.Alive && decide (world.config.reproductionThreshold < forager.energy)

/-- Takes a forager of the records off the cell on which it stands. -/
def depart (world : World G) (key : Nat) : World G :=
  match world.records[key]? with
  | none => world
  | some forager => { world with ground := world.ground.vacate forager.position }

/-- Takes the dead off the ground and the list of the living. -/
def bury (world : World G) : World G :=
  let dead := world.live.toList.filter fun key => !world.isAlive key
  { dead.foldl depart world with live := world.live.filter world.isAlive }

def breed (world : World G) (key : Nat) : World G :=
  match world.records[key]? with
  | none => world
  | some parent =>
      let (parent, young, source) := parent.split world.config world.source
      { world with records := world.records.insert key parent, source }.letIn young

/-- The survivors that are due to split, in the order in which they came. -/
def parents (world : World G) : List Nat :=
  world.live.toList.filter world.isFertile

/-- Buries the dead and lets the survivors split, and reports on the tick of a cohort of so many. -/
def settle (cohort : Nat) (world : World G) : Report × World G :=
  let survived := world.bury
  let parents := survived.parents
  let world := parents.foldl breed survived
  ({
    step := world.step
    births := parents.length
    deaths := cohort - survived.population
    population := world.population
    food := world.ground.food.size }, world)

def tick : EStateM Fault (World G) Report := fun world =>
  let cohort := world.live.toList
  match stepAll cohort { world with step := world.step + 1 }.regrow with
  | .error fault world => .error fault world
  | .ok _ world =>
      let (report, world) := world.settle cohort.length
      .ok report world

def ticks : (count : Nat) → EStateM Fault (World G) (List Report)
  | 0, world => .ok [] world
  | count + 1, world =>
      match tick world with
      | .error fault world => .error fault world
      | .ok report world =>
          match ticks count world with
          | .error fault world => .error fault world
          | .ok reports world => .ok (report :: reports) world

end World

end Forage
