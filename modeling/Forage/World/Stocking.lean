import Forage.Tape.Mutation
import Forage.World

/-!
# Stocking a world

A new world is given food, then walls, then its first foragers. Every place is
drawn on its own, so two things may be drawn onto one cell. A world that is made
anew is cleared first and stocked like a new one. Stocking fails where a tape is to be
drawn whose length counts nothing; what was there by then stays there.
-/

namespace Forage

variable {G : Type} [WordSource G]

namespace Config

def drawCell (config : Config) (source : G) : Cell × G :=
  let (x, source) := Draw.below config.width.toNat source
  let (y, source) := Draw.below config.height.toNat source
  (⟨x, y⟩, source)

def drawTape (config : Config) (source : G) : Except Fault (Tape × G) :=
  match config.initialOpcodes with
  | some opcodes => .ok (.ofList opcodes, source)
  | none => do
      let length ← config.randomLength.count
      let (opcodes, source) := Tape.drawOpcodes config.vocabulary length.toNat source
      return (.ofList opcodes, source)

/-- How many cells a part of the grid has that is given in percent. -/
def share (config : Config) (part : Int) : Nat :=
  (config.width * config.height * part / Tape.percent).toNat

end Config

namespace World

def sow : (count : Nat) → World G → World G
  | 0, world => world
  | count + 1, world =>
      let (cell, source) := world.config.drawCell world.source
      sow count { world with ground := world.ground.sow cell, source }

def wall : (count : Nat) → World G → World G
  | 0, world => world
  | count + 1, world =>
      let (cell, source) := world.config.drawCell world.source
      wall count { world with ground := world.ground.build cell, source }

/-- Lets in a first forager, which draws a cell, a heading and, if need be, a tape. -/
def welcome : EStateM Fault (World G) Unit := fun world =>
  let (position, source) := world.config.drawCell world.source
  let (heading, source) := Heading.draw source
  match world.config.drawTape source with
  | .error fault => .error fault { world with source }
  | .ok (tape, source) =>
      .ok () ({ world with source }.letIn
        { id := Forager.outsider, energy := world.config.initialEnergy, position, heading, tape })

def populate : (count : Nat) → EStateM Fault (World G) Unit
  | 0, world => .ok () world
  | count + 1, world =>
      match welcome world with
      | .ok _ world => populate count world
      | .error fault world => .error fault world

def stock : EStateM Fault (World G) Unit := fun world =>
  let config := world.config
  populate config.initialPopulation.toNat
    (wall (config.share config.initialWallPercent)
      (sow (config.share config.initialFoodPercent) world))

def create (config : Config) (source : G) : Except Fault (World G) :=
  match stock (empty config source) with
  | .ok _ world => .ok world
  | .error fault _ => .error fault

/-- Takes everything off a world, and lets its steps and its numbers begin again. -/
def clear (world : World G) : World G :=
  { world with
    ground := { food := ∅, walls := ∅, crowd := ∅ }
    records := ∅
    live := #[]
    step := 0
    countdown := 0
    nextId := 0 }

/-- Makes a world anew, from a seed or from where its source has come to. -/
def reset {G : Type} [SeededSource G] (seed : Option Int) : EStateM Fault (World G) Unit :=
  fun world =>
    let source := match seed with
      | some seed => SeededSource.ofSeed seed
      | none => world.source
    stock { world with source }.clear

end World

end Forage
