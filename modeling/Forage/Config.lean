import Forage.Amount
import Forage.Config.Parameter
import Forage.Tape

/-!
# Configurations

What a world is made from: its extents and which of its axes are closed, how it
is stocked, what energy is worth, and the tapes its first foragers carry.
-/

namespace Forage

structure Config where
  width : Int
  height : Int
  initialFoodPercent : Int
  initialWallPercent : Int
  initialPopulation : Int
  initialEnergy : Int
  mutationRate : Int
  regrowthRate : Int
  energyPerFood : Int
  energyPerStep : Int
  reproductionThreshold : Int
  seed : Int
  /-- What was given for whether the columns wrap; only its truth counts. -/
  wrapX : Datum
  /-- What was given for whether the rows wrap; only its truth counts. -/
  wrapY : Datum
  vocabulary : Vocabulary
  /-- The opcodes every first forager carries; without them each draws a tape of its own. -/
  initialOpcodes : Option (List Opcode)
  randomLength : Amount
deriving Repr

namespace Config

def get (config : Config) : Parameter → Int
  | .width => config.width
  | .height => config.height
  | .initialFoodPercent => config.initialFoodPercent
  | .initialWallPercent => config.initialWallPercent
  | .initialPopulation => config.initialPopulation
  | .initialEnergy => config.initialEnergy
  | .mutationRate => config.mutationRate
  | .regrowthRate => config.regrowthRate
  | .energyPerFood => config.energyPerFood
  | .energyPerStep => config.energyPerStep
  | .reproductionThreshold => config.reproductionThreshold
  | .seed => config.seed

def set (config : Config) (parameter : Parameter) (value : Int) : Config :=
  match parameter with
  | .width => { config with width := value }
  | .height => { config with height := value }
  | .initialFoodPercent => { config with initialFoodPercent := value }
  | .initialWallPercent => { config with initialWallPercent := value }
  | .initialPopulation => { config with initialPopulation := value }
  | .initialEnergy => { config with initialEnergy := value }
  | .mutationRate => { config with mutationRate := value }
  | .regrowthRate => { config with regrowthRate := value }
  | .energyPerFood => { config with energyPerFood := value }
  | .energyPerStep => { config with energyPerStep := value }
  | .reproductionThreshold => { config with reproductionThreshold := value }
  | .seed => { config with seed := value }

/-- A configuration all of whose parameters lie within their limits. -/
def Valid (config : Config) : Prop :=
  (∀ parameter : Parameter, parameter.limits.Admits (config.get parameter)) ∧
    config.randomLength.isBelow 1 = false

def defaultOpcodes : List Opcode :=
  [.left, .move, .right, .move, .move]

def defaultLength : Amount := .whole 5

@[simp]
theorem get_set_self (config : Config) (parameter : Parameter) (value : Int) :
    (config.set parameter value).get parameter = value := by
  cases parameter <;> rfl

theorem get_set_of_ne (config : Config) {parameter other : Parameter} (value : Int)
    (h : other ≠ parameter) : (config.set parameter value).get other = config.get other := by
  cases parameter <;> cases other <;> first | rfl | exact absurd rfl h

end Config

end Forage
