import Forage.Datum
import Forage.Fault

/-!
# Parameters

The twelve whole-number parameters of a world with their limits. The tunable ones
may be changed while the world runs; the rest are fixed when it is made.
-/

namespace Forage

structure Limits where
  name : String
  title : String
  least : Int
  default : Int
  greatest : Int
  tunable : Bool
deriving DecidableEq, Repr

namespace Limits

def Admits (limits : Limits) (value : Int) : Prop :=
  limits.least ≤ value ∧ value ≤ limits.greatest

instance (limits : Limits) (value : Int) : Decidable (limits.Admits value) :=
  inferInstanceAs (Decidable (_ ∧ _))

/-- The whole number a datum gives, if it is one and lies within the limits. -/
def check (limits : Limits) : Datum → Except Fault Int
  | .whole value =>
      if limits.Admits value then .ok value
      else .error (.outside limits.name limits.least limits.greatest)
  | _ => .error (.notInteger limits.name)

end Limits

inductive Parameter where
  | width
  | height
  | initialFoodPercent
  | initialWallPercent
  | initialPopulation
  | initialEnergy
  | mutationRate
  | regrowthRate
  | energyPerFood
  | energyPerStep
  | reproductionThreshold
  | seed
deriving DecidableEq, Repr

namespace Parameter

def all : List Parameter :=
  [width, height, initialFoodPercent, initialWallPercent, initialPopulation, initialEnergy,
    mutationRate, regrowthRate, energyPerFood, energyPerStep, reproductionThreshold, seed]

def greatestSeed : Int := 0xffffffff

def limits : Parameter → Limits
  | width => ⟨"width", "Field width", 1, 100, 512, false⟩
  | height => ⟨"height", "Field height", 1, 100, 512, false⟩
  | initialFoodPercent =>
      ⟨"initial_food_percent", "Initial food on the field in percent", 0, 25, 100, false⟩
  | initialWallPercent =>
      ⟨"initial_wall_percent", "Initial walls on the field in percent", 0, 0, 100, false⟩
  | initialPopulation => ⟨"initial_population", "Initial population", 0, 1, 10000, false⟩
  | initialEnergy => ⟨"initial_energy", "Initial energy", 1, 1000, 1000000, false⟩
  | mutationRate => ⟨"mutation_rate", "Mutation rate in percent", 0, 50, 100, true⟩
  | regrowthRate => ⟨"regrowth_rate", "Regrowth rate in food per 10 ticks", 0, 40, 100, true⟩
  | energyPerFood => ⟨"energy_per_food", "Energy per food", 0, 10, 100, true⟩
  | energyPerStep => ⟨"energy_per_step", "Energy loss per step", 0, 1, 10, true⟩
  | reproductionThreshold =>
      ⟨"reproduction_threshold", "Reproduction energy", 1, 100, 1000000, true⟩
  | seed => ⟨"seed", "Random seed", 0, 0, greatestSeed, false⟩

def name (parameter : Parameter) : String :=
  parameter.limits.name

def tunable : List Parameter :=
  all.filter fun parameter => parameter.limits.tunable

def ofName? (name : String) : Option Parameter :=
  all.find? fun parameter => parameter.name == name

theorem mem_all (parameter : Parameter) : parameter ∈ all := by
  cases parameter <;> decide

theorem admits_default (parameter : Parameter) :
    parameter.limits.Admits parameter.limits.default := by
  cases parameter <;> decide

end Parameter

end Forage
