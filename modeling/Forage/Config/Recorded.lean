import Forage.Config.Draft
import Forage.Settings
import Forage.Tape.Reader

/-!
# Recorded configurations

The summary of a run records the configuration of its world, so that the world can
be made again. Whatever can be read as a whole number may stand for a parameter;
what was not recorded has its default.
-/

namespace Forage.Recorded

def metadataName : String := "metadata"

def numeral (text : String) : Except Fault Int :=
  match Text.readWhole text.toList with
  | .ok value => .ok value
  | .error .malformed => .error (.notNumeral text)
  | .error (.tooManyDigits count) => .error (.tooManyDigits count)

def whole : Datum → Except Fault Int
  | .whole value => .ok value
  | .truth value => .ok (if value then 1 else 0)
  | .real number => Setting.truncate number
  | .text text => numeral text
  | _ => .error .wrongShape

/-- The recorded value of a parameter, or its default. -/
def parameter (fields : List (String × Datum)) (parameter : Parameter) : Except Fault Int :=
  match Datum.lookup parameter.name fields with
  | some datum => whole datum
  | none => .ok parameter.limits.default

def opcodes (fields : List (String × Datum)) : Except Fault (Option (List Opcode)) :=
  match (Datum.lookup "initial_program" fields).getD .null with
  | .null => .ok none
  | datum => (Tape.parse datum.asText).map fun tape => some tape.opcodes

def draft (fields : List (String × Datum)) : Except Fault Draft := do
  let width ← parameter fields .width
  let height ← parameter fields .height
  let initialFoodPercent ← parameter fields .initialFoodPercent
  let initialWallPercent ← parameter fields .initialWallPercent
  let initialPopulation ← parameter fields .initialPopulation
  let initialEnergy ← parameter fields .initialEnergy
  let mutationRate ← parameter fields .mutationRate
  let regrowthRate ← parameter fields .regrowthRate
  let energyPerFood ← parameter fields .energyPerFood
  let energyPerStep ← parameter fields .energyPerStep
  let reproductionThreshold ← parameter fields .reproductionThreshold
  let seed ← parameter fields .seed
  let vocabulary ← Vocabulary.ofDatum
    ((Datum.lookup "command_set" fields).getD (.text Vocabulary.extended.name))
  let opcodes ← opcodes fields
  let randomLength ←
    match Datum.lookup randomLengthName fields with
    | some datum => (whole datum).map Amount.whole
    | none => .ok Config.defaultLength
  let wraps (name : String) := (Datum.lookup name fields).getD (.truth true)
  return .ofConfig {
    width, height, initialFoodPercent, initialWallPercent, initialPopulation, initialEnergy,
    mutationRate, regrowthRate, energyPerFood, energyPerStep, reproductionThreshold, seed,
    wrapX := .truth (wraps "wrap_x").truthy
    wrapY := .truth (wraps "wrap_y").truthy
    vocabulary
    initialOpcodes := opcodes
    randomLength }

end Forage.Recorded

namespace Forage.Config

/-- The configuration that a summary records. -/
def ofSummary (summary : Datum) : Except Fault Config :=
  match summary with
  | .record fields =>
      match Datum.lookup Recorded.metadataName fields with
      | none => .error .missingKey
      | some (.record fields) => do (← Recorded.draft fields).toConfig
      | some _ => .error .noMetadata
  | _ => .error .wrongShape

end Forage.Config
