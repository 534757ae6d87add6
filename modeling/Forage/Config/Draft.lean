import Forage.Config

/-!
# Drafts of configurations

A draft holds what was asked for, before it is known to make sense. It is turned
into a configuration by checking the parameters in their order, then the length
of drawn tapes, then the opcodes.
-/

namespace Forage

def randomLengthName : String := "random_program_length"

structure Draft where
  parameter : Parameter → Datum
  wrapX : Datum
  wrapY : Datum
  vocabulary : Vocabulary
  /-- The opcodes asked for; an item that is no opcode is kept as a gap. -/
  opcodes : Option (List (Option Opcode))
  randomLength : Datum

namespace Vocabulary

def ofDatum (datum : Datum) : Except Fault Vocabulary :=
  match datum with
  | .text name =>
      match ofName? name with
      | some vocabulary => .ok vocabulary
      | none => .error (.unknownVocabulary datum.shown)
  | datum => .error (.unknownVocabulary datum.shown)

end Vocabulary

namespace Draft

def otherNames : List String :=
  ["wrap_x", "wrap_y", "command_set", "initial_program", randomLengthName]

def ofConfig (config : Config) : Draft where
  parameter parameter := .whole (config.get parameter)
  wrapX := config.wrapX
  wrapY := config.wrapY
  vocabulary := config.vocabulary
  opcodes := config.initialOpcodes.map (·.map some)
  randomLength := config.randomLength.toDatum

def opcodeOf : Datum → Option Opcode
  | .text name => Opcode.ofName? name
  | _ => none

def opcodesOf : Datum → Except Fault (Option (List (Option Opcode)))
  | .null => .ok none
  | .list items => .ok (some (items.map opcodeOf))
  | _ => .error .wrongShape

/-- The draft that a list of settings asks for; what is not mentioned has its default. -/
def ofFields (fields : List (String × Datum)) : Except Fault Draft := do
  let vocabulary ← Vocabulary.ofDatum
    ((Datum.lookup "command_set" fields).getD (.text Vocabulary.extended.name))
  let opcodes ←
    match Datum.lookup "initial_program" fields with
    | none => .ok (some (Config.defaultOpcodes.map some))
    | some datum => opcodesOf datum
  let known := Parameter.all.map Parameter.name ++ otherNames
  if fields.any fun field => !known.contains field.1 then throw .wrongShape
  return {
    parameter := fun parameter =>
      (Datum.lookup parameter.name fields).getD (.whole parameter.limits.default)
    wrapX := (Datum.lookup "wrap_x" fields).getD (.truth true)
    wrapY := (Datum.lookup "wrap_y" fields).getD (.truth true)
    vocabulary
    opcodes
    randomLength := (Datum.lookup randomLengthName fields).getD Config.defaultLength.toDatum }

def withoutGaps : List (Option Opcode) → Except Fault (List Opcode)
  | [] => .ok []
  | none :: _ => .error .foreignOpcode
  | some opcode :: rest => (withoutGaps rest).map (opcode :: ·)

def checkedOpcodes (draft : Draft) : Except Fault (Option (List Opcode)) :=
  match draft.opcodes with
  | none => .ok none
  | some items => (withoutGaps items).map some

def checked (draft : Draft) (parameter : Parameter) : Except Fault Int :=
  parameter.limits.check (draft.parameter parameter)

/-- The configuration a draft asks for, or the first fault in it. -/
def toConfig (draft : Draft) : Except Fault Config := do
  let width ← draft.checked .width
  let height ← draft.checked .height
  let initialFoodPercent ← draft.checked .initialFoodPercent
  let initialWallPercent ← draft.checked .initialWallPercent
  let initialPopulation ← draft.checked .initialPopulation
  let initialEnergy ← draft.checked .initialEnergy
  let mutationRate ← draft.checked .mutationRate
  let regrowthRate ← draft.checked .regrowthRate
  let energyPerFood ← draft.checked .energyPerFood
  let energyPerStep ← draft.checked .energyPerStep
  let reproductionThreshold ← draft.checked .reproductionThreshold
  let seed ← draft.checked .seed
  let randomLength ← Amount.atLeast randomLengthName 1 draft.randomLength
  let initialOpcodes ← draft.checkedOpcodes
  return {
    width, height, initialFoodPercent, initialWallPercent, initialPopulation, initialEnergy,
    mutationRate, regrowthRate, energyPerFood, energyPerStep, reproductionThreshold, seed,
    wrapX := draft.wrapX
    wrapY := draft.wrapY
    vocabulary := draft.vocabulary
    initialOpcodes
    randomLength }

end Draft

namespace Config

def ofFields (fields : List (String × Datum)) : Except Fault Config := do
  (← Draft.ofFields fields).toConfig

def default : Config :=
  Parameter.all.foldl (fun config parameter => config.set parameter parameter.limits.default)
    { width := 1, height := 1, initialFoodPercent := 0, initialWallPercent := 0,
      initialPopulation := 0, initialEnergy := 1, mutationRate := 0, regrowthRate := 0,
      energyPerFood := 0, energyPerStep := 0, reproductionThreshold := 1, seed := 0,
      wrapX := .truth true, wrapY := .truth true, vocabulary := .extended,
      initialOpcodes := some defaultOpcodes, randomLength := defaultLength }

def sortedNames (names : List String) : List String :=
  names.mergeSort Text.precedes

def fixedNames (changes : List (String × Datum)) : List String :=
  sortedNames ((changes.map Prod.fst).filter fun name =>
    !(Parameter.tunable.map Parameter.name).contains name)

/--
The configuration with the changes made, if all of them are to tunable parameters
and within limits. A list of changes is made as a whole or not at all.
-/
def update (config : Config) (changes : List (String × Datum)) : Except Fault Config :=
  match fixedNames changes with
  | [] =>
      let draft := Draft.ofConfig config
      { draft with
        parameter := fun parameter =>
          (Datum.lookup parameter.name changes).getD (draft.parameter parameter) }.toConfig
  | names => .error (.fixedParameters names)

end Config

end Forage
