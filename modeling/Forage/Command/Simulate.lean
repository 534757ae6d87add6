import Forage.Command
import Forage.Config.Draft
import Forage.Random.Twister
import Forage.Run
import Forage.Settings
import Forage.Tape.Reader

/-!
# The command that runs a world

What the command is told directly goes before what a file of settings says, and
that before the defaults. The settings are checked in a fixed order, so of several
faults the first in that order is the one that is told.
-/

namespace Forage.Simulate

def optionName (key : String) : String :=
  "--" ++ String.ofList (key.toList.map fun c => if c = '_' then '-' else c)

def help : OptionRule := ⟨["-h", "--help"], "help", .help, false⟩

def textRule (key : String) : OptionRule := ⟨[optionName key], key, .text, false⟩

def wholeRule (key : String) : OptionRule := ⟨[optionName key], key, .whole, false⟩

def switchRule (key : String) : OptionRule :=
  ⟨[optionName key, optionName ("no_" ++ key)], key, .switch, false⟩

def rules : List OptionRule :=
  [help, textRule "config"] ++
  Parameter.all.map (fun parameter => wholeRule parameter.name) ++
  [switchRule "wrap_x", switchRule "wrap_y", textRule "command_set", textRule "initial_program",
    wholeRule randomLengthName, wholeRule "steps", wholeRule "snapshot_interval",
    switchRule "stop_on_extinction", wholeRule "top_programs", textRule "out_dir",
    textRule "stats_file", textRule "render_final"]

def vocabularyOf (name : String) : Except Fault Vocabulary :=
  match Vocabulary.ofName? (String.ofList (Text.lower name.toList)) with
  | some vocabulary => .ok vocabulary
  | none => .error .vocabularyNeeded

/-- The word that asks for a tape of its own for every first forager. -/
def randomWord : String := "random"

def opcodesOf (text : String) : Except Fault (Option (List Opcode)) :=
  if Setting.plain text == randomWord then .ok none
  else (Tape.parse text).map fun tape => some tape.opcodes

/-- The record file and the template given as one text with an equals sign between them. -/
def recordOf (item : String) : Except Fault (Path × String) :=
  match Text.cut '=' item.toList with
  | none => .error (.noPattern item)
  | some ([], _) => .error (.noRecordPath item)
  | some (path, pattern) =>
      let pattern := String.ofList pattern
      (Template.parse pattern).map fun _ => (.ofString (String.ofList path), pattern)

def recordsOf : List Datum → Except Fault (List (Path × String))
  | [] => .ok []
  | .text item :: items => do
      let record ← recordOf item
      return record :: (← recordsOf items)
  | item :: _ => .error (.noPattern item.shown)

structure Sources where
  given : Given
  file : List (String × Datum)

namespace Sources

def pick (sources : Sources) (key : String) (default : Datum) : Datum :=
  Setting.pick (sources.given.get key) key sources.file default

def truth (sources : Sources) (key : String) : Except Fault Bool :=
  Setting.truth key (sources.pick key (.truth true))

def whole (sources : Sources) (key : String) (default : Int) : Except Fault Int :=
  Setting.whole key (sources.pick key (.whole default))

def text (sources : Sources) (key : String) (default : String) : Except Fault String :=
  Setting.text key (sources.pick key (.text default))

def parameter (sources : Sources) (parameter : Parameter) : Except Fault Int :=
  sources.whole parameter.name parameter.limits.default

def opcodes (sources : Sources) : Except Fault (Option (List Opcode)) :=
  match sources.pick "initial_program" .null with
  | .null => .ok (some Config.defaultOpcodes)
  | datum => do opcodesOf (← Setting.text "initial_program" datum)

def config (sources : Sources) : Except Fault Config := do
  let width ← sources.parameter .width
  let height ← sources.parameter .height
  let initialFoodPercent ← sources.parameter .initialFoodPercent
  let initialWallPercent ← sources.parameter .initialWallPercent
  let initialPopulation ← sources.parameter .initialPopulation
  let initialEnergy ← sources.parameter .initialEnergy
  let mutationRate ← sources.parameter .mutationRate
  let regrowthRate ← sources.parameter .regrowthRate
  let energyPerFood ← sources.parameter .energyPerFood
  let energyPerStep ← sources.parameter .energyPerStep
  let reproductionThreshold ← sources.parameter .reproductionThreshold
  let seed ← sources.parameter .seed
  let wrapX ← sources.truth "wrap_x"
  let wrapY ← sources.truth "wrap_y"
  let vocabulary ← vocabularyOf (← sources.text "command_set" Vocabulary.extended.name)
  let initialOpcodes ← sources.opcodes
  let randomLength ← Setting.whole randomLengthName
    (sources.pick randomLengthName Config.defaultLength.toDatum)
  (Draft.ofConfig {
    width, height, initialFoodPercent, initialWallPercent, initialPopulation, initialEnergy,
    mutationRate, regrowthRate, energyPerFood, energyPerStep, reproductionThreshold, seed,
    wrapX := .truth wrapX
    wrapY := .truth wrapY
    vocabulary
    initialOpcodes
    randomLength := .whole randomLength }).toConfig

def plan (sources : Sources) : Except Fault Plan := do
  let outDir ← sources.text "out_dir" "data"
  let steps ← sources.whole "steps" 1000
  let interval ← sources.whole "snapshot_interval" 10
  let stopOnExtinction ← sources.truth "stop_on_extinction"
  let records ← recordsOf (sources.given.all "stats_file")
  let topPrograms ← sources.whole "top_programs" 10
  Plan.Draft.toPlan {
    steps := .whole steps
    interval := .whole interval
    stopOnExtinction := .truth stopOnExtinction
    outDir := .ofString outDir
    records
    topPrograms := .whole topPrograms }

end Sources

structure Request where
  config : Config
  plan : Plan
  picture : Option Path

/-- The path of the picture that is asked for, which must not lead out of the output directory. -/
def pictureOf (cwd : Place) (given : Given) (plan : Plan) : Except Fault (Option Path) :=
  match given.get "render_final" with
  | none => .ok none
  | some (.text path) => (Path.resolveWithin cwd plan.outDir (.ofString path)).map some
  | some _ => .error .lackingPart

def fileOf (disk : Disk) (given : Given) : Except Fault (List (String × Datum)) :=
  match given.get "config" with
  | none => .ok []
  | some (.text path) => disk.readSettings (.ofString path)
  | some _ => .error .wrongShape

def request (disk : Disk) (given : Given) : Except Fault Request := do
  let file ← fileOf disk given
  let sources : Sources := ⟨given, file⟩
  let config ← sources.config
  let plan ← sources.plan
  let picture ← pictureOf disk.cwd given plan
  return { config, plan, picture }

def draw (request : Request) (scene : Scene) : EStateM Fault Session (Option Path) :=
  match request.picture with
  | none => pure none
  | some path => do
      let resolved ← Figure.draw request.plan.outDir path (Figure.ofScene scene)
      return some resolved

structure Outcome where
  plan : Plan
  summary : Summary
  picture : Option Path

namespace Outcome

def toDatum (outcome : Outcome) : Datum :=
  let summary := outcome.summary
  .record ([
    ("run_id", .text summary.runId),
    ("steps_run", .whole summary.stepsRun),
    ("final_population", .whole summary.finalPopulation),
    ("final_food", .whole summary.finalFood),
    ("extinct", .truth summary.extinct),
    ("termination_reason", summary.terminationReason),
    ("out_dir", .text outcome.plan.outDir.text)] ++
    (outcome.picture.map fun path => ("rendered", Datum.text path.text)).toList)

def reply (outcome : Outcome) : String :=
  Json.write .indented 0 outcome.toDatum ++ "\n"

end Outcome

def work (request : Request) : EStateM Fault Session Outcome := do
  let source : Twister := SeededSource.ofSeed request.config.seed
  let world ← Session.given (World.create request.config source)
  let (summary, world) ← Session.onDisk (Run.perform request.plan world)
  let picture ← draw request world.scene
  return { plan := request.plan, summary, picture }

def perform (args : List String) : Work Outcome := do
  let given ← Work.understood (Given.read rules args)
  let request ← Work.asked (request (← get).disk given)
  Work.mapFault .failure (work request)

def main (args : List String) : Work String := do
  return (← perform args).reply

end Forage.Simulate
