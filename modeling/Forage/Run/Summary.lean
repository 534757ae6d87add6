import Forage.Census
import Forage.Run.Plan

/-!
# Summaries

What came of a run, together with the configuration of its world, from which the
run can be repeated.
-/

namespace Forage

/-- The name of the runs of worlds with one seed and one geometry. -/
def Config.runId (config : Config) : String :=
  s!"seed{config.seed}_w{config.width}_h{config.height}"

structure Summary where
  runId : String
  stepsRun : Int
  finalPopulation : Int
  finalFood : Int
  births : Int
  deaths : Int
  topPrograms : List Standing
  config : Config
  steps : Amount
  interval : Amount
  stopped : Bool

namespace Summary

def version : Int := 1

def extinct (summary : Summary) : Bool :=
  summary.finalPopulation == 0

def terminationReason (summary : Summary) : Datum :=
  if summary.stopped then .text "extinct" else .null

def standing (standing : Standing) : Datum :=
  .record [("program", .text standing.label), ("count", .whole standing.count)]

/-- The settings under which the run can be repeated. -/
def metadata (summary : Summary) : Datum :=
  let config := summary.config
  .record [
    ("seed", .whole config.seed),
    ("steps", summary.steps.toDatum),
    ("width", .whole config.width),
    ("height", .whole config.height),
    ("wrap_x", config.wrapX),
    ("wrap_y", config.wrapY),
    ("initial_food_percent", .whole config.initialFoodPercent),
    ("initial_wall_percent", .whole config.initialWallPercent),
    ("initial_population", .whole config.initialPopulation),
    ("initial_energy", .whole config.initialEnergy),
    ("mutation_rate", .whole config.mutationRate),
    ("regrowth_rate", .whole config.regrowthRate),
    ("energy_per_food", .whole config.energyPerFood),
    ("energy_per_step", .whole config.energyPerStep),
    ("reproduction_threshold", .whole config.reproductionThreshold),
    ("command_set", .text config.vocabulary.name),
    ("initial_program", config.initialOpcodes.elim .null fun opcodes => .text (Opcode.label opcodes)),
    (randomLengthName, config.randomLength.toDatum),
    ("snapshot_interval", summary.interval.toDatum),
    ("termination_reason", summary.terminationReason),
    ("schema_version", .whole version)]

def toDatum (summary : Summary) : Datum :=
  .record [
    ("run_id", .text summary.runId),
    ("steps_run", .whole summary.stepsRun),
    ("final_population", .whole summary.finalPopulation),
    ("final_food", .whole summary.finalFood),
    ("extinct", .truth summary.extinct),
    ("total_births", .whole summary.births),
    ("total_deaths", .whole summary.deaths),
    ("top_programs", .list (summary.topPrograms.map standing)),
    ("metadata", summary.metadata)]

end Summary

end Forage
