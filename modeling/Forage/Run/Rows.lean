import Forage.Census
import Forage.Log
import Forage.Tally
import Forage.World.Tick

/-!
# Rows of the logs of a run

One log has a row for every tick. The other has a row for every forager that is
alive at the steps at which the foragers are logged one by one.
-/

namespace Forage

structure TickRow where
  runId : String
  step : Int
  population : Int
  change : Int
  food : Int
  walls : Int
  births : Int
  deaths : Int
  distinctPrograms : Int
  meanEnergy : Option Binary64
deriving DecidableEq, Repr

namespace TickRow

def columns : List Column :=
  [⟨"run_id", .text⟩, ⟨"step", .whole⟩, ⟨"population", .whole⟩, ⟨"population_delta", .whole⟩,
    ⟨"food", .whole⟩, ⟨"walls", .whole⟩, ⟨"births", .whole⟩, ⟨"deaths", .whole⟩,
    ⟨"distinct_programs", .whole⟩, ⟨"mean_energy", .real⟩]

def toRow (row : TickRow) : Row :=
  [.text row.runId, .whole row.step, .whole row.population, .whole row.change, .whole row.food,
    .whole row.walls, .whole row.births, .whole row.deaths, .whole row.distinctPrograms,
    row.meanEnergy.elim .null .real]

def ofTick (runId : String) (report : Report) (scene : Scene) (tally : Tally) :
    Except Fault TickRow := do
  let meanEnergy ← scene.meanEnergy
  return {
    runId
    step := scene.step
    population := scene.population
    change := tally.change
    food := scene.foodCount
    walls := scene.walls.size
    births := report.births
    deaths := report.deaths
    distinctPrograms := scene.distinctPrograms
    meanEnergy }

end TickRow

structure ForagerRow where
  runId : String
  step : Int
  sighting : Sighting
deriving DecidableEq, Repr

namespace ForagerRow

def columns : List Column :=
  [⟨"run_id", .text⟩, ⟨"step", .whole⟩, ⟨"entity_id", .whole⟩, ⟨"x", .whole⟩, ⟨"y", .whole⟩,
    ⟨"direction", .text⟩, ⟨"energy", .whole⟩, ⟨"program", .text⟩, ⟨"program_length", .whole⟩]

def toRow (row : ForagerRow) : Row :=
  [.text row.runId, .whole row.step, .whole row.sighting.id, .whole row.sighting.cell.x,
    .whole row.sighting.cell.y, .text row.sighting.heading.name, .whole row.sighting.energy,
    .text row.sighting.label, .whole row.sighting.opcodes.length]

/-- The rows of a scene, if the foragers are logged at its step. -/
def ofScene (runId : String) (interval : Amount) (scene : Scene) : List ForagerRow :=
  if interval.isPositive && interval.divides scene.step then
    scene.sightings.map fun sighting => ⟨runId, scene.step, sighting⟩
  else []

end ForagerRow

end Forage
