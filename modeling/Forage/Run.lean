import Forage.Json.Printer
import Forage.Log.Location
import Forage.Recorder
import Forage.Run.Rows
import Forage.Run.Summary

/-!
# Runs

A run advances a world tick by tick, writes a tally of every tick to the record
files, logs the ticks and, every so often, the foragers, and in the end writes a
summary. Rows are gathered and written to the logs in groups. A run that fails
leaves on the disk what it has written so far.
-/

namespace Forage

/-- A log that is being written: the rows that wait, and what has been written. -/
structure PendingLog where
  path : Path
  columns : List Column
  waiting : Array Row
  written : Option (Place × Log)

namespace PendingLog

/-- The number of waiting rows at which a group is written. -/
def groupSize : Nat := 8192

def ofPath (path : Path) (columns : List Column) : PendingLog :=
  ⟨path, columns, #[], none⟩

def add (pending : PendingLog) (rows : List Row) : PendingLog :=
  { pending with waiting := pending.waiting ++ rows }

def target (pending : PendingLog) (disk : Disk) : Except Fault (Place × Log) :=
  match pending.written with
  | some written => .ok written
  | none => (disk.logPlace pending.path).map fun place => (place, Log.empty pending.columns)

def flush (pending : PendingLog) (disk : Disk) : Except Fault (PendingLog × Disk) :=
  if pending.waiting.isEmpty then .ok (pending, disk)
  else if !pending.waiting.all fun row => row.all Log.storable then .error .tooLarge
  else do
    let (place, log) ← pending.target disk
    let log ← log.append pending.waiting.toList
    return ({ pending with waiting := #[], written := some (place, log) }, disk.put place (.log log))

def flushFull (pending : PendingLog) (disk : Disk) : Except Fault (PendingLog × Disk) :=
  if groupSize ≤ pending.waiting.size then pending.flush disk else .ok (pending, disk)

end PendingLog

structure Run (G : Type) where
  world : World G
  scene : Scene
  recorder : Recorder
  last : Option Tally
  ticks : PendingLog
  foragers : PendingLog
  births : Nat
  deaths : Nat
  stopped : Bool

/-- A fault in the midst of a run, and the recorder as it was then. -/
structure Failure where
  fault : Fault
  recorder : Recorder

namespace Plan

def logsDir (outDir : Path) : Path := outDir.child "logs"

def runsDir (outDir : Path) : Path := outDir.child "runs"

def tickLogPath (outDir : Path) : Path := (logsDir outDir).child "population_log.parquet"

def foragerLogPath (outDir : Path) : Path := (logsDir outDir).child "entity_log.parquet"

def summaryPath (outDir : Path) (runId : String) : Path :=
  (runsDir outDir).join (.ofString s!"{runId}.json")

end Plan

namespace Run

variable {G : Type}

def start (plan : Plan) (world : World G) (recorder : Recorder) : Run G where
  world
  scene := world.scene
  recorder
  last := none
  ticks := .ofPath (Plan.tickLogPath plan.outDir) TickRow.columns
  foragers := .ofPath (Plan.foragerLogPath plan.outDir) ForagerRow.columns
  births := 0
  deaths := 0
  stopped := false

def blame {α : Type} (recorder : Recorder) (result : Except Fault α) : Except Failure α :=
  result.mapError fun fault => ⟨fault, recorder⟩

def flushFull (run : Run G) : Except Failure (Run G) := do
  let (ticks, disk) ← blame run.recorder (run.ticks.flushFull run.recorder.disk)
  let recorder := { run.recorder with disk }
  let (foragers, disk) ← blame recorder (run.foragers.flushFull disk)
  return { run with ticks, foragers, recorder := { recorder with disk } }

def record (recorder : Recorder) (scene : Scene) : Except Failure Recorder :=
  match recorder.update scene with
  | .ok _ recorder => .ok recorder
  | .error fault recorder => .error ⟨fault, recorder⟩

variable [WordSource G]

def tick (run : Run G) : Except Failure (Report × World G) :=
  match run.world.tick with
  | .ok report world => .ok (report, world)
  | .error fault _ => .error ⟨fault, run.recorder⟩

def advance (plan : Plan) (runId : String) (run : Run G) : Except Failure (Run G) := do
  let (report, world) ← run.tick
  let scene := world.scene
  let tally := Tally.next run.last scene
  let recorder ← record run.recorder scene
  let row ← blame recorder (TickRow.ofTick runId report scene tally)
  flushFull {
    world
    scene
    recorder
    last := some tally
    ticks := run.ticks.add [row.toRow]
    foragers := run.foragers.add ((ForagerRow.ofScene runId plan.interval scene).map ForagerRow.toRow)
    births := run.births + report.births
    deaths := run.deaths + report.deaths
    stopped := scene.population == 0 && plan.stopOnExtinction }

/-- Advances a run by so many ticks, or until it is stopped. -/
def advanceBy (plan : Plan) (runId : String) : Nat → Run G → Except Failure (Run G)
  | 0, run => .ok run
  | count + 1, run =>
      match run.advance plan runId with
      | .error failure => .error failure
      | .ok run => if run.stopped then .ok run else advanceBy plan runId count run

def summary (plan : Plan) (runId : String) (run : Run G) : Except Fault Summary := do
  let topPrograms ← plan.topPrograms.count
  return {
    runId
    stepsRun := run.scene.step
    finalPopulation := run.scene.population
    finalFood := run.scene.foodCount
    births := run.births
    deaths := run.deaths
    topPrograms := run.scene.topPrograms topPrograms
    config := run.world.config
    steps := plan.steps
    interval := plan.interval
    stopped := run.stopped }

def writeEmpty (wanted : Bool) (pending : PendingLog) (disk : Disk) : Except Fault Disk :=
  if wanted && pending.written.isNone then
    (disk.logPlace pending.path).map fun place => disk.put place (.log ⟨pending.columns, [[]]⟩)
  else .ok disk

/-- Writes a text into a file; a file for a text without bytes is left empty. -/
def writeText (path : Path) (text : String) : EStateM Fault Disk Unit := fun disk =>
  match disk.writable path with
  | .error fault => .error fault disk
  | .ok place =>
      match Text.encode Text.noByte (Text.points text.toList) with
      | .ok bytes => .ok () (disk.put place (.bytes bytes.toArray))
      | .error stretch => .error (.unencodable stretch) (disk.put place (.bytes #[]))

def finish (plan : Plan) (runId : String) (run : Run G) : EStateM Fault Disk Summary := fun _ =>
  let disk := run.recorder.close.disk
  match run.ticks.flush disk with
  | .error fault => .error fault disk
  | .ok (_, disk) =>
      match run.foragers.flush disk with
      | .error fault => .error fault disk
      | .ok (foragers, disk) =>
          match writeEmpty plan.interval.isPositive foragers disk with
          | .error fault => .error fault disk
          | .ok disk =>
              match run.summary plan runId with
              | .error fault => .error fault disk
              | .ok summary =>
                  match Json.print .indented summary.toDatum with
                  | .error fault => .error fault disk
                  | .ok text =>
                      match writeText (Plan.summaryPath plan.outDir runId) text disk with
                      | .error fault disk => .error fault disk
                      | .ok _ disk => .ok summary disk

def advanceAll (plan : Plan) (runId : String) (run : Run G) : Except Failure (Run G) := do
  let steps ← blame run.recorder plan.steps.count
  run.advanceBy plan runId steps.toNat

def perform (plan : Plan) (world : World G) : EStateM Fault Disk (Summary × World G) := do
  let runId := world.config.runId
  Disk.makeDirectories (Plan.logsDir plan.outDir)
  Disk.makeDirectories (Plan.runsDir plan.outDir)
  fun disk =>
    match Recorder.create plan.records disk with
    | .error fault recorder => .error fault recorder.disk
    | .ok _ recorder =>
        match (start plan world recorder).advanceAll plan runId with
        | .error failure => .error failure.fault failure.recorder.close.disk
        | .ok run =>
            match run.finish plan runId recorder.disk with
            | .error fault disk => .error fault disk
            | .ok summary disk => .ok (summary, run.world) disk

end Run

end Forage
