import Forage.Command
import Forage.Command.Simulate
import Forage.Config.Recorded

/-!
# The command that draws

One of its two tasks draws some columns of a log over the steps; the other makes
the world of a recorded run again, lets it come to a step, and draws its scene.
-/

namespace Forage.Chart

inductive Task where
  | series
  | frame
deriving DecidableEq, Repr

def Task.all : List Task := [.series, .frame]

def Task.name : Task → String
  | series => "timeseries"
  | frame => "frame"

def required (rule : OptionRule) : OptionRule := { rule with required := true }

def rules : Task → List OptionRule
  | .series =>
      [Simulate.help, required (Simulate.textRule "population_log"),
        required (Simulate.textRule "output"), Simulate.textRule "base_dir",
        Simulate.textRule "series"]
  | .frame =>
      [Simulate.help, required (Simulate.textRule "run_json"),
        required (Simulate.wholeRule "step"), required (Simulate.textRule "output"),
        Simulate.textRule "base_dir"]

/-- Finds the task among the words: the first word that is neither option nor stray. -/
def choose : (strays : List String) → List String → List Word →
    Except Misuse (Task × List String × List String)
  | strays, _ :: args, .stray text :: words => choose (strays ++ [text]) args words
  | _, _, .option rule name joined :: _ =>
      match Given.ofSwitch rule name joined with
      | .error misuse => .error misuse
      | .ok _ => .error .helpWanted
  | strays, _ :: args, .value text :: _ =>
      match Task.all.find? fun task => task.name == text with
      | some task => .ok (task, strays, args)
      | none => .error (.unknownCommand text (Task.all.map Task.name))
  | _, _, .dashes :: .value _ :: _ =>
      .error (.unknownCommand "--" (Task.all.map Task.name))
  | _, _, _ => .error .noCommand

def readArgs (args : List String) : Except Misuse (Task × Given) := do
  let words ← Word.sortAll [Simulate.help] args
  let (task, strays, rest) ← choose [] args words
  let given ← Given.readLoose (rules task) rest
  Given.requireNoStrays (strays ++ given.strays)
  return (task, given)

def seriesOf (text : String) : Except Fault (List String) :=
  match Text.commaParts text.toList with
  | [] => .error .noSeries
  | parts => .ok (parts.map String.ofList)

def pathOf (given : Given) (key : String) : Except Fault Path :=
  match given.get key with
  | some (.text path) => .ok (.ofString path)
  | _ => .error .wrongShape

def baseOf (given : Given) : Path :=
  match given.get "base_dir" with
  | some (.text path) => .ofString path
  | _ => .ofString "."

def namesOf (given : Given) : Except Fault (List String) :=
  match (given.get "series").getD (.text "population,food") with
  | .text text => seriesOf text
  | _ => .error .lackingPart

/-- The log that is asked for; an empty list of logs has no columns. -/
def logOf (disk : Disk) (given : Given) : Except Fault Log :=
  match given.get "population_log" with
  | some (.text path) => disk.readLog (.ofString path)
  | _ => .ok (.empty [])

def columnsOf (log : Log) (names : List String) : Except Fault (List (String × List Datum)) :=
  match names.filter fun name => (log.column? name).isNone with
  | [] => .ok (names.filterMap fun name => (log.column? name).map fun column => (name, column))
  | unknown => .error (.unknownSeries unknown)

def chart (disk : Disk) (given : Given) : Except Fault (Except Fault Figure) := do
  let names ← namesOf given
  let log ← logOf disk given
  let columns ← columnsOf log names
  if log.rows.isEmpty then throw .emptyLog
  return Figure.ofColumns ((log.column? "step").getD []) columns

def advanceTo {G : Type} [WordSource G] (world : World G) : (ticks : Nat) → Except Fault (World G)
  | 0 => .ok world
  | ticks + 1 =>
      match world.tick with
      | .ok _ world => advanceTo world ticks
      | .error fault _ => .error fault

/-- The scene after so many ticks of the world that a summary records. -/
def sceneAt (G : Type) [SeededSource G] (summary : Datum) (step : Nat) : Except Fault Scene := do
  let config ← Config.ofSummary summary
  let source : G := SeededSource.ofSeed config.seed
  let world ← World.create config source
  return (← advanceTo world step).scene

def stepOf (given : Given) : Except Fault Nat :=
  match given.get "step" with
  | some (.whole step) => if step < 0 then .error .negativeStep else .ok step.toNat
  | _ => .error .wrongShape

def frame (G : Type) [SeededSource G] (disk : Disk) (given : Given) : Except Fault Scene := do
  let step ← stepOf given
  let chars ← disk.readChars (← pathOf given "run_json")
  sceneAt G (← Json.read chars) step

def figure (task : Task) (disk : Disk) (given : Given) : Except Fault (Except Fault Figure) :=
  match task with
  | .series => chart disk given
  | .frame => (frame Twister disk given).map Figure.ofScene

def replyOf (task : Task) (output : Path) : Datum :=
  .record [("command", .text task.name), ("output", .text output.text)]

def main (args : List String) : Work String := do
  let (task, given) ← Work.understood (readArgs args)
  let figure ← Work.asked (figure task (← get).disk given)
  let output ← Work.asked (pathOf given "output")
  let output ← Work.mapFault .ofFault (Figure.draw (baseOf given) output figure)
  return Json.write .oneLine 0 (replyOf task output) ++ "\n"

end Forage.Chart
