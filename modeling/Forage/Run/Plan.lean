import Forage.Config.Draft
import Forage.Path

/-!
# Plans

A plan says how long a world is to run, what is to be written down on the way and
where. It is made from a draft, which holds what was asked for before it is known
to make sense.
-/

namespace Forage

structure Plan where
  steps : Amount
  /-- Every so many steps the foragers are logged one by one; zero for never. -/
  interval : Amount
  stopOnExtinction : Bool
  outDir : Path
  records : List (Path × String)
  /-- How many of the most common programs the summary names. -/
  topPrograms : Amount
deriving DecidableEq, Repr

namespace Plan

structure Draft where
  steps : Datum := .whole 1000
  interval : Datum := .whole 10
  stopOnExtinction : Datum := .truth true
  outDir : Path := .ofString "data"
  records : List (Path × String) := []
  topPrograms : Datum := .whole 10

def Valid (plan : Plan) : Prop :=
  plan.steps.isBelow 1 = false ∧ plan.interval.isBelow 0 = false ∧
    plan.topPrograms.isBelow 1 = false

def Draft.toPlan (draft : Draft) : Except Fault Plan := do
  let steps ← Amount.atLeast "steps" 1 draft.steps
  let interval ← Amount.atLeast "snapshot_interval" 0 draft.interval
  let topPrograms ← Amount.atLeast "top_programs" 1 draft.topPrograms
  return {
    steps
    interval
    stopOnExtinction := draft.stopOnExtinction.truthy
    outDir := draft.outDir
    records := draft.records
    topPrograms }

def recordOf : Datum → Except Fault (Path × String)
  | .list [.text path, .text pattern] => .ok (.ofString path, pattern)
  | _ => .error .wrongShape

def recordsOf : Datum → Except Fault (List (Path × String))
  | .list items => items.mapM recordOf
  | _ => .error .wrongShape

def Draft.set (draft : Draft) (field : String × Datum) : Except Fault Draft :=
  match field with
  | ("steps", datum) => .ok { draft with steps := datum }
  | ("snapshot_interval", datum) => .ok { draft with interval := datum }
  | ("stop_on_extinction", datum) => .ok { draft with stopOnExtinction := datum }
  | ("out_dir", .text path) => .ok { draft with outDir := .ofString path }
  | ("stats_files", datum) => (recordsOf datum).map fun records => { draft with records }
  | ("top_programs", datum) => .ok { draft with topPrograms := datum }
  | _ => .error .wrongShape

/-- The draft that a list of settings asks for; what is not mentioned has its default. -/
def Draft.ofFields (fields : List (String × Datum)) : Except Fault Draft :=
  fields.foldlM Draft.set {}

end Plan

end Forage
