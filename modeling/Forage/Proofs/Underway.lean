import Forage.Proofs.Course
import Forage.Proofs.Moments
import Forage.Proofs.Pending
import Forage.Proofs.Recorders

/-!
# Runs that are under way

A run that goes on takes one tick of its world, gives the tally of the scene to its
recorder, a row to the log of the ticks and the rows of the scene to the log of the
foragers, and flushes both. What a run has counted and gathered by then is told here by
the moments of its world.
-/

namespace Forage

namespace TickRow

variable {runId : String} {report : Report} {scene : Scene} {tally : Tally} {row : TickRow}

/-- A row of the log of the ticks tells of a moment. -/
structure Tells (runId : String) (moment : Moment) (row : TickRow) : Prop where
  made : ofTick runId moment.report moment.scene moment.tally = .ok row

theorem Tells.eq {moment : Moment} (tells : Tells runId moment row) :
    ∃ meanEnergy, moment.scene.meanEnergy = .ok meanEnergy ∧ row =
      { runId
        step := moment.scene.step
        population := moment.scene.population
        change := moment.tally.change
        food := moment.scene.foodCount
        walls := moment.scene.walls.size
        births := moment.report.births
        deaths := moment.report.deaths
        distinctPrograms := moment.scene.distinctPrograms
        meanEnergy } := by
  obtain ⟨meanEnergy, mean, rest⟩ := bind_eq_ok_iff.mp tells.made
  exact ⟨meanEnergy, mean, (pure_eq_ok_iff.mp rest).symm⟩

end TickRow

/-- The rows of the log of the foragers that are due to some moments. -/
def Moment.foragerRows (runId : String) (interval : Amount) (moments : List Moment) : List Row :=
  moments.flatMap fun moment =>
    (ForagerRow.ofScene runId interval moment.scene).map ForagerRow.toRow

namespace Run

variable {G : Type} [WordSource G] {plan : Plan} {runId : String} {run next last : Run G}
  {start : World G} {moments : List Moment} {rows : List TickRow}

/-- What one step of a run comes to. -/
structure Advance (plan : Plan) (runId : String) (run next : Run G) (report : Report)
    (row : TickRow) (recorder : Recorder) (middle : Disk) : Prop where
  ticked : run.world.tick = .ok report next.world
  scene : next.scene = next.world.scene
  last : next.last = some (Tally.next run.last next.world.scene)
  made : TickRow.ofTick runId report next.world.scene (Tally.next run.last next.world.scene) = .ok row
  births : next.births = run.births + report.births
  deaths : next.deaths = run.deaths + report.deaths
  stopped : next.stopped = (next.world.scene.population == 0 && plan.stopOnExtinction)
  updated : Recorder.Updated run.recorder next.world.scene recorder
  ticks : (run.ticks.add [row.toRow]).flushFull recorder.disk = .ok (next.ticks, middle)
  foragers : (run.foragers.add ((ForagerRow.ofScene runId plan.interval next.world.scene).map
      ForagerRow.toRow)).flushFull middle = .ok (next.foragers, next.recorder.disk)
  kept : next.recorder = { recorder with disk := next.recorder.disk }

theorem blame_eq_ok_iff {α : Type} {recorder : Recorder} {result : Except Fault α} {value : α} :
    blame recorder result = .ok value ↔ result = .ok value := by
  unfold blame
  cases result <;> simp [Except.mapError]

theorem exists_advance (done : run.advance plan runId = .ok next) :
    ∃ report row recorder middle, Advance plan runId run next report row recorder middle := by
  obtain ⟨⟨report, world⟩, ticked, rest⟩ := bind_eq_ok_iff.mp done
  obtain ⟨recorder, recorded, rest⟩ := bind_eq_ok_iff.mp rest
  obtain ⟨row, made, rest⟩ := bind_eq_ok_iff.mp rest
  obtain ⟨⟨ticks, middle⟩, flushed, rest⟩ := bind_eq_ok_iff.mp rest
  obtain ⟨⟨foragers, after⟩, flushedToo, rest⟩ := bind_eq_ok_iff.mp rest
  obtain rfl := pure_eq_ok_iff.mp rest
  have updated : Recorder.Updated run.recorder world.scene recorder := by
    unfold record at recorded
    cases result : run.recorder.update world.scene with
    | ok point other =>
        rw [result] at recorded
        obtain rfl := Except.ok.inj recorded
        exact .of_update result
    | error fault other => simp [result] at recorded
  exact ⟨report, row, recorder, middle, {
    ticked := tick_eq_ok_iff.mp ticked
    scene := rfl
    last := rfl
    made := blame_eq_ok_iff.mp made
    births := rfl
    deaths := rfl
    stopped := rfl
    updated
    ticks := blame_eq_ok_iff.mp flushed
    foragers := blame_eq_ok_iff.mp flushedToo
    kept := rfl }⟩

theorem advanceBy_keeps {Holds : Run G → Prop}
    (keeps : ∀ {run next}, run.advance plan runId = .ok next → Holds run → Holds next)
    {count : Nat} (done : run.advanceBy plan runId count = .ok last) (holds : Holds run) :
    Holds last := by
  induction count generalizing run with
  | zero =>
      obtain rfl := Except.ok.inj done
      exact holds
  | succ count inductionHypothesis =>
      unfold advanceBy at done
      cases advanced : run.advance plan runId with
      | error failure => simp [advanced] at done
      | ok next =>
          simp only [advanced] at done
          split at done
          · obtain rfl := Except.ok.inj done
            exact keeps advanced holds
          · exact inductionHypothesis done (keeps advanced holds)

/-- A run under way, told by the moments that its world went through and the rows on them. -/
structure Underway (plan : Plan) (runId : String) (start : World G) (run : Run G)
    (moments : List Moment) (rows : List TickRow) : Prop where
  course : start.Course moments run.world
  scene : run.scene = run.world.scene
  last : run.last = moments.getLast?.map Moment.tally
  births : run.births = (moments.map fun moment => moment.report.births).sum
  deaths : run.deaths = (moments.map fun moment => moment.report.deaths).sum
  tells : List.Forall₂ (TickRow.Tells runId) moments rows
  tickPath : run.ticks.path = Plan.tickLogPath plan.outDir
  tickColumns : run.ticks.columns = TickRow.columns
  ticks : run.ticks.Gathers (rows.map TickRow.toRow)
  foragerPath : run.foragers.path = Plan.foragerLogPath plan.outDir
  foragerColumns : run.foragers.columns = ForagerRow.columns
  foragers : run.foragers.Gathers (Moment.foragerRows runId plan.interval moments)

namespace Underway

theorem of_start (plan : Plan) (world : World G) (recorder : Recorder) :
    Underway plan runId world (Run.start plan world recorder) [] [] where
  course := .nil
  scene := rfl
  last := rfl
  births := rfl
  deaths := rfl
  tells := .nil
  tickPath := rfl
  tickColumns := rfl
  ticks := .ofPath _ _
  foragerPath := rfl
  foragerColumns := rfl
  foragers := .ofPath _ _

theorem flushes (underway : Underway plan runId start run moments rows) {report : Report}
    {row : TickRow} {recorder : Recorder} {middle : Disk}
    (advance : Advance plan runId run next report row recorder middle) :
    PendingLog.Flush PendingLog.groupSize (run.ticks.add [row.toRow]) recorder.disk next.ticks middle ∧
      next.ticks.waiting.size < PendingLog.groupSize ∧
      PendingLog.Flush PendingLog.groupSize
        (run.foragers.add ((ForagerRow.ofScene runId plan.interval next.world.scene).map
          ForagerRow.toRow)) middle next.foragers next.recorder.disk ∧
      next.foragers.waiting.size < PendingLog.groupSize := by
  obtain ⟨ticks, tickRoom⟩ := PendingLog.Flush.of_flushFull (underway.ticks.add _) advance.ticks
  obtain ⟨foragers, foragerRoom⟩ :=
    PendingLog.Flush.of_flushFull (underway.foragers.add _) advance.foragers
  exact ⟨ticks, tickRoom, foragers, foragerRoom⟩

theorem advance (underway : Underway plan runId start run moments rows) {report : Report}
    {row : TickRow} {recorder : Recorder} {middle : Disk}
    (advance : Advance plan runId run next report row recorder middle) :
    Underway plan runId start next (moments ++ [.after moments report next.world.scene])
      (rows ++ [row]) := by
  obtain ⟨ticks, -, foragers, -⟩ := underway.flushes advance
  have last := underway.last
  constructor
  · exact underway.course.snoc advance.ticked
  · exact advance.scene
  · rw [advance.last, last, List.getLast?_concat]
    rfl
  · rw [advance.births, underway.births]
    simp [Moment.after]
  · rw [advance.deaths, underway.deaths]
    simp [Moment.after]
  · refine List.rel_append underway.tells (.cons ⟨?_⟩ .nil)
    rw [Moment.after, ← last]
    exact advance.made
  · rw [ticks.path]
    exact underway.tickPath
  · rw [ticks.columns]
    exact underway.tickColumns
  · rw [List.map_append]
    exact (underway.ticks.add _).flush ticks
  · rw [foragers.path]
    exact underway.foragerPath
  · rw [foragers.columns]
    exact underway.foragerColumns
  · rw [Moment.foragerRows, List.flatMap_append, List.flatMap_singleton]
    exact (underway.foragers.add _).flush foragers

end Underway

/-- No log keeps a full group waiting, and those of the log of the ticks are just full. -/
structure Grouped (run : Run G) : Prop where
  tickRoom : run.ticks.waiting.size < PendingLog.groupSize
  tickGroups : ∀ group ∈ run.ticks.groups, group.length = PendingLog.groupSize
  foragerRoom : run.foragers.waiting.size < PendingLog.groupSize
  foragerGroups : ∀ group ∈ run.foragers.groups, PendingLog.groupSize ≤ group.length

omit [WordSource G] in
theorem Grouped.of_start (plan : Plan) (world : World G) (recorder : Recorder) :
    Grouped (Run.start plan world recorder) := by
  constructor
  · exact PendingLog.groupSize_pos
  · simp [Run.start, PendingLog.ofPath, PendingLog.groups]
  · exact PendingLog.groupSize_pos
  · simp [Run.start, PendingLog.ofPath, PendingLog.groups]

theorem Grouped.advance (grouped : Grouped run)
    (underway : Underway plan runId start run moments rows) {report : Report} {row : TickRow}
    {recorder : Recorder} {middle : Disk}
    (advance : Advance plan runId run next report row recorder middle) : Grouped next := by
  obtain ⟨ticks, tickRoom, foragers, foragerRoom⟩ := underway.flushes advance
  refine ⟨tickRoom, ?_, foragerRoom, foragers.least_le grouped.foragerGroups⟩
  intro group member
  have few : (run.ticks.add [row.toRow]).waiting.size ≤ PendingLog.groupSize := by
    simpa [PendingLog.add] using Nat.succ_le_of_lt grouped.tickRoom
  have most := ticks.le_most few
    (fun group member => Nat.le_of_eq (grouped.tickGroups group member)) group member
  have least := ticks.least_le
    (fun group member => Nat.le_of_eq (grouped.tickGroups group member).symm) group member
  exact Nat.le_antisymm most least

end Run

end Forage
