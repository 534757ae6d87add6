import Forage.Proofs.Filing

/-!
# What comes of a run

A run that comes to its end has opened its record files, gone on for as many ticks as its
plan and its world allowed, closed the record files, written what waited for its logs and
then its summary. From this follows what is on the disk in the end.
-/

namespace Forage

namespace Run

variable {G : Type} {plan : Plan} {runId : String} {run : Run G} {world after : World G}
  {summary : Summary} {disk rest : Disk}

/-- The steps of the end of a run. -/
structure Finish (plan : Plan) (runId : String) (run : Run G) (summary : Summary) (rest : Disk)
    (ticks flushed : PendingLog) (first second third : Disk) : Prop where
  ticks : run.ticks.flush run.recorder.close.disk = .ok (ticks, first)
  foragers : run.foragers.flush first = .ok (flushed, second)
  empty : writeEmpty plan.interval.isPositive flushed second = .ok third
  made : run.summary plan runId = .ok summary
  short : Json.isShort summary.toDatum = true
  text : writeText (Plan.summaryPath plan.outDir runId)
    (Json.write .indented 0 summary.toDatum) third = .ok () rest

theorem finish_eq_ok_iff :
    run.finish plan runId disk = .ok summary rest ↔
      ∃ ticks flushed first second third,
        Finish plan runId run summary rest ticks flushed first second third := by
  constructor
  · intro done
    unfold finish at done
    dsimp only at done
    split at done
    · simp at done
    next ticks first tickFlush =>
      split at done
      · simp at done
      next flushed second foragerFlush =>
        split at done
        · simp at done
        next third empty =>
          split at done
          · simp at done
          next made =>
            split at done
            · simp at done
            next printed =>
              obtain ⟨short, rfl⟩ := Json.print_eq_ok_iff.mp printed
              split at done
              · simp at done
              next text =>
                obtain ⟨rfl, rfl⟩ := EStateM.Result.ok.inj done
                exact ⟨ticks, flushed, first, second, third, tickFlush, foragerFlush, empty, made,
                  short, text⟩
  · rintro ⟨ticks, flushed, first, second, third, finish⟩
    have printed : Json.print .indented summary.toDatum = .ok _ :=
      Json.print_eq_ok_iff.mpr ⟨finish.short, rfl⟩
    simp only [Run.finish, finish.ticks, finish.foragers, finish.empty, finish.made, printed,
      finish.text]

variable [WordSource G]

theorem perform_eq_ok_iff :
    Run.perform plan world disk = .ok (summary, after) rest ↔
      ∃ made ready opened run,
        Disk.makeDirectories (Plan.logsDir plan.outDir) disk = .ok () made ∧
        Disk.makeDirectories (Plan.runsDir plan.outDir) made = .ok () ready ∧
        Recorder.create plan.records ready = .ok () opened ∧
        (start plan world opened).advanceAll plan world.config.runId = .ok run ∧
        run.finish plan world.config.runId opened.disk = .ok summary rest ∧ after = run.world := by
  constructor
  · intro done
    obtain ⟨_, made, logs, done⟩ := estate_bind_eq_ok_iff.mp done
    obtain ⟨_, ready, runs, done⟩ := estate_bind_eq_ok_iff.mp done
    split at done
    · simp at done
    next opened created =>
      split at done
      · simp at done
      next run advanced =>
        split at done
        · simp at done
        next finished =>
          obtain ⟨same, rfl⟩ := EStateM.Result.ok.inj done
          obtain ⟨rfl, rfl⟩ := Prod.mk.inj same
          exact ⟨made, ready, opened, run, logs, runs, created, advanced, finished, rfl⟩
  · rintro ⟨made, ready, opened, run, logs, runs, created, advanced, finished, rfl⟩
    apply estate_bind_eq_ok_iff.mpr
    refine ⟨(), made, logs, ?_⟩
    apply estate_bind_eq_ok_iff.mpr
    refine ⟨(), ready, runs, ?_⟩
    simp only [created, advanced, finished]

theorem exists_underway {destinations : List (Path × String)} {opened : Recorder} {count : Nat}
    (created : Recorder.Opened destinations disk opened)
    (done : (start plan world opened).advanceBy plan runId count = .ok run) :
    ∃ moments rows, (count ≠ 0 → moments ≠ []) ∧ Underway plan runId world run moments rows ∧
      Grouped run ∧ Filed plan runId opened run moments := by
  have keeps {run next : Run G} (advanced : run.advance plan runId = .ok next)
      {moments : List Moment} {rows : List TickRow}
      (holds : Underway plan runId world run moments rows ∧ Grouped run ∧
        Filed plan runId opened run moments) :
      ∃ more rows, more ≠ [] ∧ Underway plan runId world next more rows ∧ Grouped next ∧
        Filed plan runId opened next more := by
    obtain ⟨underway, grouped, filed⟩ := holds
    obtain ⟨report, row, recorder, middle, advance⟩ := exists_advance advanced
    exact ⟨_, _, by simp, underway.advance advance, grouped.advance underway advance,
      filed.advance underway advance⟩
  have begun : Underway plan runId world (start plan world opened) [] [] ∧
      Grouped (start plan world opened) ∧ Filed plan runId opened (start plan world opened) [] :=
    ⟨.of_start plan world opened, .of_start plan world opened, .of_start world created⟩
  cases count with
  | zero =>
      obtain rfl := Except.ok.inj done
      exact ⟨[], [], by simp, begun⟩
  | succ count =>
      unfold advanceBy at done
      cases advanced : (start plan world opened).advance plan runId with
      | error failure => simp [advanced] at done
      | ok next =>
          have first := keeps advanced begun
          simp only [advanced] at done
          have last : ∃ more rows, more ≠ [] ∧ Underway plan runId world run more rows ∧
              Grouped run ∧ Filed plan runId opened run more := by
            split at done
            · obtain rfl := Except.ok.inj done
              exact first
            · apply advanceBy_keeps _ done first
              rintro run next advanced ⟨moments, rows, -, holds⟩
              exact keeps advanced holds
          obtain ⟨moments, rows, some, holds⟩ := last
          exact ⟨moments, rows, fun _ => some, holds⟩

/-- A run that has come to its end, with all that came up on the way. -/
structure Outcome (plan : Plan) (world : World G) (disk : Disk) (summary : Summary)
    (after : World G) (rest : Disk) where
  opened : Recorder
  run : Run G
  moments : List Moment
  rows : List TickRow
  ticks : PendingLog
  /-- The log of the foragers before it is made for want of rows. -/
  flushed : PendingLog
  foragers : PendingLog
  first : Disk
  second : Disk
  third : Disk
  grown : Disk.Grown opened.places disk opened.disk
  logs : ∀ {place : Place} {log : Log}, opened.disk.files[place]? = some (.log log) →
    disk.files[place]? = some (.log log)
  serves : List.Forall₂ (Recorder.Serves opened.disk) plan.records opened.files
  world_eq : after = run.world
  begun : plan.Valid → moments ≠ []
  underway : Underway plan world.config.runId world run moments rows
  grouped : Grouped run
  filed : Filed plan world.config.runId opened run moments
  finish : Finish plan world.config.runId run summary rest ticks flushed first second third
  tickFlush : PendingLog.Flush 1 run.ticks run.recorder.close.disk ticks first
  tickEmpty : ticks.waiting = #[]
  foragerFlush : PendingLog.Flush 1 run.foragers first flushed second
  making : PendingLog.Flush 0 flushed second foragers third
  foragerEmpty : foragers.waiting = #[]
  unwritten : foragers.written = none ↔
    flushed.written = none ∧ plan.interval.isPositive = false
  same : flushed.written ≠ none → foragers = flushed
  made : flushed.written = none → plan.interval.isPositive = true → foragers.groups = [[]]

theorem exists_outcome (done : Run.perform plan world disk = .ok (summary, after) rest) :
    Nonempty (Outcome plan world disk summary after rest) := by
  obtain ⟨made, ready, opened, run, logs, runs, created, advanced, finished, world_eq⟩ :=
    perform_eq_ok_iff.mp done
  have created := Recorder.Opened.of_create created
  obtain ⟨count, counted, onward⟩ := bind_eq_ok_iff.mp advanced
  obtain ⟨moments, rows, begun, underway, grouped, filed⟩ := exists_underway created onward
  obtain ⟨ticks, flushed, first, second, third, finish⟩ := finish_eq_ok_iff.mp finished
  obtain ⟨tickFlush, tickEmpty⟩ := PendingLog.Flush.of_flush underway.ticks finish.ticks
  obtain ⟨foragerFlush, foragerEmpty⟩ := PendingLog.Flush.of_flush underway.foragers finish.foragers
  obtain ⟨foragers, making, empty, unwritten, same, fresh⟩ :=
    PendingLog.Flush.of_writeEmpty foragerEmpty finish.empty
  have directories := (Disk.Grown.of_makeDirectories logs).trans (Disk.Grown.of_makeDirectories runs)
  refine ⟨{
    opened, run, moments, rows, ticks, flushed, foragers, first, second, third
    grown := (directories.mono (List.nil_subset _)).trans created.grown
    logs := ?_
    serves := created.serves
    world_eq
    begun := ?_
    underway, grouped, filed, finish, tickFlush, tickEmpty, foragerFlush, making
    foragerEmpty := empty
    unwritten, same
    made := fresh }⟩
  · intro place log found
    rw [← directories.files place (List.not_mem_nil)]
    exact created.logs found
  · intro valid
    have least := valid.1
    rw [Amount.isBelow_eq (blame_eq_ok_iff.mp counted), decide_eq_false_iff_not] at least
    exact begun (by omega)

/-- A text that is written stands, as bytes, where its path leads, and nothing else has changed. -/
theorem writeText_eq_ok {path : Path} {text : String} (done : writeText path text disk = .ok () rest) :
    ∃ place bytes, disk.locate path = .ok place ∧
      Text.encode Text.noByte (Text.points text.toList) = .ok bytes ∧
      rest.files[place]? = some (.bytes bytes.toArray) ∧ Disk.Noted [place] disk rest := by
  unfold writeText at done
  split at done
  · simp at done
  next place writable =>
    split at done
    · next bytes encoded =>
      obtain ⟨-, rfl⟩ := EStateM.Result.ok.inj done
      exact ⟨place, bytes, Disk.writable_eq_ok writable, encoded, Disk.files_put_self _,
        .put List.mem_cons_self _⟩
    · simp at done

namespace Outcome

variable (outcome : Outcome plan world disk summary after rest)

/-- Everywhere the run has written to before its summary. -/
def places : List Place :=
  outcome.opened.places ++ (outcome.ticks.places ++ outcome.foragers.places)

theorem tickGathers : outcome.ticks.Gathers (outcome.rows.map TickRow.toRow) :=
  outcome.underway.ticks.flush outcome.tickFlush

theorem foragerGathers :
    outcome.foragers.Gathers
      (Moment.foragerRows world.config.runId plan.interval outcome.moments) :=
  (outcome.underway.foragers.flush outcome.foragerFlush).flush outcome.making

theorem tickPath : outcome.ticks.path = Plan.tickLogPath plan.outDir :=
  outcome.tickFlush.path.trans outcome.underway.tickPath

theorem foragerPath : outcome.foragers.path = Plan.foragerLogPath plan.outDir :=
  (outcome.making.path.trans outcome.foragerFlush.path).trans outcome.underway.foragerPath

theorem tickColumns : outcome.ticks.columns = TickRow.columns :=
  outcome.tickFlush.columns.trans outcome.underway.tickColumns

theorem foragerColumns : outcome.foragers.columns = ForagerRow.columns :=
  (outcome.making.columns.trans outcome.foragerFlush.columns).trans outcome.underway.foragerColumns

theorem noted_close :
    Disk.Noted outcome.opened.places outcome.run.recorder.disk outcome.run.recorder.close.disk :=
  outcome.filed.places_eq ▸ outcome.run.recorder.kept_close

theorem tickPlaces : outcome.run.ticks.places ⊆ outcome.ticks.places :=
  outcome.tickFlush.places_subset

theorem foragerPlaces : outcome.run.foragers.places ⊆ outcome.foragers.places :=
  fun _ written => outcome.making.places_subset (outcome.foragerFlush.places_subset written)

theorem kept_close :
    Disk.Kept outcome.places outcome.opened.disk outcome.run.recorder.close.disk := by
  have before : placesWritten outcome.opened outcome.run ⊆ outcome.places := by
    intro place member
    simp only [placesWritten, places, List.mem_append] at member ⊢
    exact member.imp id (Or.imp (fun written => outcome.tickPlaces written)
      fun written => outcome.foragerPlaces written)
  apply (outcome.filed.kept.mono before).trans
  exact outcome.noted_close.toKept.mono (by simp [places])

theorem kept_first : Disk.Kept outcome.places outcome.opened.disk outcome.first :=
  outcome.kept_close.trans (outcome.tickFlush.kept.mono (by simp [places]))

theorem kept_second : Disk.Kept outcome.places outcome.opened.disk outcome.second := by
  apply outcome.kept_first.trans (outcome.foragerFlush.kept.mono _)
  intro place written
  simp [places, outcome.making.places_subset written]

theorem kept_third : Disk.Kept outcome.places outcome.opened.disk outcome.third :=
  outcome.kept_second.trans (outcome.making.kept.mono (by simp [places]))

theorem tickLeads : outcome.ticks.Leads outcome.opened.disk :=
  outcome.filed.tickLeads.flush outcome.kept_close outcome.tickFlush

theorem foragerLeads : outcome.foragers.Leads outcome.opened.disk :=
  (outcome.filed.foragerLeads.flush outcome.kept_first outcome.foragerFlush).flush
    outcome.kept_second outcome.making

section Logs

variable (off : outcome.opened.OffLog (Plan.tickLogPath plan.outDir))
  (offToo : outcome.opened.OffLog (Plan.foragerLogPath plan.outDir))
  (parts : outcome.opened.disk.PartsLogs (Plan.tickLogPath plan.outDir)
    (Plan.foragerLogPath plan.outDir))

include off parts in
/-- The log of the ticks is on the disk when the log of the foragers has been written. -/
theorem tickStands : outcome.ticks.Stands outcome.third := by
  have before := outcome.filed.tickStands
  rw [outcome.underway.tickPath, outcome.underway.foragerPath] at before
  have apart : ∀ place ∈ outcome.run.ticks.places, place ∉ outcome.opened.places := by
    apply Recorder.OffLog.apart _ outcome.filed.tickLeads
    rw [outcome.underway.tickPath]
    exact off
  have closed := (before off parts).kept outcome.noted_close.toKept apart
  have elsewhere : ∀ place ∈ outcome.ticks.places, place ∉ outcome.foragers.places := by
    apply outcome.tickLeads.apart outcome.foragerLeads
    rw [outcome.tickPath, outcome.foragerPath]
    exact parts
  have written := (closed.flush outcome.tickFlush).kept outcome.foragerFlush.kept
    fun place member there => elsewhere place member (outcome.making.places_subset there)
  exact written.kept outcome.making.kept elsewhere

include offToo parts in
theorem foragerStands : outcome.foragers.Stands outcome.third := by
  have before := outcome.filed.foragerStands
  rw [outcome.underway.tickPath, outcome.underway.foragerPath] at before
  have apart : ∀ place ∈ outcome.run.foragers.places, place ∉ outcome.opened.places := by
    apply Recorder.OffLog.apart _ outcome.filed.foragerLeads
    rw [outcome.underway.foragerPath]
    exact offToo
  have closed := (before offToo parts).kept outcome.noted_close.toKept apart
  have elsewhere : ∀ place ∈ outcome.run.foragers.places, place ∉ outcome.ticks.places := by
    intro place member there
    apply outcome.tickLeads.apart outcome.foragerLeads _ place there (outcome.foragerPlaces member)
    rw [outcome.tickPath, outcome.foragerPath]
    exact parts
  exact ((closed.kept outcome.tickFlush.kept elsewhere).flush outcome.foragerFlush).flush outcome.making

include off offToo in
theorem records (distinct : outcome.opened.places.Nodup) :
    ∀ file ∈ outcome.opened.files, ∃ lines,
      (outcome.moments.map Moment.tally).mapM (fun tally => file.template.render tally) = .ok lines ∧
        outcome.third.files[file.place]? = some (.bytes lines.flatten.toArray) := by
  have before := outcome.filed.records distinct
  rw [outcome.underway.tickPath, outcome.underway.foragerPath] at before
  have closed := outcome.run.recorder.records_close (outcome.filed.places_eq ▸ distinct)
    (before off offToo)
  have tickApart := Recorder.OffLog.apart (outcome.tickPath ▸ off) outcome.tickLeads
  have foragerApart := Recorder.OffLog.apart (outcome.foragerPath ▸ offToo) outcome.foragerLeads
  intro file listed
  have here : file.place ∈ outcome.opened.places := List.mem_map_of_mem listed
  have labelled : file.label ∈ outcome.run.recorder.files.map RecordFile.label := by
    rw [outcome.filed.label]
    exact List.mem_map_of_mem listed
  obtain ⟨other, otherListed, same⟩ := List.mem_map.mp labelled
  obtain ⟨lines, all, content⟩ := closed other otherListed
  rw [RecordFile.template_eq same] at all
  rw [RecordFile.place_eq same] at content
  refine ⟨lines, all, ?_⟩
  rw [outcome.making.kept.files _ fun written => foragerApart _ written here,
    outcome.foragerFlush.kept.files _ fun written =>
      foragerApart _ (outcome.making.places_subset written) here,
    outcome.tickFlush.kept.files _ fun written => tickApart _ written here]
  exact content

end Logs

/-- The summary stands where its path leads, and is the last thing that the run has written. -/
theorem exists_summary :
    ∃ place bytes, outcome.third.locate (Plan.summaryPath plan.outDir world.config.runId) = .ok place ∧
      Text.encode Text.noByte
        (Text.points (Json.write .indented 0 summary.toDatum).toList) = .ok bytes ∧
      rest.files[place]? = some (.bytes bytes.toArray) ∧
      Disk.Noted [place] outcome.third rest :=
  writeText_eq_ok outcome.finish.text

/-- No directory has come or gone, nor has the disk been left, since the record files were opened. -/
theorem kept_rest : ∃ places, Disk.Kept places outcome.opened.disk rest := by
  obtain ⟨place, bytes, -, -, -, noted⟩ := outcome.exists_summary
  refine ⟨place :: outcome.places, ?_⟩
  apply (outcome.kept_third.mono (List.subset_cons_self _ _)).trans
  exact noted.toKept.mono (by simp)

theorem grown_rest : ∃ places, Disk.Grown places outcome.opened.disk rest :=
  outcome.kept_rest.imp fun _ kept => kept.grown

/-- Every record file lies where the path of one of the records leads in the end. -/
theorem exists_record {place : Place} (written : place ∈ outcome.opened.places) :
    ∃ record ∈ plan.records, rest.locate record.1 = .ok place := by
  obtain ⟨_, grown⟩ := outcome.grown_rest
  obtain ⟨file, listed, rfl⟩ := List.mem_map.mp written
  obtain ⟨record, asked, serves⟩ := Recorder.exists_served outcome.serves listed
  exact ⟨record, asked, grown.locate serves.place⟩

theorem offLogs (off : plan.OffLogs rest) :
    outcome.opened.OffLog (Plan.tickLogPath plan.outDir) ∧
      outcome.opened.OffLog (Plan.foragerLogPath plan.outDir) := by
  obtain ⟨_, grown⟩ := outcome.grown_rest
  constructor
  · intro place written leads
    obtain ⟨record, asked, located⟩ := outcome.exists_record written
    exact (off record asked place located).1 (grown.logLeads leads)
  · intro place written leads
    obtain ⟨record, asked, located⟩ := outcome.exists_record written
    exact (off record asked place located).2 (grown.logLeads leads)

/-- A log that is there in the end was there before, or is one of the two of the run. -/
theorem log_cases {place : Place} {log : Log} (found : rest.files[place]? = some (.log log)) :
    disk.files[place]? = some (.log log) ∨ log.columns = TickRow.columns ∨
      log.columns = ForagerRow.columns ∧
        log.rows <+: Moment.foragerRows world.config.runId plan.interval outcome.moments := by
  obtain ⟨there, bytes, -, -, -, noted⟩ := outcome.exists_summary
  have flushed := outcome.underway.foragers.flush outcome.foragerFlush
  rcases outcome.making.log_eq (noted.logs found) with second | rfl
  · rcases outcome.foragerFlush.log_eq second with first | rfl
    · rcases outcome.tickFlush.log_eq first with closed | rfl
      · rcases outcome.filed.logs (outcome.noted_close.logs closed) with before | own
        · exact .inl (outcome.logs before)
        · exact .inr own
      · exact .inr (.inl outcome.tickColumns)
    · refine .inr (.inr ⟨?_, flushed.prefix_of_groups _⟩)
      exact outcome.foragerFlush.columns.trans outcome.underway.foragerColumns
  · exact .inr (.inr ⟨outcome.foragerColumns, outcome.foragerGathers.prefix_of_groups _⟩)

end Outcome

end Run

end Forage
