import Forage.Proofs.Underway

/-!
# What a run has put on the disk

A run writes to its record files and to the places of its two logs, and nowhere else. If
these lie apart, the record files hold the tallies of all moments and the logs are there
as far as they have been written. Wherever they lie, a log that has come onto the disk is
one of these two.
-/

namespace Forage

/-- Two paths that name logs lead to different places. -/
def Disk.PartsLogs (disk : Disk) (path other : Path) : Prop :=
  ∀ place, disk.LogLeads path place → ¬ disk.LogLeads other place

theorem Plan.Local.partsLogs {plan : Plan} (here : plan.Local) (disk : Disk) :
    disk.PartsLogs (tickLogPath plan.outDir) (foragerLogPath plan.outDir) := by
  intro place ticks foragers
  exact tickLog_ne_foragerLog (ticks.locate here.ticks) (foragers.locate here.foragers) rfl

/-- No record of a plan goes to where one of its logs may lie. -/
def Plan.OffLogs (plan : Plan) (disk : Disk) : Prop :=
  ∀ record ∈ plan.records, ∀ place, disk.locate record.1 = .ok place →
    ¬ disk.LogLeads (tickLogPath plan.outDir) place ∧
      ¬ disk.LogLeads (foragerLogPath plan.outDir) place

theorem Plan.Local.offLogs {plan : Plan} {disk : Disk} (here : plan.Local)
    (off : ∀ record ∈ plan.records, ∀ place, disk.locate record.1 = .ok place →
      disk.locate (tickLogPath plan.outDir) ≠ .ok place ∧
        disk.locate (foragerLogPath plan.outDir) ≠ .ok place) : plan.OffLogs disk := by
  intro record asked place located
  obtain ⟨ticks, foragers⟩ := off record asked place located
  exact ⟨fun leads => ticks (leads.locate here.ticks),
    fun leads => foragers (leads.locate here.foragers)⟩

theorem PendingLog.Leads.apart {disk : Disk} {pending other : PendingLog} (leads : pending.Leads disk)
    (otherLeads : other.Leads disk) (parts : disk.PartsLogs pending.path other.path) :
    ∀ place ∈ pending.places, place ∉ other.places :=
  fun place written elsewhere => parts place (leads place written) (otherLeads place elsewhere)

namespace Recorder

/-- No file of a recorder lies where a path may lead that names a log. -/
def OffLog (recorder : Recorder) (path : Path) : Prop :=
  ∀ place ∈ recorder.places, ¬ recorder.disk.LogLeads path place

theorem OffLog.apart {recorder : Recorder} {pending : PendingLog} (off : recorder.OffLog pending.path)
    (leads : pending.Leads recorder.disk) : ∀ place ∈ pending.places, place ∉ recorder.places :=
  fun place written listed => off place listed (leads place written)

end Recorder

namespace Run

variable {G : Type} {plan : Plan} {runId : String} {run next : Run G} {start : World G}
  {opened recorder : Recorder} {moments : List Moment} {rows : List TickRow} {report : Report}
  {row : TickRow} {middle : Disk}

/-- Everywhere a run writes to. -/
def placesWritten (opened : Recorder) (run : Run G) : List Place :=
  opened.places ++ (run.ticks.places ++ run.foragers.places)

/-- What a run under way has put on the disk since its recorder was opened. -/
structure Filed (plan : Plan) (runId : String) (opened : Recorder) (run : Run G)
    (moments : List Moment) : Prop where
  label : run.recorder.files.map RecordFile.label = opened.files.map RecordFile.label
  kept : Disk.Kept (placesWritten opened run) opened.disk run.recorder.disk
  tickLeads : run.ticks.Leads opened.disk
  foragerLeads : run.foragers.Leads opened.disk
  last : opened.files ≠ [] → run.recorder.last = moments.getLast?.map Moment.tally
  records : opened.places.Nodup → opened.OffLog run.ticks.path → opened.OffLog run.foragers.path →
    ∀ file ∈ run.recorder.files,
      file.Records run.recorder.disk.files[file.place]? (moments.map Moment.tally)
  tickStands : opened.OffLog run.ticks.path →
    opened.disk.PartsLogs run.ticks.path run.foragers.path → run.ticks.Stands run.recorder.disk
  foragerStands : opened.OffLog run.foragers.path →
    opened.disk.PartsLogs run.ticks.path run.foragers.path → run.foragers.Stands run.recorder.disk
  logs : ∀ {place : Place} {log : Log}, run.recorder.disk.files[place]? = some (.log log) →
    opened.disk.files[place]? = some (.log log) ∨ log.columns = TickRow.columns ∨
      log.columns = ForagerRow.columns ∧ log.rows <+: Moment.foragerRows runId plan.interval moments

namespace Filed

theorem of_start {destinations : List (Path × String)} {disk : Disk} (world : World G)
    (created : Recorder.Opened destinations disk opened) :
    Filed plan runId opened (Run.start plan world opened) [] where
  label := rfl
  kept := .refl _ _
  tickLeads place member := by simp [Run.start, PendingLog.ofPath, PendingLog.places] at member
  foragerLeads place member := by simp [Run.start, PendingLog.ofPath, PendingLog.places] at member
  last _ := created.last
  records _ _ _ := created.records
  tickStands _ _ written known := by simp [Run.start, PendingLog.ofPath] at known
  foragerStands _ _ written known := by simp [Run.start, PendingLog.ofPath] at known
  logs found := .inl found

theorem places_eq (filed : Filed plan runId opened run moments) :
    run.recorder.places = opened.places :=
  Recorder.places_eq filed.label

/-- The tally that a step hands to the recorder is that of the moment, if there are files at all. -/
theorem tally_eq (filed : Filed plan runId opened run moments) (files : opened.files ≠ [])
    (scene : Scene) :
    Tally.next run.recorder.last scene = (Moment.after moments report scene).tally := by
  rw [filed.last files, Moment.after]

theorem files_ne_nil (filed : Filed plan runId opened run moments) (files : opened.files ≠ []) :
    run.recorder.files ≠ [] := by
  intro none
  have same := filed.label
  rw [none, List.map_nil] at same
  exact files (List.map_eq_nil_iff.mp same.symm)

variable [WordSource G]

theorem advance (filed : Filed plan runId opened run moments)
    (underway : Underway plan runId start run moments rows)
    (advance : Advance plan runId run next report row recorder middle) :
    Filed plan runId opened next (moments ++ [.after moments report next.world.scene]) := by
  obtain ⟨ticks, -, foragers, -⟩ := underway.flushes advance
  have onward := underway.advance advance
  have updated := advance.updated
  have files : next.recorder.files = recorder.files := by rw [advance.kept]
  have noted : Disk.Noted opened.places run.recorder.disk recorder.disk :=
    filed.places_eq ▸ updated.kept
  have more : placesWritten opened run ⊆ placesWritten opened next := by
    intro place member
    simp only [placesWritten, List.mem_append] at member ⊢
    exact member.imp id (Or.imp (fun written => ticks.places_subset written)
      fun written => foragers.places_subset written)
  have keptFirst : Disk.Kept (placesWritten opened next) opened.disk recorder.disk :=
    (filed.kept.mono more).trans (noted.toKept.mono (by simp [placesWritten]))
  have keptTicks : Disk.Kept (placesWritten opened next) opened.disk middle :=
    keptFirst.trans (ticks.kept.mono (by simp [placesWritten]))
  have tickLeads := PendingLog.Leads.flush filed.tickLeads.add keptFirst ticks
  have foragerLeads := PendingLog.Leads.flush filed.foragerLeads.add keptTicks foragers
  have tickPath : next.ticks.path = run.ticks.path := ticks.path
  have foragerPath : next.foragers.path = run.foragers.path := foragers.path
  constructor
  · rw [files, updated.label, filed.label]
  · exact keptTicks.trans (foragers.kept.mono (by simp [placesWritten]))
  · exact tickLeads
  · exact foragerLeads
  · intro some
    rw [advance.kept, List.getLast?_concat, Option.map_some]
    exact (updated.last (filed.files_ne_nil some)).trans (congrArg _ (filed.tally_eq some _))
  · intro distinct offTicks offForagers
    have tickApart := offTicks.apart tickLeads
    have foragerApart := offForagers.apart foragerLeads
    have before := filed.records distinct (tickPath ▸ offTicks) (foragerPath ▸ offForagers)
    have after := updated.records (filed.places_eq ▸ distinct) before
    rw [files]
    intro file listed
    have here : file.place ∈ opened.places := by
      rw [← filed.places_eq, ← Recorder.places_eq updated.label]
      exact List.mem_map_of_mem listed
    have some : opened.files ≠ [] := by
      intro none
      simp [Recorder.places, none] at here
    rw [foragers.kept.files _ fun written => foragerApart _ written here,
      ticks.kept.files _ fun written => tickApart _ written here, List.map_append, List.map_singleton,
      ← filed.tally_eq some]
    exact after file listed
  · intro off parts
    have still : run.ticks.Stands recorder.disk :=
      (filed.tickStands (tickPath ▸ off) (tickPath ▸ foragerPath ▸ parts)).kept noted.toKept
        (Recorder.OffLog.apart (tickPath ▸ off) filed.tickLeads)
    exact (PendingLog.Stands.flush still.add ticks).kept foragers.kept (tickLeads.apart foragerLeads parts)
  · intro off parts
    have still : run.foragers.Stands recorder.disk :=
      (filed.foragerStands (foragerPath ▸ off) (tickPath ▸ foragerPath ▸ parts)).kept noted.toKept
        (Recorder.OffLog.apart (foragerPath ▸ off) filed.foragerLeads)
    have apart : ∀ place ∈ run.foragers.places, place ∉ next.ticks.places := by
      intro place written elsewhere
      exact tickLeads.apart foragerLeads parts place elsewhere (foragers.places_subset written)
    exact PendingLog.Stands.flush (still.kept ticks.kept apart).add foragers
  · intro place log found
    rcases foragers.log_eq found with found | rfl
    · rcases ticks.log_eq found with found | rfl
      · rcases filed.logs (noted.logs found) with before | tickLog | ⟨columns, rows⟩
        · exact .inl before
        · exact .inr (.inl tickLog)
        · refine .inr (.inr ⟨columns, rows.trans ?_⟩)
          rw [Moment.foragerRows, Moment.foragerRows, List.flatMap_append]
          exact List.prefix_append _ _
      · exact .inr (.inl onward.tickColumns)
    · exact .inr (.inr ⟨onward.foragerColumns, onward.foragers.prefix_of_groups _⟩)

end Filed

end Run

end Forage
