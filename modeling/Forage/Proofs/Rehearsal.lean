import Forage.Proofs.Outcome
import Forage.Proofs.Sound

/-!
# Runs that are sure to complete

All of a run but its summary can be evaluated. If that has gone well, and the summary is
one of plain signs and has a place, then the whole run completes: nothing is left that
could be at fault.
-/

namespace Forage

namespace Disk

variable {disk : Disk} {path : Path} {place : Place}

/-- Whether a path leads to a place. -/
def leadsTo (disk : Disk) (path : Path) (place : Place) : Bool :=
  match disk.locate path with
  | .ok found => found == place
  | .error _ => false

theorem locate_of_leadsTo (leads : disk.leadsTo path place = true) :
    disk.locate path = .ok place := by
  unfold leadsTo at leads
  split at leads
  · next found located => rw [located, eq_of_beq leads]
  · simp at leads

theorem writable_of_locate (located : disk.locate path = .ok place)
    (file : disk.isDirectory place = false) : disk.writable path = .ok place := by
  simp [writable, located, bind, Except.bind, file, pure, Except.pure]

/-- The log that lies at a place, if one does. -/
def logAt? (disk : Disk) (place : Place) : Option Log :=
  match disk.files[place]? with
  | some (.log log) => some log
  | _ => none

theorem files_of_logAt? {log : Log} (found : disk.logAt? place = some log) :
    disk.files[place]? = some (.log log) := by
  unfold logAt? at found
  split at found
  · next held => rw [held, Option.some.inj found]
  · simp at found

end Disk

namespace Run

variable {G : Type} [WordSource G] {plan : Plan} {world after : World G} {summary : Summary}
  {disk : Disk}

/-- A run up to the point where only its summary has to be written. -/
def rehearse (plan : Plan) (world : World G) (disk : Disk) : Option (Summary × World G × Disk) :=
  match Disk.makeDirectories (Plan.logsDir plan.outDir) disk with
  | .error _ _ => none
  | .ok _ made =>
      match Disk.makeDirectories (Plan.runsDir plan.outDir) made with
      | .error _ _ => none
      | .ok _ ready =>
          match Recorder.create plan.records ready with
          | .error _ _ => none
          | .ok _ opened =>
              match (start plan world opened).advanceAll plan world.config.runId with
              | .error _ => none
              | .ok run =>
                  match run.ticks.flush run.recorder.close.disk with
                  | .error _ => none
                  | .ok (_, first) =>
                      match run.foragers.flush first with
                      | .error _ => none
                      | .ok (flushed, second) =>
                          match writeEmpty plan.interval.isPositive flushed second,
                            run.summary plan world.config.runId with
                          | .ok third, .ok summary => some (summary, run.world, third)
                          | _, _ => none

/-- A run that can be rehearsed completes if its summary has a place, is plain and can be written. -/
theorem exists_perform_of_rehearse {third : Disk} {place : Place}
    (rehearsed : rehearse plan world disk = some (summary, after, third))
    (writable : third.writable (Plan.summaryPath plan.outDir world.config.runId) = .ok place)
    (plain : summary.toDatum.isPlain = true) (short : Json.isShort summary.toDatum = true) :
    ∃ rest, Run.perform plan world disk = .ok (summary, after) rest ∧
      Disk.Noted [place] third rest := by
  obtain ⟨rest, written, noted⟩ : ∃ rest, writeText (Plan.summaryPath plan.outDir world.config.runId)
      (Json.write .indented 0 summary.toDatum) third = .ok () rest ∧ Disk.Noted [place] third rest := by
    have encoded := Text.encode_of_plain (Json.notMem_write List.mem_cons_self .indented 0 _ plain)
      Text.noByte
    refine ⟨third.put place (.bytes ((Json.write .indented 0 summary.toDatum).toList.flatMap
      String.utf8EncodeChar).toArray), ?_, .put List.mem_cons_self _⟩
    simp only [writeText, writable, encoded]
  refine ⟨rest, ?_, noted⟩
  unfold rehearse at rehearsed
  split at rehearsed
  · simp at rehearsed
  next made logs =>
    split at rehearsed
    · simp at rehearsed
    next ready runs =>
      split at rehearsed
      · simp at rehearsed
      next opened created =>
        split at rehearsed
        · simp at rehearsed
        next run advanced =>
          split at rehearsed
          · simp at rehearsed
          next ticks first tickFlush =>
            split at rehearsed
            · simp at rehearsed
            next flushed second foragerFlush =>
              split at rehearsed
              · next empty summarized =>
                obtain ⟨rfl, same⟩ := Prod.mk.inj (Option.some.inj rehearsed)
                obtain ⟨rfl, rfl⟩ := Prod.mk.inj same
                apply perform_eq_ok_iff.mpr
                refine ⟨made, ready, opened, run, logs, runs, created, advanced, ?_, rfl⟩
                apply finish_eq_ok_iff.mpr
                exact ⟨ticks, flushed, first, second, _, tickFlush, foragerFlush, empty, summarized,
                  short, written⟩
              · simp at rehearsed

/-- Whether a rehearsal ends with a plain summary that has a place, and its disk passes a check. -/
def passes (plan : Plan) (world : World G) (disk : Disk) (place : Place) (check : Disk → Bool) : Bool :=
  (rehearse plan world disk).any fun (summary, _, third) =>
    summary.toDatum.isPlain && Json.isShort summary.toDatum &&
      third.leadsTo (Plan.summaryPath plan.outDir world.config.runId) place &&
      !third.isDirectory place && check third

theorem exists_perform_of_passes {check : Disk → Bool} {place : Place}
    (passed : passes plan world disk place check = true) :
    ∃ summary after third rest, Run.perform plan world disk = .ok (summary, after) rest ∧
      Disk.Noted [place] third rest ∧ check third = true := by
  obtain ⟨⟨summary, after, third⟩, result, checked⟩ := (Option.any_eq_true _ _).mp passed
  simp only [Bool.and_eq_true, Bool.not_eq_true'] at checked
  obtain ⟨⟨⟨⟨plain, short⟩, leads⟩, file⟩, checked⟩ := checked
  have writable := Disk.writable_of_locate (Disk.locate_of_leadsTo leads) file
  obtain ⟨rest, done, noted⟩ := exists_perform_of_rehearse result writable plain short
  exact ⟨summary, after, third, rest, done, noted, checked⟩

section Outing

open World

/-- An example: two ticks, after each of which everyone is logged and one record is written. -/
def outing : Plan where
  steps := .whole 2
  interval := .whole 1
  stopOnExtinction := true
  outDir := .ofString "data"
  records := [(.ofString "s", "%P %D%n")]
  topPrograms := .whole 10

theorem outing_valid : outing.Valid := ⟨rfl, rfl, rfl⟩

theorem outing_local : outing.Local := Plan.local_of_plain (by decide) (by decide)

/-- The company completes the outing, which leaves four files at four places. -/
theorem exists_outing :
    ∃ summary after rest, Run.perform outing company (Disk.bare []) = .ok (summary, after) rest ∧
      rest.locate (.ofString "s") = .ok ["s"] ∧
      rest.locate (Plan.tickLogPath outing.outDir) = .ok ["data", "logs", "population_log.parquet"] ∧
      rest.locate (Plan.foragerLogPath outing.outDir) = .ok ["data", "logs", "entity_log.parquet"] ∧
      rest.locate (Plan.summaryPath outing.outDir company.config.runId) =
        .ok ["data", "runs", "seed0_w100_h100.json"] := by
  have passed : passes outing company (Disk.bare []) ["data", "runs", "seed0_w100_h100.json"]
      (fun third =>
        third.leadsTo (.ofString "s") ["s"] &&
          third.leadsTo (Plan.tickLogPath outing.outDir)
            ["data", "logs", "population_log.parquet"] &&
          third.leadsTo (Plan.foragerLogPath outing.outDir)
            ["data", "logs", "entity_log.parquet"] &&
          third.leadsTo (Plan.summaryPath outing.outDir company.config.runId)
            ["data", "runs", "seed0_w100_h100.json"]) = true := by decide +kernel
  obtain ⟨summary, after, third, rest, done, noted, checked⟩ := exists_perform_of_passes passed
  simp only [Bool.and_eq_true] at checked
  obtain ⟨⟨⟨record, ticks⟩, foragers⟩, made⟩ := checked
  have onward {path : Path} {place : Place} (leads : third.leadsTo path place = true) :
      rest.locate path = .ok place :=
    noted.grown.locate (Disk.locate_of_leadsTo leads)
  exact ⟨summary, after, rest, done, onward record, onward ticks, onward foragers, onward made⟩

end Outing

end Run

end Forage
