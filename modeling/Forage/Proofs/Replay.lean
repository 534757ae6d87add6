import Forage.Command.Chart
import Forage.Proofs.Founders
import Forage.Proofs.Logs
import Forage.Proofs.Payload
import Forage.Proofs.Retold
import Forage.Proofs.Script

/-!
# Replays

A run does nothing to its world but let it tick, and its summary keeps all that the world was
made from. So the world that is made again from the summary, or from the file that the run has
written it to, shows after any number of ticks what the world of the run showed after as many, and
the log of the foragers tells of nothing else.
-/

namespace Forage

variable {G : Type} [WordSource G]

namespace World

variable {start middle world after : World G} {moments : List Moment}

theorem ticks_succ {count : Nat} {reports : List Report} {report : Report}
    (done : ticks count start = .ok reports middle) (ticked : middle.tick = .ok report world) :
    ticks (count + 1) start = .ok (reports ++ [report]) world := by
  induction count generalizing start reports with
  | zero =>
      obtain ⟨rfl, rfl⟩ := EStateM.Result.ok.inj done
      simp only [ticks, ticked]
      rfl
  | succ count inductionHypothesis =>
      unfold ticks at done ⊢
      cases first : start.tick with
      | error fault next => simp [first] at done
      | ok earlier next =>
          simp only [first] at done
          cases others : ticks count next with
          | error fault last => simp [others] at done
          | ok later last =>
              simp only [others] at done
              obtain ⟨rfl, rfl⟩ := EStateM.Result.ok.inj done
              simp only [inductionHypothesis others]
              rfl

namespace Course

theorem exists_ticks (course : start.Course moments world) :
    ∃ reports, ticks moments.length start = .ok reports world := by
  induction course with
  | nil => exact ⟨[], rfl⟩
  | snoc _ ticked inductionHypothesis =>
      obtain ⟨reports, done⟩ := inductionHypothesis
      rw [List.length_append, List.length_singleton]
      exact ⟨_, ticks_succ done ticked⟩

theorem take (course : start.Course moments world) {count : Nat} (within : count ≤ moments.length) :
    ∃ middle, start.Course (moments.take count) middle := by
  induction course with
  | nil =>
      rw [List.take_nil]
      exact ⟨start, .nil⟩
  | @snoc moments middle world report earlier ticked inductionHypothesis =>
      rw [List.length_append, List.length_singleton] at within
      rcases Nat.lt_or_eq_of_le within with less | rfl
      · rw [List.take_append_of_le_length (Nat.le_of_lt_succ less)]
        exact inductionHypothesis (Nat.le_of_lt_succ less)
      · rw [List.take_of_length_le (by simp)]
        exact ⟨world, earlier.snoc ticked⟩

theorem exists_ticks_take (course : start.Course moments world) {count : Nat}
    (within : count ≤ moments.length) : ∃ reports middle, ticks count start = .ok reports middle := by
  obtain ⟨middle, first⟩ := course.take within
  obtain ⟨reports, done⟩ := first.exists_ticks
  rw [List.length_take_of_le within] at done
  exact ⟨reports, middle, done⟩

end Course

end World

section Rows

variable {runId : String} {interval : Amount} {start middle world : World G} {moments : List Moment}

/-- The rows on the foragers that are due to some moments. -/
def Moment.listed (runId : String) (interval : Amount) (moments : List Moment) : List ForagerRow :=
  moments.flatMap fun moment => ForagerRow.ofScene runId interval moment.scene

theorem Moment.foragerRows_eq (runId : String) (interval : Amount) (moments : List Moment) :
    foragerRows runId interval moments = (listed runId interval moments).map ForagerRow.toRow := by
  rw [listed, List.map_flatMap]
  rfl

theorem ForagerRow.step_of_mem_ofScene {scene : Scene} {row : ForagerRow}
    (member : row ∈ ofScene runId interval scene) : row.step = scene.step := by
  unfold ofScene at member
  split at member
  · obtain ⟨sighting, -, rfl⟩ := List.mem_map.mp member
    rfl
  · simp at member

namespace ForagerRow

/-- The rows of a step. -/
def atStep (step : Nat) (rows : List ForagerRow) : List ForagerRow :=
  rows.filter fun row => row.step = step

theorem atStep_append (step : Nat) (rows others : List ForagerRow) :
    atStep step (rows ++ others) = atStep step rows ++ atStep step others :=
  List.filter_append ..

theorem atStep_prefix {step : Nat} {rows others : List ForagerRow} (front : rows <+: others) :
    atStep step rows <+: atStep step others :=
  front.filter _

theorem atStep_eq_self {step : Nat} {rows : List ForagerRow}
    (all : ∀ row ∈ rows, row.step = step) : atStep step rows = rows :=
  List.filter_eq_self.mpr fun row member => decide_eq_true (all row member)

theorem atStep_eq_nil {step : Nat} {rows : List ForagerRow}
    (others : ∀ row ∈ rows, row.step ≠ step) : atStep step rows = [] :=
  List.filter_eq_nil_iff.mpr fun row member => by simpa using others row member

end ForagerRow

namespace World.Course

theorem step_of_mem_listed (course : start.Course moments world) {row : ForagerRow}
    (member : row ∈ Moment.listed runId interval moments) :
    ∃ place < moments.length, row.step = start.step + (place + 1 : Nat) := by
  obtain ⟨moment, listed, among⟩ := List.mem_flatMap.mp member
  obtain ⟨place, found⟩ := List.mem_iff_getElem?.mp listed
  refine ⟨place, (List.getElem?_eq_some_iff.mp found).1, ?_⟩
  rw [ForagerRow.step_of_mem_ofScene among, course.step_scene found]
  omega

/-- Of the rows of a course those of a step are the rows of the scene after as many ticks. -/
theorem atStep_listed (course : start.Course moments world) (origin : start.step = 0)
    {count : Nat} (positive : 1 ≤ count) (within : count ≤ moments.length) {reports : List Report}
    (ticked : ticks count start = .ok reports middle) :
    ForagerRow.atStep count (Moment.listed runId interval moments) =
      ForagerRow.ofScene runId interval middle.scene := by
  induction course with
  | nil => exact absurd (Nat.le_trans positive within) (by simp)
  | @snoc moments last world report earlier done inductionHypothesis =>
      have course := earlier.snoc done
      have length : (moments ++ [Moment.after moments report world.scene]).length =
          moments.length + 1 := by simp
      have joined : Moment.listed runId interval
          (moments ++ [Moment.after moments report world.scene]) =
          Moment.listed runId interval moments ++ ForagerRow.ofScene runId interval world.scene := by
        simp [Moment.listed, Moment.after]
      have latest : ∀ row ∈ ForagerRow.ofScene runId interval world.scene,
          row.step = (moments.length + 1 : Nat) := by
        intro row member
        have counted := course.step_eq
        rw [origin, length, Nat.zero_add] at counted
        exact (ForagerRow.step_of_mem_ofScene member).trans (congrArg Int.ofNat counted)
      rw [length] at within
      rw [joined, ForagerRow.atStep_append]
      rcases Nat.lt_or_eq_of_le within with less | rfl
      · have others : ∀ row ∈ ForagerRow.ofScene runId interval world.scene, row.step ≠ count := by
          intro row member
          rw [latest row member]
          omega
        rw [ForagerRow.atStep_eq_nil others, List.append_nil]
        exact inductionHypothesis (Nat.le_of_lt_succ less)
      · obtain ⟨others, full⟩ := course.exists_ticks
        rw [length] at full
        obtain ⟨-, rfl⟩ := EStateM.Result.ok.inj (ticked.symm.trans full)
        rw [ForagerRow.atStep_eq_self latest, ForagerRow.atStep_eq_nil, List.nil_append]
        intro row member
        obtain ⟨place, before, step⟩ := earlier.step_of_mem_listed member
        omega

theorem atStep_zero (course : start.Course moments world) :
    ForagerRow.atStep 0 (Moment.listed runId interval moments) = [] := by
  apply ForagerRow.atStep_eq_nil
  intro row member
  obtain ⟨place, -, step⟩ := course.step_of_mem_listed member
  omega

end World.Course

end Rows

theorem Chart.advanceTo_of_ticks {world after : World G} {count : Nat} {reports : List Report}
    (done : World.ticks count world = .ok reports after) : advanceTo world count = .ok after := by
  induction count generalizing world reports with
  | zero =>
      obtain ⟨-, rfl⟩ := EStateM.Result.ok.inj done
      rfl
  | succ count inductionHypothesis =>
      unfold World.ticks at done
      unfold advanceTo
      cases first : world.tick with
      | error fault next => simp [first] at done
      | ok report next =>
          simp only [first] at done ⊢
          cases others : World.ticks count next with
          | error fault last => simp [others] at done
          | ok later last =>
              simp only [others] at done
              obtain ⟨-, rfl⟩ := EStateM.Result.ok.inj done
              exact inductionHypothesis others

namespace Run

variable {plan : Plan} {runId : String} {run : Run G} {world middle after : World G}
  {moments : List Moment} {rows : List TickRow} {summary : Summary} {disk rest : Disk}

theorem Underway.stepsRun_eq (underway : Underway plan runId world run moments rows)
    (made : run.summary plan runId = .ok summary) : summary.stepsRun = run.world.step := by
  obtain ⟨topPrograms, -, made⟩ := bind_eq_ok_iff.mp made
  rw [← pure_eq_ok_iff.mp made, underway.scene]
  rfl

/-- If its world had not ticked before, the summary tells for how many moments a run has gone on. -/
theorem Underway.stepsRun (underway : Underway plan runId world run moments rows)
    (origin : world.step = 0) (made : run.summary plan runId = .ok summary) :
    summary.stepsRun = moments.length := by
  rw [underway.stepsRun_eq made, underway.course.step_eq, origin, Nat.zero_add]

namespace Outcome

variable (outcome : Outcome plan world disk summary after rest)

/-- Any log of a run on the foragers holds what its moments list, as far as it goes. -/
theorem exists_rows {place : Place} {log : Log} (found : rest.files[place]? = some (.log log))
    (columns : log.columns = ForagerRow.columns) (fresh : disk.files[place]? ≠ some (.log log)) :
    ∃ rows, log.rows = rows.map ForagerRow.toRow ∧
      rows <+: Moment.listed world.config.runId plan.interval outcome.moments := by
  rcases outcome.log_cases found with before | ticks | ⟨-, rows⟩
  · exact absurd before fresh
  · rw [columns] at ticks
    exact absurd ticks (by decide)
  · rw [Moment.foragerRows_eq] at rows
    obtain ⟨others, joined⟩ := rows
    obtain ⟨front, rest, whole, same, -⟩ := List.append_eq_map_iff.mp joined
    exact ⟨front, same.symm, rest, whole.symm⟩

/-- The log of a run on the foragers, where nothing interferes with it, holds all of that. -/
theorem exists_foragerRows (positive : plan.interval.isPositive = true) (here : plan.Local)
    (off : plan.OffLogs rest) :
    ∃ place log, rest.locate (Plan.foragerLogPath plan.outDir) = .ok place ∧
      rest.files[place]? = some (.log log) ∧
      log.rows = (Moment.listed world.config.runId plan.interval outcome.moments).map
        ForagerRow.toRow := by
  obtain ⟨place, log, located, found, logged⟩ := outcome.exists_foragerLog here positive off
  refine ⟨place, log, located, found, ?_⟩
  rw [logged.rows, ← Moment.foragerRows_of_positive positive, Moment.foragerRows_eq]

end Outcome

end Run

section Replay

variable {G : Type} [SeededSource G] {config decoded : Config} {plan : Plan}
  {world middle after : World G} {summary : Summary} {disk rest : Disk}

/-- A summary shows what a world looks like after some ticks, and so does any file that holds it. -/
structure Summary.Shows (summary : Summary) (plan : Plan) (bytes : List UInt8) (count : Nat)
    (middle : World G) : Prop where
  scene : Chart.sceneAt G summary.toDatum count = .ok middle.scene
  frame : summary.config.Proper → plan.Counted → ∀ (disk : Disk) given path,
    Chart.stepOf given = .ok count → Chart.pathOf given "run_json" = .ok path →
    disk.read path = .ok (.bytes bytes.toArray) → Chart.frame G disk given = .ok middle.scene

/-- The summary of a world that was made from its own seed shows it after any number of ticks. -/
theorem Summary.sceneAt_of_ticks
    (created : World.create config (SeededSource.ofSeed config.seed) = .ok world)
    (same : summary.config = config) (accepted : Config.ofSummary summary.toDatum = .ok decoded)
    {count : Nat} {reports : List Report} (ticked : World.ticks count world = .ok reports middle) :
    Chart.sceneAt G summary.toDatum count = .ok middle.scene := by
  obtain ⟨length, counted, rfl⟩ := Config.exists_asRecorded accepted
  rw [same] at counted accepted
  have remade := World.create_asRecorded (Config.recounts_of_whole counted) created
  have onward : Chart.advanceTo (world.retold length) count = .ok (middle.retold length) :=
    Chart.advanceTo_of_ticks (World.ticks_retold ticked)
  have seed : (config.asRecorded length).seed = config.seed := rfl
  simp only [Chart.sceneAt, accepted, seed, remade, onward, bind, Except.bind, pure, Except.pure,
    World.scene_retold]

theorem Summary.Payload.shows {bytes : List UInt8} (payload : summary.Payload plan rest bytes)
    {count : Nat} (scene : Chart.sceneAt G summary.toDatum count = .ok middle.scene) :
    summary.Shows plan bytes count middle := by
  refine ⟨scene, ?_⟩
  intro proper counted disk given path step named held
  obtain ⟨chars, text, read⟩ := payload.reads proper counted disk path held
  simp only [Chart.frame, step, named, text, read, bind, Except.bind, scene]

/--
A run of a world that was made from its own seed is told again by its summary, if that is
accepted: after any number of ticks up to that of the run the world that is made from the
summary looks as the world of the run did. The file that the run has written is read as the
summary, and so the command that draws shows that world as well. What was logged of the foragers
at that step is what is seen of them then.
-/
theorem Run.replay_exact (valid : config.Valid)
    (created : World.create config (SeededSource.ofSeed config.seed) = .ok world)
    (done : Run.perform plan world disk = .ok (summary, after) rest)
    (accepted : Config.ofSummary summary.toDatum = .ok decoded) :
    ∃ (total : Nat) (bytes : List UInt8), summary.stepsRun = total ∧ summary.config = config ∧
      (∃ reports, World.ticks total world = .ok reports after) ∧ summary.Payload plan rest bytes ∧
      ∀ count ≤ total, ∃ reports middle, World.ticks count world = .ok reports middle ∧
        summary.Shows plan bytes count middle ∧
        (∀ (place : Place) (log : Log), rest.files[place]? = some (.log log) →
          log.columns = ForagerRow.columns → disk.files[place]? ≠ some (.log log) →
          ∃ rows, log.rows = rows.map ForagerRow.toRow ∧
            ForagerRow.atStep count rows <+:
              ForagerRow.ofScene config.runId plan.interval middle.scene) ∧
        (plan.interval.isPositive = true → plan.Local → plan.OffLogs rest →
          ∃ place log rows, rest.locate (Plan.foragerLogPath plan.outDir) = .ok place ∧
            rest.files[place]? = some (.log log) ∧ log.rows = rows.map ForagerRow.toRow ∧
            ForagerRow.atStep count rows =
              if count = 0 then []
              else ForagerRow.ofScene config.runId plan.interval middle.scene) := by
  obtain ⟨outcome⟩ := exists_outcome done
  obtain ⟨bytes, payload⟩ := exists_payload done
  have founded := World.Founded.create valid created
  have course := outcome.underway.course
  rw [← outcome.world_eq] at course
  have same := (config_perform done).trans founded.config
  refine ⟨outcome.moments.length, bytes, outcome.underway.stepsRun founded.step outcome.finish.made,
    same, course.exists_ticks, payload, ?_⟩
  intro count within
  obtain ⟨reports, middle, ticked⟩ := course.exists_ticks_take within
  have listed : ForagerRow.atStep count
      (Moment.listed world.config.runId plan.interval outcome.moments) =
      if count = 0 then [] else ForagerRow.ofScene config.runId plan.interval middle.scene := by
    rw [founded.config]
    split
    · next origin =>
      subst origin
      exact course.atStep_zero
    · next later =>
      exact course.atStep_listed founded.step (Nat.one_le_iff_ne_zero.mpr later) within ticked
  have scene := Summary.sceneAt_of_ticks created same accepted ticked
  refine ⟨reports, middle, ticked, payload.shows scene, ?_, ?_⟩
  · intro place log found columns fresh
    obtain ⟨rows, written, front⟩ := outcome.exists_rows found columns fresh
    refine ⟨rows, written, (ForagerRow.atStep_prefix front).trans ?_⟩
    rw [listed]
    split
    · exact List.nil_prefix
    · exact List.prefix_rfl
  · intro positive here off
    obtain ⟨place, log, located, found, written⟩ := outcome.exists_foragerRows positive here off
    exact ⟨place, log, _, located, found, written, listed⟩

/-- The hamlet, where all the young take after their parents. -/
def Config.cloister : Config :=
  { Config.hamlet with mutationRate := 0 }

theorem Config.valid_cloister : Config.cloister.Valid :=
  ⟨fun parameter => by cases parameter <;> decide, rfl⟩

theorem Config.proper_cloister : Config.cloister.Proper :=
  ⟨⟨true, rfl⟩, ⟨true, rfl⟩, ⟨2, rfl⟩⟩

theorem Run.outing_counted : outing.Counted :=
  ⟨⟨2, rfl⟩, ⟨1, rfl⟩, ⟨10, rfl⟩⟩

theorem Run.replay_cloister :
    Config.cloister.Valid ∧ ∃ (world after : World Script) (summary : Summary) (rest : Disk),
      World.create Config.cloister (SeededSource.ofSeed Config.cloister.seed) = .ok world ∧
      Run.perform outing world (Disk.bare []) = .ok (summary, after) rest ∧
      Config.ofSummary summary.toDatum = .ok Config.cloister ∧ summary.stepsRun = 2 ∧
      outing.Local ∧ outing.OffLogs rest ∧
      ∃ reports middle, World.ticks 1 world = .ok reports middle ∧
        Chart.frame Script rest
          ⟨[("run_json", .text "data/runs/seed0_w4_h3.json"), ("step", .whole 1)], []⟩ =
            .ok middle.scene ∧
        ∃ place log rows, rest.locate (Plan.foragerLogPath outing.outDir) = .ok place ∧
          rest.files[place]? = some (.log log) ∧ log.rows = rows.map ForagerRow.toRow ∧
          ForagerRow.atStep 1 rows =
            ForagerRow.ofScene Config.cloister.runId outing.interval middle.scene := by
  obtain ⟨world, created, checked⟩ := @World.exists_created Script _ Config.cloister
    (SeededSource.ofSeed Config.cloister.seed)
    (fun world => (rehearse outing world (Disk.bare [])).any fun (summary, _, third) =>
      summary.stepsRun == 2 && summary.toDatum.isPlain && Json.isShort summary.toDatum &&
        third.leadsTo (.ofString "s") ["s"] &&
        third.leadsTo (Plan.tickLogPath outing.outDir) ["data", "logs", "population_log.parquet"] &&
        third.leadsTo (Plan.foragerLogPath outing.outDir) ["data", "logs", "entity_log.parquet"] &&
        third.leadsTo (Plan.summaryPath outing.outDir world.config.runId)
          ["data", "runs", "seed0_w4_h3.json"] &&
        !third.isDirectory ["data", "runs", "seed0_w4_h3.json"])
    (by decide +kernel)
  obtain ⟨⟨summary, after, third⟩, rehearsed, checked⟩ := (Option.any_eq_true _ _).mp checked
  simp only [Bool.and_eq_true, Bool.not_eq_true', beq_iff_eq] at checked
  obtain ⟨⟨⟨⟨⟨⟨⟨stepsRun, plain⟩, short⟩, record⟩, ticks⟩, foragers⟩, made⟩, file⟩ := checked
  have writable := Disk.writable_of_locate (Disk.locate_of_leadsTo made) file
  obtain ⟨rest, done, noted⟩ := exists_perform_of_rehearse rehearsed writable plain short
  have onward {path : Path} {place : Place} (leads : third.leadsTo path place = true) :
      rest.locate path = .ok place :=
    noted.grown.locate (Disk.locate_of_leadsTo leads)
  have off := offLogs_outing (onward record) (onward ticks) (onward foragers)
  have same : summary.config = Config.cloister :=
    (config_perform done).trans (World.Founded.create Config.valid_cloister created).config
  have accepted : Config.ofSummary summary.toDatum = .ok Config.cloister := by
    rw [Config.ofSummary_toDatum (same ▸ Config.valid_cloister) (same ▸ Config.proper_cloister), same]
    rfl
  obtain ⟨total, bytes, counted, -, -, payload, replayed⟩ :=
    replay_exact Config.valid_cloister created done accepted
  obtain ⟨reports, middle, ticked, shows, -, logged⟩ := replayed 1 (by omega)
  have frame := shows.frame (same ▸ Config.proper_cloister) outing_counted rest
    ⟨[("run_json", .text "data/runs/seed0_w4_h3.json"), ("step", .whole 1)], []⟩
    (Plan.summaryPath outing.outDir summary.config.runId) rfl
    (by rw [same]; decide +kernel) payload.written
  exact ⟨Config.valid_cloister, world, after, summary, rest, created, done, accepted, stepsRun,
    outing_local, off, reports, middle, ticked, frame, logged rfl outing_local off⟩

end Replay

end Forage
