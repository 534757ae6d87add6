import Forage.Proofs.Rehearsal

/-!
# What the logs of a run hold

Rows wait in a store until there are enough of them for a group, or until the run is over.
However they are flushed, in the end the log of the ticks has one row for every tick and the
log of the foragers one for everyone who was there at a step at which they are logged, in
the order in which they came up. No group is empty but that of a log that was made for want
of rows.
-/

namespace Forage

/-- In every group of a log each column has as many values as there are rows. -/
def Log.Even (log : Log) : Prop :=
  ∀ group ∈ log.groups, ∀ index < log.columns.length,
    (group.filterMap fun row => row[index]?).length = group.length

theorem Log.even_of_length {log : Log}
    (length : ∀ row ∈ log.rows, row.length = log.columns.length) : log.Even := by
  intro group written index within
  rw [List.length_filterMap_eq_countP, List.countP_eq_length]
  intro row listed
  have here := length row (List.mem_flatten.mpr ⟨group, written, listed⟩)
  rw [← here] at within
  simp [within]

/-- A log has a row for each of the ticks; all of its groups but the last are just full. -/
structure TickRow.Logged (ticks : List TickRow) (log : Log) : Prop where
  columns : log.columns = TickRow.columns
  rows : log.rows = ticks.map TickRow.toRow
  even : log.Even
  groups : ∀ group ∈ log.groups, group ≠ [] ∧ group.length ≤ PendingLog.groupSize
  full : ∀ group ∈ log.groups.dropLast, group.length = PendingLog.groupSize

/-- A log has a row for each sighting; all of its groups but the last are full or more. -/
structure ForagerRow.Logged (sightings : List ForagerRow) (log : Log) : Prop where
  columns : log.columns = ForagerRow.columns
  rows : log.rows = sightings.map ForagerRow.toRow
  even : log.Even
  groups : sightings ≠ [] → ∀ group ∈ log.groups, group ≠ []
  full : ∀ group ∈ log.groups.dropLast, PendingLog.groupSize ≤ group.length
  empty : sightings = [] → log.groups = [[]]

namespace Moment

variable {runId : String} {interval : Amount}

/-- Everyone who was there at those moments at which the foragers are logged. -/
def sighted (runId : String) (interval : Amount) (moments : List Moment) : List ForagerRow :=
  (moments.filter fun moment => interval.divides moment.scene.step).flatMap fun moment =>
    moment.scene.sightings.map fun sighting => ⟨runId, moment.scene.step, sighting⟩

theorem foragerRows_of_positive (positive : interval.isPositive = true) (moments : List Moment) :
    foragerRows runId interval moments = (sighted runId interval moments).map ForagerRow.toRow := by
  induction moments with
  | nil => rfl
  | cons moment moments inductionHypothesis =>
      have further : foragerRows runId interval (moment :: moments) =
          (ForagerRow.ofScene runId interval moment.scene).map ForagerRow.toRow ++
            foragerRows runId interval moments := rfl
      rw [further, inductionHypothesis]
      by_cases due : interval.divides moment.scene.step = true
      · simp [sighted, ForagerRow.ofScene, positive, due]
      · simp [sighted, ForagerRow.ofScene, due]

theorem foragerRows_of_not_positive (never : interval.isPositive = false) (moments : List Moment) :
    foragerRows runId interval moments = [] := by
  simp [foragerRows, ForagerRow.ofScene, never]

end Moment

namespace Run

variable {G : Type} [WordSource G] {plan : Plan} {world after : World G} {summary : Summary}
  {disk rest : Disk}

namespace Outcome

variable (outcome : Outcome plan world disk summary after rest)

theorem tickGroups :
    (∀ group ∈ outcome.ticks.groups, group ≠ [] ∧ group.length ≤ PendingLog.groupSize) ∧
      ∀ group ∈ outcome.ticks.groups.dropLast, group.length = PendingLog.groupSize := by
  have before := outcome.grouped.tickGroups
  have some := outcome.tickFlush.ne_nil fun group member => Nat.le_of_eq (before group member).symm
  have most := outcome.tickFlush.le_most (Nat.le_of_lt outcome.grouped.tickRoom)
    fun group member => Nat.le_of_eq (before group member)
  constructor
  · exact fun group written => ⟨some group written, most group written⟩
  · exact fun group earlier => before group (outcome.tickFlush.dropLast_subset earlier)

theorem flushedGroups :
    (∀ group ∈ outcome.flushed.groups, group ≠ []) ∧
      ∀ group ∈ outcome.flushed.groups.dropLast, PendingLog.groupSize ≤ group.length := by
  have before := outcome.grouped.foragerGroups
  constructor
  · exact outcome.foragerFlush.ne_nil before
  · exact fun group earlier => before group (outcome.foragerFlush.dropLast_subset earlier)

theorem rows_ne_nil (valid : plan.Valid) : outcome.rows ≠ [] := by
  intro none
  have tells := outcome.underway.tells
  rw [none, List.forall₂_nil_right_iff] at tells
  exact outcome.begun valid tells

theorem logged_ticks {place : Place} {log : Log} (written : outcome.ticks.written = some (place, log)) :
    TickRow.Logged outcome.rows log := by
  obtain rfl := outcome.tickGathers.log_eq written
  have rows : outcome.ticks.groups.flatten = outcome.rows.map TickRow.toRow := by
    simpa [outcome.tickEmpty] using outcome.tickGathers.rows
  obtain ⟨groups, full⟩ := outcome.tickGroups
  refine ⟨outcome.tickColumns, rows, ?_, groups, full⟩
  apply Log.even_of_length
  intro row listed
  rw [Log.rows, rows] at listed
  obtain ⟨tick, -, rfl⟩ := List.mem_map.mp listed
  rw [outcome.tickColumns]
  rfl

theorem logged_foragers (positive : plan.interval.isPositive = true) {place : Place} {log : Log}
    (written : outcome.foragers.written = some (place, log)) :
    ForagerRow.Logged (Moment.sighted world.config.runId plan.interval outcome.moments) log := by
  obtain rfl := outcome.foragerGathers.log_eq written
  have rows : outcome.foragers.groups.flatten =
      (Moment.sighted world.config.runId plan.interval outcome.moments).map ForagerRow.toRow := by
    rw [← Moment.foragerRows_of_positive positive]
    simpa [outcome.foragerEmpty] using outcome.foragerGathers.rows
  have even : Log.Even ⟨outcome.foragers.columns, outcome.foragers.groups⟩ := by
    apply Log.even_of_length
    intro row listed
    rw [Log.rows, rows] at listed
    obtain ⟨sighting, -, rfl⟩ := List.mem_map.mp listed
    rw [outcome.foragerColumns]
    rfl
  by_cases unwritten : outcome.flushed.written = none
  · have groups := outcome.made unwritten positive
    have none : Moment.sighted world.config.runId plan.interval outcome.moments = [] := by
      rw [groups] at rows
      simpa using rows.symm
    refine ⟨outcome.foragerColumns, rows, even, fun some => absurd none some, ?_, fun _ => groups⟩
    simp [groups]
  · have same := outcome.same unwritten
    obtain ⟨groups, full⟩ := outcome.flushedGroups
    rw [← same] at groups full
    refine ⟨outcome.foragerColumns, rows, even, fun _ => groups, full, ?_⟩
    intro none
    rw [none, List.map_nil, List.flatten_eq_nil_iff] at rows
    obtain ⟨before, known⟩ := Option.ne_none_iff_exists'.mp unwritten
    obtain ⟨group, member⟩ := List.exists_mem_of_ne_nil _
      (outcome.foragerGathers.begun before (same ▸ known))
    exact absurd (rows group member) (groups group member)

theorem foragers_unwritten (never : plan.interval.isPositive = false) :
    outcome.foragers.written = none := by
  have gathers := outcome.underway.foragers
  rw [Moment.foragerRows_of_not_positive never] at gathers
  obtain ⟨unwritten, empty⟩ := gathers.written_eq_none outcome.grouped.foragerGroups
  obtain ⟨same, -⟩ := outcome.foragerFlush.idle_of_few (by simp [empty])
  exact outcome.unwritten.mpr ⟨same ▸ unwritten, never⟩

section Rest

/-- What lies where a log may lie is not touched when the summary is written. -/
theorem files_rest {place : Place}
    (leads : rest.locate (Plan.tickLogPath plan.outDir) = .ok place ∨
      rest.locate (Plan.foragerLogPath plan.outDir) = .ok place) :
    rest.files[place]? = outcome.third.files[place]? := by
  obtain ⟨goal, bytes, located, -, -, noted⟩ := outcome.exists_summary
  apply noted.files
  have inRest := noted.grown.locate located
  rw [List.mem_singleton]
  rcases leads with ticks | foragers
  · exact Plan.tickLog_ne_summary ticks inRest
  · exact Plan.foragerLog_ne_summary foragers inRest

variable (here : plan.Local)
include outcome here

theorem locate_ticks {place : Place} (written : place ∈ outcome.ticks.places) :
    rest.locate (Plan.tickLogPath plan.outDir) = .ok place := by
  obtain ⟨_, grown⟩ := outcome.grown_rest
  have leads := outcome.tickLeads place written
  rw [outcome.tickPath] at leads
  exact grown.locate (leads.locate here.ticks)

theorem locate_foragers {place : Place} (written : place ∈ outcome.foragers.places) :
    rest.locate (Plan.foragerLogPath plan.outDir) = .ok place := by
  obtain ⟨_, grown⟩ := outcome.grown_rest
  have leads := outcome.foragerLeads place written
  rw [outcome.foragerPath] at leads
  exact grown.locate (leads.locate here.foragers)

theorem exists_tickLog (valid : plan.Valid) (off : plan.OffLogs rest) :
    ∃ place log, rest.locate (Plan.tickLogPath plan.outDir) = .ok place ∧
      rest.files[place]? = some (.log log) ∧ TickRow.Logged outcome.rows log := by
  have some : outcome.rows.map TickRow.toRow ≠ [] := by
    rw [Ne, List.map_eq_nil_iff]
    exact outcome.rows_ne_nil valid
  obtain ⟨⟨place, log⟩, written⟩ := Option.ne_none_iff_exists'.mp
    (outcome.tickGathers.written_ne_none outcome.tickEmpty some)
  have there : place ∈ outcome.ticks.places := by simp [PendingLog.places, written]
  have located := outcome.locate_ticks here there
  refine ⟨place, log, located, ?_, outcome.logged_ticks written⟩
  rw [outcome.files_rest (.inl located)]
  exact outcome.tickStands (outcome.offLogs off).1 (here.partsLogs _) _ written

theorem exists_foragerLog (positive : plan.interval.isPositive = true) (off : plan.OffLogs rest) :
    ∃ place log, rest.locate (Plan.foragerLogPath plan.outDir) = .ok place ∧
      rest.files[place]? = some (.log log) ∧
      ForagerRow.Logged (Moment.sighted world.config.runId plan.interval outcome.moments) log := by
  have some : outcome.foragers.written ≠ none := by
    intro unwritten
    obtain ⟨-, never⟩ := outcome.unwritten.mp unwritten
    simp [positive] at never
  obtain ⟨⟨place, log⟩, written⟩ := Option.ne_none_iff_exists'.mp some
  have there : place ∈ outcome.foragers.places := by simp [PendingLog.places, written]
  have located := outcome.locate_foragers here there
  refine ⟨place, log, located, ?_, outcome.logged_foragers positive written⟩
  rw [outcome.files_rest (.inr located)]
  exact outcome.foragerStands (outcome.offLogs off).2 (here.partsLogs _) _ written

theorem foragerLog_absent (never : plan.interval.isPositive = false) (off : plan.OffLogs rest)
    {place : Place} (located : rest.locate (Plan.foragerLogPath plan.outDir) = .ok place)
    (fresh : disk.files[place]? = none) : rest.files[place]? = none := by
  have elsewhere : place ∉ outcome.opened.places := by
    intro written
    obtain ⟨record, asked, there⟩ := outcome.exists_record written
    exact (off record asked place there).2 (.inl located)
  have apart : place ∉ outcome.ticks.places := by
    intro written
    exact Plan.tickLog_ne_foragerLog (outcome.locate_ticks here written) located rfl
  have unwritten : place ∉ outcome.foragers.places := by
    simp [PendingLog.places, outcome.foragers_unwritten never]
  rw [outcome.files_rest (.inr located), outcome.kept_third.files, outcome.grown.files _ elsewhere]
  · exact fresh
  · simp [places, elsewhere, apart, unwritten]

end Rest

end Outcome

/--
A run that completes, with its logs named by paths and its records elsewhere, has gone through
moments of its world. The log of the ticks has a row for each of them, and if the foragers are
logged at all the other log has a row for everyone who was there when they were due. It is
there, where there was none before, only if they are.
-/
theorem logs_exact (valid : plan.Valid) (here : plan.Local) (off : plan.OffLogs rest)
    (fresh : ∀ place, rest.locate (Plan.foragerLogPath plan.outDir) = .ok place →
      disk.files[place]? = none)
    (done : Run.perform plan world disk = .ok (summary, after) rest) :
    ∃ moments rows, world.Course moments after ∧ moments ≠ [] ∧
      List.Forall₂ (TickRow.Tells world.config.runId) moments rows ∧
      (∃ place log, rest.locate (Plan.tickLogPath plan.outDir) = .ok place ∧
        rest.files[place]? = some (.log log) ∧ TickRow.Logged rows log) ∧
      (plan.interval.isPositive = true →
        ∃ place log, rest.locate (Plan.foragerLogPath plan.outDir) = .ok place ∧
          rest.files[place]? = some (.log log) ∧
          ForagerRow.Logged (Moment.sighted world.config.runId plan.interval moments) log) ∧
      ((∃ place content, rest.locate (Plan.foragerLogPath plan.outDir) = .ok place ∧
        rest.files[place]? = some content) ↔ plan.interval.isPositive = true) := by
  obtain ⟨outcome⟩ := exists_outcome done
  have course := outcome.underway.course
  rw [← outcome.world_eq] at course
  refine ⟨outcome.moments, outcome.rows, course, outcome.begun valid, outcome.underway.tells,
    outcome.exists_tickLog here valid off, fun positive => outcome.exists_foragerLog here positive off, ?_⟩
  constructor
  · rintro ⟨place, content, located, found⟩
    by_contra never
    rw [Bool.not_eq_true] at never
    have absent := outcome.foragerLog_absent here never off located (fresh place located)
    rw [absent] at found
    simp at found
  · intro positive
    obtain ⟨place, log, located, found, -⟩ := outcome.exists_foragerLog here positive off
    exact ⟨place, .log log, located, found⟩

section Examples

open World

theorem offLogs_outing (record : rest.locate (.ofString "s") = .ok ["s"])
    (ticks : rest.locate (Plan.tickLogPath outing.outDir) =
      .ok ["data", "logs", "population_log.parquet"])
    (foragers : rest.locate (Plan.foragerLogPath outing.outDir) =
      .ok ["data", "logs", "entity_log.parquet"]) : outing.OffLogs rest := by
  apply outing_local.offLogs
  intro asked listed place located
  obtain rfl := List.mem_singleton.mp listed
  obtain rfl := Except.ok.inj (record.symm.trans located)
  rw [ticks, foragers]
  exact ⟨by decide, by decide⟩

theorem logs_exact_outing :
    outing.Valid ∧ outing.Local ∧ ∃ summary after rest,
      Run.perform outing company (Disk.bare []) = .ok (summary, after) rest ∧ outing.OffLogs rest ∧
      (∀ place, rest.locate (Plan.foragerLogPath outing.outDir) = .ok place →
        (Disk.bare []).files[place]? = none) ∧
      ∃ moments rows, company.Course moments after ∧
        List.Forall₂ (TickRow.Tells company.config.runId) moments rows ∧
        (∃ place log, rest.locate (Plan.tickLogPath outing.outDir) = .ok place ∧
          rest.files[place]? = some (.log log) ∧ TickRow.Logged rows log) ∧
        ∃ place log, rest.locate (Plan.foragerLogPath outing.outDir) = .ok place ∧
          rest.files[place]? = some (.log log) ∧
          ForagerRow.Logged (Moment.sighted company.config.runId outing.interval moments) log := by
  obtain ⟨summary, after, rest, done, record, ticks, foragers, -⟩ := exists_outing
  have off := offLogs_outing record ticks foragers
  have fresh : ∀ place, rest.locate (Plan.foragerLogPath outing.outDir) = .ok place →
      (Disk.bare []).files[place]? = none := by
    intro place _
    exact Std.ExtTreeMap.getElem?_empty
  obtain ⟨moments, rows, course, -, tells, tickLog, foragerLog, -⟩ :=
    logs_exact outing_valid outing_local off fresh done
  exact ⟨outing_valid, outing_local, summary, after, rest, done, off, fresh, moments, rows, course,
    tells, tickLog, foragerLog rfl⟩

/-- An example: a single tick, after which nobody is to be logged yet. -/
def brief : Plan :=
  { outing with steps := .whole 1, interval := .whole 10, records := [] }

/-- The log of the foragers that comes of the brief run has an empty group. -/
theorem empty_group_brief :
    brief.Valid ∧ brief.Local ∧ brief.records = [] ∧ ∃ summary after rest place log,
      Run.perform brief company (Disk.bare []) = .ok (summary, after) rest ∧
        rest.locate (Plan.foragerLogPath brief.outDir) = .ok place ∧
        rest.files[place]? = some (.log log) ∧ [] ∈ log.groups := by
  have passed : passes brief company (Disk.bare []) ["data", "runs", "seed0_w100_h100.json"]
      (fun third =>
        third.leadsTo (Plan.foragerLogPath brief.outDir) ["data", "logs", "entity_log.parquet"] &&
          (third.logAt? ["data", "logs", "entity_log.parquet"]).any
            fun log => log.groups.any List.isEmpty) = true := by decide +kernel
  obtain ⟨summary, after, third, rest, done, noted, checked⟩ := exists_perform_of_passes passed
  obtain ⟨leads, checked⟩ := (Bool.and_eq_true _ _).mp checked
  obtain ⟨log, found, checked⟩ := (Option.any_eq_true _ _).mp checked
  obtain ⟨group, written, empty⟩ := List.any_eq_true.mp checked
  rw [List.isEmpty_iff] at empty
  refine ⟨⟨rfl, rfl, rfl⟩, ⟨outing_local.ticks, outing_local.foragers⟩, rfl, summary, after, rest,
    ["data", "logs", "entity_log.parquet"], log, done,
    noted.grown.locate (Disk.locate_of_leadsTo leads), ?_, empty ▸ written⟩
  rw [noted.files _ (by decide)]
  exact Disk.files_of_logAt? found

end Examples

end Run

end Forage
