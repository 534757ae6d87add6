import Forage.Proofs.Bookkeeping

/-!
# Runs that are watched in different ways

What is logged, how often and where has no part in what comes of a world. The moments that
a run goes through depend on its world, on the number of its ticks and on whether it stops
when nobody is left, and on nothing else. A run that may end sooner goes through the first of
the moments of one that goes on for longer, and writes the first of its rows.
-/

namespace Forage

namespace Moment

variable {runId : String} {interval : Amount}

/-- Everyone who was there at some moments. -/
def everyone (runId : String) (moments : List Moment) : List ForagerRow :=
  moments.flatMap fun moment =>
    moment.scene.sightings.map fun sighting => ⟨runId, moment.scene.step, sighting⟩

theorem sighted_eq_filter (moments : List Moment) :
    sighted runId interval moments =
      (everyone runId moments).filter fun row => interval.divides row.step := by
  induction moments with
  | nil => rfl
  | cons moment moments inductionHypothesis =>
      rw [everyone, List.flatMap_cons, List.filter_append, ← everyone, ← inductionHypothesis]
      by_cases due : interval.divides moment.scene.step = true
      · rw [List.filter_eq_self.mpr (by simp [due])]
        simp [sighted, due]
      · rw [List.filter_eq_nil_iff.mpr (by simp [due])]
        simp [sighted, due]

end Moment

variable {G : Type} [WordSource G]

namespace World

variable {start world after otherAfter : World G} {past moments others : List Moment}
  {stop otherStop : Bool} {count more : Nat}

/--
The moments of a world, those of its past included, when it has been let tick so many times
more, or fewer times if it is to stop when nobody is left.
-/
def spell (stop : Bool) : (count : Nat) → List Moment → World G → Option (List Moment × World G)
  | 0, past, world => some (past, world)
  | count + 1, past, world =>
      match world.tick with
      | .error _ _ => none
      | .ok report world =>
          let moments := past ++ [.after past report world.scene]
          if world.scene.population == 0 && stop then some (moments, world)
          else spell stop count moments world

theorem prefix_spell (spent : spell stop count past world = some (moments, after)) :
    past <+: moments := by
  induction count generalizing past world with
  | zero =>
      obtain ⟨rfl, -⟩ := Prod.mk.inj (Option.some.inj spent)
      exact List.prefix_rfl
  | succ count inductionHypothesis =>
      unfold spell at spent
      cases ticked : world.tick with
      | error fault middle => simp [ticked] at spent
      | ok report middle =>
          simp only [ticked] at spent
          have longer := List.prefix_append past [.after past report middle.scene]
          split at spent
          · obtain ⟨rfl, -⟩ := Prod.mk.inj (Option.some.inj spent)
            exact longer
          · exact longer.trans (inductionHypothesis spent)

/-- A spell that may end sooner goes through the first moments of one that goes on for longer. -/
theorem spell_prefix_spell (fewer : count ≤ more) (sooner : otherStop = true → stop = true)
    (spent : spell stop count past world = some (moments, after))
    (otherSpent : spell otherStop more past world = some (others, otherAfter)) :
    moments <+: others := by
  induction count generalizing more past world with
  | zero =>
      obtain ⟨rfl, -⟩ := Prod.mk.inj (Option.some.inj spent)
      exact prefix_spell otherSpent
  | succ count inductionHypothesis =>
      obtain ⟨more, rfl⟩ : ∃ rest, more = rest + 1 := ⟨more - 1, by omega⟩
      unfold spell at spent otherSpent
      cases ticked : world.tick with
      | error fault middle => simp [ticked] at spent
      | ok report middle =>
          simp only [ticked] at spent otherSpent
          by_cases finished : (middle.scene.population == 0 && stop) = true
          · rw [if_pos finished] at spent
            obtain ⟨rfl, -⟩ := Prod.mk.inj (Option.some.inj spent)
            split at otherSpent
            · obtain ⟨rfl, -⟩ := Prod.mk.inj (Option.some.inj otherSpent)
              exact List.prefix_rfl
            · exact prefix_spell otherSpent
          · have further : ¬(middle.scene.population == 0 && otherStop) = true := by
              rw [Bool.and_eq_true] at finished ⊢
              exact fun both => finished ⟨both.1, sooner both.2⟩
            rw [if_neg finished] at spent
            rw [if_neg further] at otherSpent
            exact inductionHypothesis (by omega) spent otherSpent

end World

namespace TickRow

variable {runId : String} {moments others : List Moment} {rows otherRows : List TickRow}

theorem rightUnique_tells (runId : String) : Relator.RightUnique (Tells runId) := by
  intro moment row other tells tellsToo
  exact Except.ok.inj (tells.made.symm.trans tellsToo.made)

theorem prefix_of_tells (earlier : moments <+: others)
    (tells : List.Forall₂ (Tells runId) moments rows)
    (tellsToo : List.Forall₂ (Tells runId) others otherRows) : rows <+: otherRows := by
  obtain ⟨later, rfl⟩ := earlier
  have first := List.forall₂_take moments.length tellsToo
  rw [List.take_left] at first
  rw [List.right_unique_forall₂' (rightUnique_tells runId) tells first]
  exact List.take_prefix _ _

end TickRow

namespace Run

variable {plan other : Plan} {runId : String} {start world after otherAfter : World G}
  {run last : Run G} {moments : List Moment} {rows : List TickRow}
  {summary otherSummary : Summary} {disk rest otherDisk otherRest : Disk}
  {ticks foragers otherTicks otherForagers : List Row}

theorem Underway.exists_spell (underway : Underway plan runId start run moments rows) {count : Nat}
    (done : run.advanceBy plan runId count = .ok last) :
    ∃ all allRows, World.spell plan.stopOnExtinction count moments run.world =
      some (all, last.world) ∧ Underway plan runId start last all allRows := by
  induction count generalizing run moments rows with
  | zero =>
      obtain rfl := Except.ok.inj done
      exact ⟨moments, rows, rfl, underway⟩
  | succ count inductionHypothesis =>
      unfold advanceBy at done
      unfold World.spell
      cases advanced : run.advance plan runId with
      | error failure => simp [advanced] at done
      | ok next =>
          obtain ⟨report, row, recorder, middle, advance⟩ := exists_advance advanced
          have onward := underway.advance advance
          simp only [advanced] at done
          simp only [advance.ticked, ← advance.stopped]
          split at done
          · next stopped =>
            obtain rfl := Except.ok.inj done
            exact ⟨_, _, if_pos stopped, onward⟩
          · next further =>
            rw [if_neg further]
            exact inductionHypothesis onward done

/-- A run that comes to its end, step by step, with the rows that it has written to its logs. -/
def Writes (plan : Plan) (world : World G) (disk : Disk) (summary : Summary) (after : World G)
    (rest : Disk) (ticks foragers : List Row) : Prop :=
  ∃ made ready opened run tickLog foragerLog first second third,
    Disk.makeDirectories (Plan.logsDir plan.outDir) disk = .ok () made ∧
    Disk.makeDirectories (Plan.runsDir plan.outDir) made = .ok () ready ∧
    Recorder.create plan.records ready = .ok () opened ∧
    (Run.start plan world opened).advanceAll plan world.config.runId = .ok run ∧
    Finish plan world.config.runId run summary rest tickLog foragerLog first second third ∧
    run.world = after ∧ tickLog.groups.flatten = ticks ∧ foragerLog.groups.flatten = foragers

/-- The rows are on the disk, if no record is written over them. -/
structure Keeps (plan : Plan) (rest : Disk) (ticks foragers : List Row) : Prop where
  ticks : plan.Valid → plan.Local → plan.OffLogs rest →
    ∃ place log, rest.locate (Plan.tickLogPath plan.outDir) = .ok place ∧
      rest.files[place]? = some (.log log) ∧ log.rows = ticks
  foragers : plan.interval.isPositive = true → plan.Local → plan.OffLogs rest →
    ∃ place log, rest.locate (Plan.foragerLogPath plan.outDir) = .ok place ∧
      rest.files[place]? = some (.log log) ∧ log.rows = foragers

/-- What a run has come to by its end, told by a spell of its world. -/
structure Ended (plan : Plan) (world : World G) (disk : Disk) (summary : Summary) (after : World G)
    (rest : Disk) (count : Int) (moments : List Moment) (rows : List TickRow) : Prop where
  counted : plan.steps.count = .ok count
  spent : World.spell plan.stopOnExtinction count.toNat [] world = some (moments, after)
  tells : List.Forall₂ (TickRow.Tells world.config.runId) moments rows
  totals : summary.Totals rows
  writes : Writes plan world disk summary after rest (rows.map TickRow.toRow)
    (Moment.foragerRows world.config.runId plan.interval moments)
  keeps : Keeps plan rest (rows.map TickRow.toRow)
    (Moment.foragerRows world.config.runId plan.interval moments)

/-- When what waits has been flushed, all that was given to a log is in its groups. -/
theorem rows_of_flush {pending next : PendingLog} {given : List Row}
    (gathers : pending.Gathers given) (flushed : pending.flush disk = .ok (next, rest)) :
    next.groups.flatten = given := by
  obtain ⟨flush, empty⟩ := PendingLog.Flush.of_flush gathers flushed
  simpa [empty] using (gathers.flush flush).rows

theorem Outcome.keeps (outcome : Outcome plan world disk summary after rest)
    (course : world.Course moments after)
    (tells : List.Forall₂ (TickRow.Tells world.config.runId) moments rows) :
    Keeps plan rest (rows.map TickRow.toRow)
      (Moment.foragerRows world.config.runId plan.interval moments) := by
  have again := outcome.underway.course
  rw [← outcome.world_eq] at again
  have length : moments.length = outcome.moments.length := by
    have steps := course.step_eq
    rw [again.step_eq] at steps
    omega
  obtain ⟨rfl, -⟩ := course.unique again length
  have same : rows = outcome.rows :=
    List.right_unique_forall₂' (TickRow.rightUnique_tells _) tells outcome.underway.tells
  constructor
  · intro valid here off
    obtain ⟨place, log, located, found, logged⟩ := outcome.exists_tickLog here valid off
    exact ⟨place, log, located, found, same ▸ logged.rows⟩
  · intro positive here off
    obtain ⟨place, log, located, found, logged⟩ := outcome.exists_foragerLog here positive off
    rw [Moment.foragerRows_of_positive positive]
    exact ⟨place, log, located, found, logged.rows⟩

theorem exists_ended (done : Run.perform plan world disk = .ok (summary, after) rest) :
    ∃ count moments rows, Ended plan world disk summary after rest count moments rows := by
  obtain ⟨outcome⟩ := exists_outcome done
  obtain ⟨made, ready, opened, run, logs, runs, created, advanced, finished, rfl⟩ :=
    perform_eq_ok_iff.mp done
  obtain ⟨count, counted, onward⟩ := bind_eq_ok_iff.mp advanced
  obtain ⟨moments, rows, spent, underway⟩ :=
    (Underway.of_start plan world opened).exists_spell onward
  obtain ⟨tickLog, foragerLog, first, second, third, finish⟩ := finish_eq_ok_iff.mp finished
  refine ⟨count, moments, rows, blame_eq_ok_iff.mp counted, spent, underway.tells,
    underway.totals finish.made, ?_, outcome.keeps underway.course underway.tells⟩
  exact ⟨made, ready, opened, run, tickLog, foragerLog, first, second, third, logs, runs, created,
    advanced, finish, rfl, rows_of_flush underway.ticks finish.ticks,
    rows_of_flush underway.foragers finish.foragers⟩

/-- How the rows of one run of a world compare with those of another. -/
structure Compared (plan other : Plan) (summary otherSummary : Summary) (after otherAfter : World G)
    (ticks foragers otherTicks otherForagers : List Row) : Prop where
  /-- What is logged, and how often and where, changes nothing. -/
  same : plan.stopOnExtinction = other.stopOnExtinction → plan.steps.count = other.steps.count →
    ticks = otherTicks ∧ summary.births = otherSummary.births ∧
      summary.deaths = otherSummary.deaths ∧ after = otherAfter
  /-- A run that may take fewer steps goes as the longer one begins. -/
  fewer : plan.stopOnExtinction = other.stopOnExtinction →
    ∀ {count more : Int}, plan.steps.count = .ok count → other.steps.count = .ok more →
      count ≤ more → ticks <+: otherTicks
  /-- So does a run that stops when nobody is left. -/
  sooner : plan.stopOnExtinction = true → other.stopOnExtinction = false →
    plan.steps.count = other.steps.count → ticks <+: otherTicks
  /-- Those who are logged now and then are those of all who are logged whose step is due. -/
  rarer : plan.stopOnExtinction = other.stopOnExtinction → plan.steps.count = other.steps.count →
    ∀ {interval : Int}, 1 ≤ interval → plan.interval.count = .ok interval →
      other.interval.count = .ok 1 →
      ∃ sightings : List ForagerRow, otherForagers = sightings.map ForagerRow.toRow ∧
        foragers = (sightings.filter fun row => interval ∣ row.step).map ForagerRow.toRow

namespace Ended

variable {count otherCount : Int} {others : List Moment} {otherRows : List TickRow}
  (ended : Ended plan world disk summary after rest count moments rows)
  (otherEnded : Ended other world otherDisk otherSummary otherAfter otherRest otherCount others
    otherRows)
include ended otherEnded

theorem same (stop : plan.stopOnExtinction = other.stopOnExtinction)
    (steps : plan.steps.count = other.steps.count) :
    moments = others ∧ after = otherAfter ∧ rows = otherRows := by
  have counts := ended.counted.symm.trans (steps.trans otherEnded.counted)
  obtain rfl := Except.ok.inj counts
  have spent := ended.spent
  rw [stop, otherEnded.spent] at spent
  obtain ⟨rfl, rfl⟩ := Prod.mk.inj (Option.some.inj spent)
  exact ⟨rfl, rfl,
    List.right_unique_forall₂' (TickRow.rightUnique_tells _) ended.tells otherEnded.tells⟩

theorem begins (fewer : count ≤ otherCount)
    (sooner : other.stopOnExtinction = true → plan.stopOnExtinction = true) :
    rows.map TickRow.toRow <+: otherRows.map TickRow.toRow := by
  have earlier := World.spell_prefix_spell (Int.toNat_le_toNat fewer) sooner ended.spent
    otherEnded.spent
  exact (TickRow.prefix_of_tells earlier ended.tells otherEnded.tells).map _

theorem compared :
    Compared plan other summary otherSummary after otherAfter (rows.map TickRow.toRow)
      (Moment.foragerRows world.config.runId plan.interval moments) (otherRows.map TickRow.toRow)
      (Moment.foragerRows world.config.runId other.interval others) := by
  constructor
  · intro stop steps
    obtain ⟨-, sameWorld, rfl⟩ := ended.same otherEnded stop steps
    have births := ended.totals.births.trans otherEnded.totals.births.symm
    have deaths := ended.totals.deaths.trans otherEnded.totals.deaths.symm
    exact ⟨rfl, births, deaths, sameWorld⟩
  · intro stop count more counted countedToo fewer
    obtain rfl := Except.ok.inj (counted.symm.trans ended.counted)
    obtain rfl := Except.ok.inj (countedToo.symm.trans otherEnded.counted)
    exact ended.begins otherEnded fewer fun stops => stop.trans stops
  · intro stops _ steps
    have counts := ended.counted.symm.trans (steps.trans otherEnded.counted)
    exact ended.begins otherEnded (Int.le_of_eq (Except.ok.inj counts)) fun _ => stops
  · intro stop steps interval least counted always
    obtain ⟨rfl, -, -⟩ := ended.same otherEnded stop steps
    have positive := Amount.isPositive_eq counted
    rw [decide_eq_true (by omega)] at positive
    have positiveToo := Amount.isPositive_eq always
    rw [decide_eq_true (by omega)] at positiveToo
    refine ⟨Moment.everyone world.config.runId moments, ?_, ?_⟩
    · rw [Moment.foragerRows_of_positive positiveToo, Moment.sighted_eq_filter,
        List.filter_eq_self.mpr (by simp [Amount.divides_eq always])]
    · rw [Moment.foragerRows_of_positive positive, Moment.sighted_eq_filter]
      simp only [Amount.divides_eq counted]

end Ended

/--
Any two runs of a world that come to their ends have written rows that compare in this way, however
different their plans and the disks that they write to are. The rows are on the disk, too, where
the logs are named by paths and no record is written over them.
-/
theorem unobserved (done : Run.perform plan world disk = .ok (summary, after) rest)
    (otherDone : Run.perform other world otherDisk = .ok (otherSummary, otherAfter) otherRest) :
    ∃ ticks foragers otherTicks otherForagers,
      Writes plan world disk summary after rest ticks foragers ∧
      Writes other world otherDisk otherSummary otherAfter otherRest otherTicks otherForagers ∧
      Keeps plan rest ticks foragers ∧ Keeps other otherRest otherTicks otherForagers ∧
      Compared plan other summary otherSummary after otherAfter ticks foragers otherTicks
        otherForagers := by
  obtain ⟨count, moments, rows, ended⟩ := exists_ended done
  obtain ⟨otherCount, others, otherRows, otherEnded⟩ := exists_ended otherDone
  exact ⟨_, _, _, _, ended.writes, otherEnded.writes, ended.keeps, otherEnded.keeps,
    ended.compared otherEnded⟩

/-- An example: the outing, of which only every other step is logged, and nothing is recorded. -/
def stroll : Plan :=
  { outing with
    interval := .whole 2, outDir := .ofString "elsewhere", records := [], topPrograms := .whole 3 }

theorem unobserved_stroll :
    ∃ summary after rest otherSummary otherAfter otherRest ticks foragers otherTicks otherForagers,
      Run.perform stroll World.company (Disk.bare []) = .ok (summary, after) rest ∧
      Run.perform outing World.company (Disk.bare []) = .ok (otherSummary, otherAfter) otherRest ∧
      Writes stroll World.company (Disk.bare []) summary after rest ticks foragers ∧
      Writes outing World.company (Disk.bare []) otherSummary otherAfter otherRest otherTicks
        otherForagers ∧
      ticks = otherTicks ∧ after = otherAfter ∧
      ∃ sightings : List ForagerRow, otherForagers = sightings.map ForagerRow.toRow ∧
        foragers = (sightings.filter fun row => 2 ∣ row.step).map ForagerRow.toRow := by
  have passed : passes stroll World.company (Disk.bare [])
      ["elsewhere", "runs", "seed0_w100_h100.json"] (fun _ => true) = true := by decide +kernel
  obtain ⟨summary, after, -, rest, done, -, -⟩ := exists_perform_of_passes passed
  obtain ⟨otherSummary, otherAfter, otherRest, otherDone, -⟩ := exists_outing
  obtain ⟨ticks, foragers, otherTicks, otherForagers, writes, otherWrites, -, -, compared⟩ :=
    unobserved done otherDone
  obtain ⟨sameTicks, -, -, sameWorld⟩ := compared.same rfl rfl
  exact ⟨summary, after, rest, otherSummary, otherAfter, otherRest, ticks, foragers, otherTicks,
    otherForagers, done, otherDone, writes, otherWrites, sameTicks, sameWorld,
    compared.rarer rfl rfl (by decide) rfl rfl⟩

end Run

end Forage
