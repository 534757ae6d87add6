import Forage.Proofs.Replay
import Forage.Proofs.Renewal
import Forage.Proofs.Unobserved

/-!
# How long a run has gone on

A run ticks at most as often as its plan says, and writes a row for each tick to its log of
the ticks. What its summary gives as the steps that were run is the step that its world has
come to by the end: it counts the ticks of the run and those that the world had gone through
before, so it is the number of rows only if the world had not ticked yet.
-/

namespace Forage

namespace World

variable {G : Type} [WordSource G] {start world after : World G} {past moments : List Moment}
  {stop : Bool} {count : Nat}

theorem course_of_spell (course : start.Course past world)
    (spent : spell stop count past world = some (moments, after)) :
    start.Course moments after := by
  induction count generalizing past world with
  | zero =>
      obtain ⟨rfl, rfl⟩ := Prod.mk.inj (Option.some.inj spent)
      exact course
  | succ count inductionHypothesis =>
      unfold spell at spent
      cases ticked : world.tick with
      | error fault middle => simp [ticked] at spent
      | ok report middle =>
          simp only [ticked] at spent
          have onward := course.snoc ticked
          split at spent
          · obtain ⟨rfl, rfl⟩ := Prod.mk.inj (Option.some.inj spent)
            exact onward
          · exact inductionHypothesis onward spent

/-- A spell has at most as many moments as it is given, and all of them if it does not stop. -/
theorem length_spell (spent : spell stop count past world = some (moments, after)) :
    moments.length ≤ past.length + count ∧
      (stop = false → moments.length = past.length + count) := by
  induction count generalizing past world with
  | zero =>
      obtain ⟨rfl, -⟩ := Prod.mk.inj (Option.some.inj spent)
      exact ⟨le_rfl, fun _ => rfl⟩
  | succ count inductionHypothesis =>
      unfold spell at spent
      cases ticked : world.tick with
      | error fault middle => simp [ticked] at spent
      | ok report middle =>
          simp only [ticked] at spent
          split at spent
          next stopped =>
            obtain ⟨rfl, -⟩ := Prod.mk.inj (Option.some.inj spent)
            rw [List.length_append, List.length_singleton]
            refine ⟨by omega, ?_⟩
            rintro rfl
            simp at stopped
          next =>
            obtain ⟨most, all⟩ := inductionHypothesis spent
            rw [List.length_append, List.length_singleton] at most all
            refine ⟨by omega, fun endless => ?_⟩
            have := all endless
            omega

theorem length_lt_of_spell (spent : spell stop (count + 1) past world = some (moments, after)) :
    past.length < moments.length := by
  unfold spell at spent
  cases ticked : world.tick with
  | error fault middle => simp [ticked] at spent
  | ok report middle =>
      simp only [ticked] at spent
      have longer : past ++ [.after past report middle.scene] <+: moments := by
        split at spent
        · obtain ⟨rfl, -⟩ := Prod.mk.inj (Option.some.inj spent)
          exact List.prefix_rfl
        · exact prefix_spell spent
      have := longer.length_le
      rw [List.length_append, List.length_singleton] at this
      omega

end World

namespace Run

variable {G : Type} [WordSource G] {plan : Plan} {world after : World G} {summary : Summary}
  {disk rest : Disk}

/-- How often a run has let its world tick, what it has logged of it, and what it says. -/
structure Lasted (plan : Plan) (world : World G) (disk : Disk) (summary : Summary)
    (after : World G) (rest : Disk) (count : Int) (rows : List TickRow) (foragers : List Row) :
    Prop where
  /-- The run has ticked as often as there are rows. -/
  ticked : ∃ reports, World.ticks rows.length world = .ok reports after
  writes : Writes plan world disk summary after rest (rows.map TickRow.toRow) foragers
  keeps : Keeps plan rest (rows.map TickRow.toRow) foragers
  counted : plan.steps.count = .ok count
  most : rows.length ≤ count.toNat
  all : plan.stopOnExtinction = false → rows.length = count.toNat
  least : 1 ≤ count → 1 ≤ rows.length
  /-- The ticks before the run are counted with those of the run. -/
  stepsRun : summary.stepsRun = world.step + rows.length
  told : ∃ fields, summary.toDatum = .record fields ∧
    Datum.lookup "steps_run" fields = some (.whole (world.step + rows.length))
  exact_iff : summary.stepsRun = rows.length ↔ world.step = 0

theorem stepsRun_of_perform (done : Run.perform plan world disk = .ok (summary, after) rest) :
    summary.stepsRun = after.step := by
  obtain ⟨outcome⟩ := exists_outcome done
  have last : after.step = outcome.run.world.step := congrArg World.step outcome.world_eq
  rw [outcome.underway.stepsRun_eq outcome.finish.made, last]

namespace Ended

variable {count : Int} {moments : List Moment} {rows : List TickRow}

theorem course (ended : Ended plan world disk summary after rest count moments rows) :
    world.Course moments after :=
  World.course_of_spell .nil ended.spent

theorem length_rows (ended : Ended plan world disk summary after rest count moments rows) :
    rows.length = moments.length :=
  ended.tells.length_eq.symm

theorem ticked (ended : Ended plan world disk summary after rest count moments rows) :
    ∃ reports, World.ticks rows.length world = .ok reports after := by
  rw [ended.length_rows]
  exact ended.course.exists_ticks

theorem step_eq (ended : Ended plan world disk summary after rest count moments rows) :
    after.step = world.step + rows.length := by
  rw [ended.length_rows]
  exact ended.course.step_eq

/-- A run that does not stop early ticks as often as it was to; no run ticks more often. -/
theorem most (ended : Ended plan world disk summary after rest count moments rows) :
    rows.length ≤ count.toNat ∧ (plan.stopOnExtinction = false → rows.length = count.toNat) := by
  have spell := World.length_spell ended.spent
  rwa [List.length_nil, Nat.zero_add, ← ended.length_rows] at spell

theorem least (ended : Ended plan world disk summary after rest count moments rows)
    (positive : 1 ≤ count) : 1 ≤ rows.length := by
  obtain ⟨fewer, enough⟩ : ∃ fewer, count.toNat = fewer + 1 := ⟨count.toNat - 1, by omega⟩
  have spent := ended.spent
  rw [enough] at spent
  rw [ended.length_rows]
  exact World.length_lt_of_spell spent

end Ended

/--
Every run that comes to its end has ticked as often as it has rows, and no more often than it
was to, but says to have gone on for as many steps as its world has come to.
-/
theorem duration (done : Run.perform plan world disk = .ok (summary, after) rest) :
    ∃ count rows foragers, Lasted plan world disk summary after rest count rows foragers := by
  obtain ⟨count, moments, rows, ended⟩ := exists_ended done
  have stepsRun : summary.stepsRun = world.step + rows.length := by
    rw [stepsRun_of_perform done, ended.step_eq]
    exact Int.natCast_add _ _
  exact ⟨count, rows, _, {
    ticked := ended.ticked
    writes := ended.writes
    keeps := ended.keeps
    counted := ended.counted
    most := ended.most.1
    all := ended.most.2
    least := ended.least
    stepsRun
    told := ⟨_, rfl, by rw [← stepsRun]; rfl⟩
    exact_iff := by rw [stepsRun]; omega }⟩

/-- An example: the company after a tick. -/
def World.wayfarers : World Twister :=
  World.company.perform .tick

theorem exists_brief :
    ∃ summary after rest,
      Run.perform brief World.wayfarers (Disk.bare []) = .ok (summary, after) rest := by
  have passed : passes brief World.wayfarers (Disk.bare [])
      ["data", "runs", "seed0_w100_h100.json"] (fun _ => true) = true := by decide +kernel
  obtain ⟨summary, after, -, rest, done, -, -⟩ := exists_perform_of_passes passed
  exact ⟨summary, after, rest, done⟩

theorem duration_wayfarers :
    ∃ summary after rest count rows foragers,
      Run.perform brief World.wayfarers (Disk.bare []) = .ok (summary, after) rest ∧
      Lasted brief World.wayfarers (Disk.bare []) summary after rest count rows foragers := by
  obtain ⟨summary, after, rest, done⟩ := exists_brief
  obtain ⟨count, rows, foragers, lasted⟩ := duration done
  exact ⟨summary, after, rest, count, rows, foragers, done, lasted⟩

/-- Their run is one of one tick and writes one row, and is said to have gone on for two. -/
theorem overstated_wayfarers :
    brief.steps = .whole 1 ∧ ∃ summary after rest rows foragers,
      Run.perform brief World.wayfarers (Disk.bare []) = .ok (summary, after) rest ∧
      (∃ reports, World.ticks 1 World.wayfarers = .ok reports after) ∧
      Writes brief World.wayfarers (Disk.bare []) summary after rest
        (List.map TickRow.toRow rows) foragers ∧
      rows.length = 1 ∧ summary.stepsRun = 2 := by
  obtain ⟨summary, after, rest, done⟩ := exists_brief
  obtain ⟨count, moments, rows, ended⟩ := exists_ended done
  obtain rfl : (1 : Int) = count := Except.ok.inj ended.counted
  have once : rows.length = 1 := Nat.le_antisymm ended.most.1 (ended.least le_rfl)
  have before : World.wayfarers.step = 1 := by decide +kernel
  refine ⟨rfl, summary, after, rest, rows, _, done, once ▸ ended.ticked, ended.writes, once, ?_⟩
  rw [stepsRun_of_perform done, ended.step_eq, before, once]
  rfl

end Run

end Forage
