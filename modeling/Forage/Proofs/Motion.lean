import Forage.Proofs.Reach
import Mathlib.Data.Set.Function

/-!
# Copies of a situation

A motion carries cells and headings to others. If one ground is a copy of another as far as
some cells go, and a forager is carried along, it finds there what it would have found, does
what it would have done, and leaves a copy of what it would have left. Nothing beyond its
reach has a part in that.
-/

namespace Forage

/-- A way of carrying cells, and with them headings, to others. -/
structure Motion where
  cell : Cell → Cell
  heading : Heading → Heading

namespace Motion

/-- The motion that leaves everything where it is. -/
def still : Motion := ⟨id, id⟩

/-- On some cells of the grid a motion keeps apart what is apart, and next what is next. -/
structure Faithful (config : Config) (region : Set Cell) (motion : Motion) : Prop where
  inGrid : ∀ cell ∈ region, config.InGrid cell
  lands : ∀ cell ∈ region, config.InGrid (motion.cell cell)
  injective : Set.InjOn motion.cell region
  next : ∀ cell ∈ region, ∀ heading,
    config.next (motion.heading heading) (motion.cell cell) =
      (config.next heading cell).map motion.cell
  turnLeft : ∀ heading : Heading,
    motion.heading heading.turnLeft = (motion.heading heading).turnLeft
  turnRight : ∀ heading : Heading,
    motion.heading heading.turnRight = (motion.heading heading).turnRight

theorem faithful_still {config : Config} {region : Set Cell}
    (inGrid : ∀ cell ∈ region, config.InGrid cell) : Faithful config region still where
  inGrid := inGrid
  lands := inGrid
  injective := Set.injOn_id region
  next := by simp [still]
  turnLeft _ := rfl
  turnRight _ := rfl

end Motion

/-- A forager that is carried along. -/
def Forager.carried (motion : Motion) (forager : Forager) : Forager :=
  { forager with
    position := motion.cell forager.position
    heading := motion.heading forager.heading }

variable {config : Config} {region : Set Cell} {motion : Motion}

namespace Ground

/-- What lies on the cells of a region lies on the cells to which a motion carries them. -/
structure Copied (motion : Motion) (region : Set Cell) (ground copy : Ground) : Prop where
  food : ∀ cell ∈ region, motion.cell cell ∈ copy.food ↔ cell ∈ ground.food
  walls : ∀ cell ∈ region, motion.cell cell ∈ copy.walls ↔ cell ∈ ground.walls
  crowd : ∀ cell ∈ region, copy.crowd[motion.cell cell]? = ground.crowd[cell]?

variable {ground copy : Ground} {cell position : Cell}

theorem copied_iff :
    ground.Copied motion region copy ↔
      ∀ cell ∈ region, copy.spot (motion.cell cell) = ground.spot cell := by
  simp only [spot, Prod.mk.injEq, CellSet.contains_eq_contains_iff]
  constructor
  · exact fun copied cell member =>
      ⟨copied.food cell member, copied.walls cell member, copied.crowd cell member⟩
  · exact fun same => ⟨fun cell member => (same cell member).1,
      fun cell member => (same cell member).2.1, fun cell member => (same cell member).2.2⟩

namespace Copied

theorem count (copied : ground.Copied motion region copy) (member : cell ∈ region) :
    copy.count (motion.cell cell) = ground.count cell := by
  simp only [Ground.count, Std.ExtTreeMap.getD_eq_getD_getElem?, copied.crowd cell member]

theorem contains_food (copied : ground.Copied motion region copy) (member : cell ∈ region) :
    copy.food.contains (motion.cell cell) = ground.food.contains cell := by
  rw [CellSet.contains_eq_contains_iff, copied.food cell member]

theorem isWalkable (faithful : motion.Faithful config region)
    (copied : ground.Copied motion region copy) (member : cell ∈ region) :
    copy.isWalkable config (motion.cell cell) = ground.isWalkable config cell := by
  rw [Bool.eq_iff_iff, isWalkable_iff (faithful.lands cell member),
    isWalkable_iff (faithful.inGrid cell member), copied.walls cell member]

theorem isFood (faithful : motion.Faithful config region)
    (copied : ground.Copied motion region copy) (member : cell ∈ region) :
    copy.isFood config (motion.cell cell) = ground.isFood config cell := by
  simp only [Ground.isFood, holds, Config.normalize_of_inGrid (faithful.lands cell member),
    Config.normalize_of_inGrid (faithful.inGrid cell member), copied.contains_food member]

theorem isOccupied (faithful : motion.Faithful config region)
    (copied : ground.Copied motion region copy) (member : cell ∈ region)
    (here : position ∈ region) :
    copy.isOccupied config (motion.cell cell) (some (motion.cell position)) =
      ground.isOccupied config cell (some position) := by
  simp only [Ground.isOccupied, Config.normalize_of_inGrid (faithful.lands cell member),
    Config.normalize_of_inGrid (faithful.inGrid cell member), copied.count member,
    Option.some.injEq, faithful.injective.eq_iff here member]

end Copied

end Ground

namespace Situation

/-- A situation is carried along by a motion, as far as a region goes. -/
structure Copied (motion : Motion) (region : Set Cell) (situation copy : Situation) : Prop where
  forager : copy.forager = situation.forager.carried motion
  ground : situation.ground.Copied motion region copy.ground

variable {situation copy after : Situation} {cell goal : Cell}

namespace Copied

theorem eat (faithful : motion.Faithful config region)
    (copied : situation.Copied motion region copy) (member : cell ∈ region) :
    (situation.eat config cell).Copied motion region (copy.eat config (motion.cell cell)) where
  forager := by
    simp only [Situation.eat, Ground.harvest_of_inGrid _ (faithful.lands cell member),
      Ground.harvest_of_inGrid _ (faithful.inGrid cell member),
      copied.ground.contains_food member, copied.forager, Forager.carried]
  ground := by
    constructor
    · intro other inside
      rw [Situation.eat, Situation.eat, Ground.mem_food_harvest _ (faithful.lands cell member),
        Ground.mem_food_harvest _ (faithful.inGrid cell member),
        copied.ground.food other inside, ne_eq, faithful.injective.eq_iff inside member]
    · intro other inside
      rw [Situation.eat, Situation.eat, Ground.walls_harvest, Ground.walls_harvest,
        copied.ground.walls other inside]
    · intro other inside
      rw [Situation.eat, Situation.eat, Ground.crowd_harvest, Ground.crowd_harvest,
        copied.ground.crowd other inside]

theorem settle (faithful : motion.Faithful config region)
    (copied : situation.Copied motion region copy)
    (here : situation.forager.position ∈ region) (member : goal ∈ region) :
    (situation.settle goal).Copied motion region (copy.settle (motion.cell goal)) where
  forager := by simp only [Situation.settle, copied.forager, Forager.carried]
  ground := by
    have position : copy.forager.position = motion.cell situation.forager.position := by
      rw [copied.forager, Forager.carried]
    have vacated (other : Cell) (inside : other ∈ region) :
        (copy.ground.vacate copy.forager.position).crowd[motion.cell other]? =
          (situation.ground.vacate situation.forager.position).crowd[other]? := by
      rw [Ground.getElem?_crowd_vacate, Ground.getElem?_crowd_vacate, position,
        copied.ground.count here, copied.ground.crowd other inside]
      simp only [faithful.injective.eq_iff here inside]
    constructor
    · exact copied.ground.food
    · exact copied.ground.walls
    · intro other inside
      simp only [Situation.settle, Ground.getElem?_crowd_occupy,
        faithful.injective.eq_iff member inside, vacated other inside, Ground.count,
        Std.ExtTreeMap.getD_eq_getD_getElem?, vacated goal member]

theorem enter (faithful : motion.Faithful config region)
    (copied : situation.Copied motion region copy)
    (here : situation.forager.position ∈ region) (member : goal ∈ region) :
    (situation.enter config goal).Copied motion region
      (copy.enter config (motion.cell goal)) :=
  (copied.eat faithful member).settle faithful here member

theorem ahead (faithful : motion.Faithful config region)
    (copied : situation.Copied motion region copy)
    (here : situation.forager.position ∈ region) :
    copy.ahead config = (situation.ahead config).map motion.cell := by
  rw [ahead_eq, ahead_eq, copied.forager]
  exact faithful.next _ here _

/-- A forager that is carried along finds its way clear or blocked as it would have. -/
theorem move (faithful : motion.Faithful config region)
    (copied : situation.Copied motion region copy)
    (here : situation.forager.position ∈ region)
    (next : ∀ goal, situation.ahead config = some goal → goal ∈ region) :
    (copy.move config).1 = (situation.move config).1 ∧
      (situation.move config).2.Copied motion region (copy.move config).2 := by
  have ahead := copied.ahead faithful here
  rcases clear_or_blocked config situation with ⟨goal, clear⟩ | blocked
  · have member := next goal clear.1
    have copyClear : copy.Clear config (motion.cell goal) := by
      refine ⟨by rw [ahead, clear.1, Option.map_some], ?_⟩
      rw [copied.ground.isWalkable faithful member, clear.2]
    rw [move_of_clear clear, move_of_clear copyClear]
    exact ⟨rfl, copied.enter faithful here member⟩
  · have copyBlocked : ∀ goal, ¬copy.Clear config goal := by
      rintro image ⟨reached, walkable⟩
      rw [ahead, Option.map_eq_some_iff] at reached
      obtain ⟨goal, reached, rfl⟩ := reached
      rw [copied.ground.isWalkable faithful (next goal reached)] at walkable
      exact blocked goal ⟨reached, walkable⟩
    rw [move_of_blocked blocked, move_of_blocked copyBlocked]
    exact ⟨rfl, copied⟩

theorem sense (faithful : motion.Faithful config region)
    (copied : situation.Copied motion region copy)
    (here : situation.forager.position ∈ region)
    (next : ∀ goal, situation.ahead config = some goal → goal ∈ region) {beyond : Nat}
    {asked copyAsked : Cell → Bool}
    (alike : ∀ cell ∈ region, copyAsked (motion.cell cell) = asked cell) :
    copy.sense config beyond copyAsked = situation.sense config beyond asked := by
  unfold Situation.sense
  rw [copied.ahead faithful here]
  cases reached : situation.ahead config with
  | none => rfl
  | some goal => simp only [Option.map_some, alike goal (next goal reached)]

theorem turn (copied : situation.Copied motion region copy) {how : Forager → Forager}
    (alike : how (situation.forager.carried motion) = (how situation.forager).carried motion) :
    (situation.turn how).Copied motion region (copy.turn how) where
  forager := by rw [Situation.turn, Situation.turn, copied.forager, alike]
  ground := copied.ground

theorem pay (copied : situation.Copied motion region copy) :
    (situation.pay config).Copied motion region (copy.pay config) := by
  unfold Situation.pay
  exact copied.turn rfl

/-- Whatever opcode is run, a forager that is carried along runs it to the same effect. -/
theorem perform (faithful : motion.Faithful config region)
    (copied : situation.Copied motion region copy)
    (within : ∀ cell ∈ situation.forager.reach config, cell ∈ region) (opcode : Opcode) :
    (copy.perform config opcode).1 = (situation.perform config opcode).1 ∧
      (situation.perform config opcode).2.Copied motion region (copy.perform config opcode).2 := by
  have here := within _ (Forager.position_mem_reach config situation.forager)
  have next (goal : Cell) (reached : situation.ahead config = some goal) : goal ∈ region :=
    within goal (Forager.mem_reach.mpr (.inr (.inl reached)))
  cases opcode with
  | doubleMove =>
      obtain ⟨-, first⟩ := copied.move faithful here next
      obtain ⟨come, onward⟩ := reach_move config situation
      exact ⟨rfl, (first.move faithful (within _ come) fun goal reached =>
        within goal (onward goal reached)).2⟩
  | move => exact ⟨rfl, (copied.move faithful here next).2⟩
  | left =>
      refine ⟨rfl, copied.turn ?_⟩
      simp only [Forager.turnLeft, Forager.carried, faithful.turnLeft]
  | right =>
      refine ⟨rfl, copied.turn ?_⟩
      simp only [Forager.turnRight, Forager.carried, faithful.turnRight]
  | ifEntity =>
      refine ⟨copied.sense faithful here next fun cell member => ?_, copied⟩
      rw [copied.forager]
      exact copied.ground.isOccupied faithful member here
  | ifFood =>
      exact ⟨copied.sense faithful here next fun cell => copied.ground.isFood faithful, copied⟩
  | ifWall =>
      refine ⟨copied.sense faithful here next fun cell member => ?_, copied⟩
      rw [copied.ground.isWalkable faithful member]
  | skip | skip2 | sleep => exact ⟨rfl, copied⟩

theorem finish (faithful : motion.Faithful config region)
    (copied : situation.Copied motion region copy)
    (here : situation.forager.position ∈ region) (skipped : Nat) :
    (situation.finish config skipped).Copied motion region (copy.finish config skipped) := by
  have position : copy.forager.position = motion.cell situation.forager.position := by
    rw [copied.forager, Forager.carried]
  rw [Situation.finish, Situation.finish, position]
  let advance (forager : Forager) : Forager :=
    { forager with tape := forager.tape.advance skipped }
  have advanced : (situation.turn advance).Copied motion region (copy.turn advance) :=
    copied.turn rfl
  exact (advanced.eat faithful here).pay

/-- A forager that is carried along takes its step if it would have, and to the same effect. -/
theorem step (valid : config.Valid) (faithful : motion.Faithful config region)
    (copied : situation.Copied motion region copy)
    (within : ∀ cell ∈ situation.forager.reach config, cell ∈ region)
    (done : situation.step config = .ok after) :
    ∃ copyAfter, copy.step config = .ok copyAfter ∧ after.Copied motion region copyAfter := by
  obtain ⟨opcode, current, rfl⟩ := step_eq_ok_iff_finish.mp done
  obtain ⟨skipped, performed⟩ := copied.perform faithful within opcode
  obtain ⟨visited, visits⟩ := (gait_perform config opcode situation).visits valid
  have come := within _ (visits.within visits.ends)
  have sameTape : copy.forager.tape = situation.forager.tape := by
    rw [copied.forager, Forager.carried]
  refine ⟨(copy.perform config opcode).2.finish config (copy.perform config opcode).1,
    step_eq_ok_iff_finish.mpr ⟨opcode, sameTape ▸ current, rfl⟩, ?_⟩
  rw [skipped]
  exact performed.finish faithful come _

end Copied

end Situation

end Forage
