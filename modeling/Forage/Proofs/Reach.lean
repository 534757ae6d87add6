import Forage.Proofs.Sound

/-!
# The reach of a forager

In one step a forager comes no further than two cells ahead. It may eat what lies on the
cells it comes to, it ends on one of them, and the ground counts it there instead of where
it stood. All other cells, all other foragers and everything else about the world stay as
they are.
-/

namespace Forage

/-- The cell next to a cell in some heading, if the grid has one there. -/
def Config.next (config : Config) (heading : Heading) (cell : Cell) : Option Cell :=
  config.normalize (heading.ahead cell)

theorem Config.Valid.inGrid_of_next {config : Config} (valid : config.Valid) {heading : Heading}
    {cell goal : Cell} (found : config.next heading cell = some goal) : config.InGrid goal :=
  valid.inGrid_of_normalize found

namespace Forager

variable {config : Config} {forager : Forager} {cell : Cell}

/-- The cells a forager may come to in one step: its own, the next one, and the one after. -/
def reach (config : Config) (forager : Forager) : Finset Cell :=
  let next := config.next forager.heading
  insert forager.position
    ((next forager.position).toFinset ∪ ((next forager.position).bind next).toFinset)

theorem mem_reach :
    cell ∈ forager.reach config ↔
      cell = forager.position ∨ config.next forager.heading forager.position = some cell ∨
        ∃ middle, config.next forager.heading forager.position = some middle ∧
          config.next forager.heading middle = some cell := by
  simp [reach, Option.bind_eq_some_iff]

theorem position_mem_reach (config : Config) (forager : Forager) :
    forager.position ∈ forager.reach config :=
  mem_reach.mpr (.inl rfl)

theorem inGrid_of_mem_reach (valid : config.Valid) (inGrid : config.InGrid forager.position)
    (member : cell ∈ forager.reach config) : config.InGrid cell := by
  rcases mem_reach.mp member with rfl | next | ⟨middle, -, next⟩
  · exact inGrid
  · exact valid.inGrid_of_next next
  · exact valid.inGrid_of_next next

end Forager

theorem CellSet.mem_erase_iff {cells : CellSet} {cell other : Cell} :
    other ∈ cells.erase cell ↔ other ∈ cells ∧ other ≠ cell := by
  rw [← mem_members, members_erase, Finset.mem_erase, mem_members, and_comm]

theorem CellSet.contains_eq_contains_iff {cells others : CellSet} {cell other : Cell} :
    cells.contains cell = others.contains other ↔ (cell ∈ cells ↔ other ∈ others) := by
  rw [Bool.eq_iff_iff, Std.ExtTreeSet.contains_iff_mem, Std.ExtTreeSet.contains_iff_mem]

namespace Ground

variable {config : Config}

/-- All that a ground knows of a cell: whether food or a wall is there, and how many foragers. -/
def spot (ground : Ground) (cell : Cell) : Bool × Bool × Option Nat :=
  (ground.food.contains cell, ground.walls.contains cell, ground.crowd[cell]?)

theorem ext_spot {ground other : Ground} (same : ∀ cell, ground.spot cell = other.spot cell) :
    ground = other := by
  simp only [spot, Prod.mk.injEq, forall_and] at same
  obtain ⟨food, walls, crowd⟩ := same
  cases ground
  cases other
  simp only [mk.injEq]
  exact ⟨Std.ExtTreeSet.ext_contains food, Std.ExtTreeSet.ext_contains walls,
    Std.ExtTreeMap.ext_getElem? crowd⟩

theorem harvest_of_inGrid (ground : Ground) {cell : Cell} (inGrid : config.InGrid cell) :
    ground.harvest config cell =
      (ground.food.contains cell, { ground with food := ground.food.erase cell }) := by
  simp only [harvest, Config.normalize_of_inGrid inGrid]
  by_cases found : ground.food.contains cell
  · simp [found]
  · have same : ground.food.erase cell = ground.food := by
      apply Std.ExtTreeSet.ext_mem
      intro other
      rw [CellSet.mem_erase_iff, and_iff_left_iff_imp]
      rintro member rfl
      exact found (Std.ExtTreeSet.contains_iff_mem.mpr member)
    simp [found, same]

theorem mem_food_harvest (ground : Ground) {cell other : Cell} (inGrid : config.InGrid cell) :
    other ∈ (ground.harvest config cell).2.food ↔ other ∈ ground.food ∧ other ≠ cell := by
  rw [harvest_of_inGrid ground inGrid, CellSet.mem_erase_iff]

theorem isWalkable_iff {ground : Ground} {cell : Cell} (inGrid : config.InGrid cell) :
    ground.isWalkable config cell = true ↔ cell ∉ ground.walls := by
  simp [isWalkable, Config.normalize_of_inGrid inGrid, ← Std.ExtTreeSet.contains_iff_mem]

theorem getElem?_crowd_occupy (ground : Ground) (cell other : Cell) :
    (ground.occupy cell).crowd[other]? =
      if cell = other then some (ground.count cell + 1) else ground.crowd[other]? := by
  simp [occupy, Std.ExtTreeMap.getElem?_insert]

theorem getElem?_crowd_vacate (ground : Ground) (cell other : Cell) :
    (ground.vacate cell).crowd[other]? =
      if cell = other then
        if ground.count cell ≤ 1 then none else some (ground.count cell - 1)
      else ground.crowd[other]? := by
  by_cases last : ground.count cell ≤ 1
  · simp [crowd_vacate_of_le last, last, Std.ExtTreeMap.getElem?_erase]
  · simp [crowd_vacate_of_lt (Nat.lt_of_not_le last), last, Std.ExtTreeMap.getElem?_insert]

end Ground

namespace Situation

variable {config : Config} {situation after : Situation} {goal cell : Cell}

theorem ahead_eq (situation : Situation) :
    situation.ahead config = config.next situation.forager.heading situation.forager.position :=
  rfl

/-- The next cell is one that the forager can go to. -/
def Clear (config : Config) (situation : Situation) (goal : Cell) : Prop :=
  situation.ahead config = some goal ∧ situation.ground.isWalkable config goal = true

/-- Goes to a cell and eats what lies there. -/
def enter (config : Config) (goal : Cell) (situation : Situation) : Situation :=
  (situation.eat config goal).settle goal

theorem Clear.inGrid (clear : situation.Clear config goal) (valid : config.Valid) :
    config.InGrid goal :=
  valid.inGrid_of_normalize clear.1

theorem move_of_clear (clear : situation.Clear config goal) :
    situation.move config = (true, situation.enter config goal) := by
  simp [move, clear.1, clear.2, enter]

theorem move_of_blocked (blocked : ∀ goal, ¬situation.Clear config goal) :
    situation.move config = (false, situation) := by
  unfold move
  cases reached : situation.ahead config with
  | none => rfl
  | some goal =>
      have closed : situation.ground.isWalkable config goal = false :=
        Bool.eq_false_iff.mpr fun walkable => blocked goal ⟨reached, walkable⟩
      simp [closed]

theorem clear_or_blocked (config : Config) (situation : Situation) :
    (∃ goal, situation.Clear config goal) ∨ ∀ goal, ¬situation.Clear config goal :=
  (em _).imp_right not_exists.mp

section Enter

theorem mem_food_enter (inGrid : config.InGrid goal) :
    cell ∈ (situation.enter config goal).ground.food ↔
      cell ∈ situation.ground.food ∧ cell ≠ goal :=
  Ground.mem_food_harvest situation.ground inGrid

theorem heading_enter :
    (situation.enter config goal).forager.heading = situation.forager.heading := rfl

theorem tape_enter : (situation.enter config goal).forager.tape = situation.forager.tape := rfl

theorem position_enter : (situation.enter config goal).forager.position = goal := rfl

theorem walls_enter : (situation.enter config goal).ground.walls = situation.ground.walls :=
  Ground.walls_harvest

theorem isWalkable_enter :
    (situation.enter config goal).ground.isWalkable config cell =
      situation.ground.isWalkable config cell := by
  simp only [Ground.isWalkable, walls_enter]

/-- Whoever goes to a cell is no more counted where it stood; other cells are left alone. -/
theorem crowd_enter (stood : situation.forager.position ≠ cell) (entered : goal ≠ cell) :
    (situation.enter config goal).ground.crowd[cell]? = situation.ground.crowd[cell]? := by
  have eaten : (situation.eat config goal).ground.crowd = situation.ground.crowd :=
    Ground.crowd_harvest
  have vacated := Ground.getElem?_crowd_vacate (situation.eat config goal).ground
    situation.forager.position cell
  rw [if_neg stood, eaten] at vacated
  exact (Ground.getElem?_crowd_occupy _ goal cell).trans ((if_neg entered).trans vacated)

end Enter

/-- What an opcode can make of the forager's place: it stays, goes one cell ahead, or two. -/
inductive Gait (config : Config) (situation : Situation) : Situation → Prop where
  | stay (heading : Heading) :
      Gait config situation (situation.turn fun forager => { forager with heading })
  | stride {goal : Cell} : situation.Clear config goal →
      Gait config situation (situation.enter config goal)
  | strides {goal next : Cell} : situation.Clear config goal →
      (situation.enter config goal).Clear config next →
      Gait config situation ((situation.enter config goal).enter config next)

theorem gait_move (config : Config) (situation : Situation) :
    Gait config situation (situation.move config).2 := by
  rcases clear_or_blocked config situation with ⟨goal, clear⟩ | blocked
  · rw [move_of_clear clear]
    exact .stride clear
  · rw [move_of_blocked blocked]
    exact .stay situation.forager.heading

theorem gait_perform (config : Config) (opcode : Opcode) (situation : Situation) :
    Gait config situation (situation.perform config opcode).2 := by
  cases opcode with
  | doubleMove =>
      rcases clear_or_blocked config situation with ⟨goal, clear⟩ | blocked
      · rcases clear_or_blocked config (situation.enter config goal) with ⟨next, further⟩ | stopped
        · simp only [perform, move_of_clear clear, move_of_clear further]
          exact .strides clear further
        · simp only [perform, move_of_clear clear, move_of_blocked stopped]
          exact .stride clear
      · simp only [perform, move_of_blocked blocked]
        exact .stay situation.forager.heading
  | move => exact gait_move config situation
  | left => exact .stay situation.forager.heading.turnLeft
  | right => exact .stay situation.forager.heading.turnRight
  | ifEntity | ifFood | ifWall | skip | skip2 | sleep => exact .stay situation.forager.heading

/--
The forager comes to a few cells of its reach, stands on the last of them, and has eaten
what lay on the others. No cell beyond its reach is touched.
-/
structure Visits (config : Config) (before after : Situation) (visited : Finset Cell) : Prop where
  few : visited.card ≤ 2
  within : visited ⊆ before.forager.reach config
  ends : after.forager.position ∈ visited
  walkable : after.forager.position ≠ before.forager.position →
    before.ground.isWalkable config after.forager.position = true
  walls : after.ground.walls = before.ground.walls
  food : ∀ cell ≠ after.forager.position,
    cell ∈ after.ground.food ↔ cell ∈ before.ground.food ∧ cell ∉ visited
  crowd : ∀ cell ∉ before.forager.reach config,
    after.ground.crowd[cell]? = before.ground.crowd[cell]?

theorem Gait.visits (valid : config.Valid) (gait : Gait config situation after) :
    ∃ visited, Visits config situation after visited := by
  have here := Forager.position_mem_reach config situation.forager
  cases gait with
  | stay heading =>
      exact ⟨{situation.forager.position}, {
        few := by simp
        within := by simpa using here
        ends := by simp [turn]
        walkable := fun moved => absurd rfl moved
        walls := rfl
        food := fun cell apart => (and_iff_left (Finset.mem_singleton.not.mpr apart)).symm
        crowd := fun _ _ => rfl }⟩
  | @stride goal clear =>
      have ahead : goal ∈ situation.forager.reach config :=
        Forager.mem_reach.mpr (.inr (.inl clear.1))
      exact ⟨{goal}, {
        few := by simp
        within := by simpa using ahead
        ends := by simp [enter, settle]
        walkable := fun _ => clear.2
        walls := walls_enter
        food := fun cell _ => by
          rw [mem_food_enter (clear.inGrid valid), Finset.mem_singleton]
        crowd := fun cell beyond =>
          crowd_enter (fun same => beyond (same ▸ here)) fun same => beyond (same ▸ ahead) }⟩
  | @strides goal next clear further =>
      have ahead : goal ∈ situation.forager.reach config :=
        Forager.mem_reach.mpr (.inr (.inl clear.1))
      have twoAhead : next ∈ situation.forager.reach config :=
        Forager.mem_reach.mpr (.inr (.inr ⟨goal, clear.1, further.1⟩))
      exact ⟨{goal, next}, {
        few := Finset.card_le_two
        within := by simpa [Finset.insert_subset_iff] using ⟨ahead, twoAhead⟩
        ends := by simp [enter, settle]
        walkable := fun _ => by
          rw [← further.2, isWalkable_enter]
          rfl
        walls := by rw [walls_enter, walls_enter]
        food := fun cell _ => by
          rw [mem_food_enter (further.inGrid valid), mem_food_enter (clear.inGrid valid),
            Finset.mem_insert, Finset.mem_singleton, not_or, and_assoc]
        crowd := fun cell beyond => by
          have apart {other : Cell} (member : other ∈ situation.forager.reach config) :
              other ≠ cell := fun same => beyond (same ▸ member)
          rw [crowd_enter (apart ahead) (apart twoAhead),
            crowd_enter (apart here) (apart ahead)] }⟩

/-- A move leaves the forager's cell, and the one ahead of it then, within the old reach. -/
theorem reach_move (config : Config) (situation : Situation) :
    (situation.move config).2.forager.position ∈ situation.forager.reach config ∧
      ∀ goal, (situation.move config).2.ahead config = some goal →
        goal ∈ situation.forager.reach config := by
  rcases clear_or_blocked config situation with ⟨goal, clear⟩ | blocked
  · rw [move_of_clear clear]
    exact ⟨Forager.mem_reach.mpr (.inr (.inl clear.1)),
      fun next reached => Forager.mem_reach.mpr (.inr (.inr ⟨goal, clear.1, reached⟩))⟩
  · rw [move_of_blocked blocked]
    exact ⟨Forager.position_mem_reach config situation.forager,
      fun goal reached => Forager.mem_reach.mpr (.inr (.inl reached))⟩

/-- What is left to do in a step when its opcode has been run: to go on, to eat and to pay. -/
def finish (config : Config) (skipped : Nat) (situation : Situation) : Situation :=
  ((situation.turn fun forager => { forager with tape := forager.tape.advance skipped }).eat config
    situation.forager.position).pay config

theorem step_eq_ok_iff_finish :
    situation.step config = .ok after ↔
      ∃ opcode, situation.forager.tape.current? = some opcode ∧
        after = (situation.perform config opcode).2.finish config
          (situation.perform config opcode).1 := by
  rw [step_eq_ok_iff]
  unfold execute
  cases situation.forager.tape.current? with
  | none => simp
  | some opcode =>
      constructor
      · rintro ⟨other, middle, executed, rfl⟩
        simp only [Except.ok.injEq, Prod.mk.injEq] at executed
        obtain ⟨-, rfl⟩ := executed
        exact ⟨opcode, rfl, rfl⟩
      · rintro ⟨other, current, rfl⟩
        obtain rfl := Option.some.inj current
        exact ⟨opcode, _, rfl, rfl⟩

theorem step_visits (valid : config.Valid) (inGrid : config.InGrid situation.forager.position)
    (done : situation.step config = .ok after) :
    ∃ visited, Visits config situation after visited := by
  obtain ⟨opcode, -, rfl⟩ := step_eq_ok_iff_finish.mp done
  obtain ⟨visited, visits⟩ := (gait_perform config opcode situation).visits valid
  have onGrid := Forager.inGrid_of_mem_reach valid inGrid (visits.within visits.ends)
  exact ⟨visited, {
    few := visits.few
    within := visits.within
    ends := visits.ends
    walkable := visits.walkable
    walls := Ground.walls_harvest.trans visits.walls
    food := fun cell apart =>
      (Ground.mem_food_harvest _ onGrid).trans
        ((and_iff_left apart).trans (visits.food cell apart))
    crowd := fun cell beyond => by
      rw [← visits.crowd cell beyond]
      exact congrArg (·[cell]?) Ground.crowd_harvest }⟩

theorem spot_step (valid : config.Valid) (inGrid : config.InGrid situation.forager.position)
    (done : situation.step config = .ok after) (beyond : cell ∉ situation.forager.reach config) :
    after.ground.spot cell = situation.ground.spot cell := by
  obtain ⟨visited, visits⟩ := step_visits valid inGrid done
  have apart : cell ≠ after.forager.position :=
    fun same => beyond (same ▸ visits.within visits.ends)
  have food : after.ground.food.contains cell = situation.ground.food.contains cell := by
    rw [CellSet.contains_eq_contains_iff, visits.food cell apart,
      and_iff_left fun seen => beyond (visits.within seen)]
  rw [Ground.spot, Ground.spot, food, visits.walls, visits.crowd cell beyond]

end Situation

namespace World

variable {G : Type} {world : World G} {key : Nat}

theorem stepOne_of_step {forager : Forager} {situation : Situation}
    (found : world.records[key]? = some forager)
    (done : Situation.step world.config ⟨world.ground, forager⟩ = .ok situation) :
    stepOne key world = .ok () (world.put key situation) := by
  simp only [stepOne, found, done]

theorem stepAll_cons {middle : World G} (taken : stepOne key world = .ok () middle)
    (keys : List Nat) : stepAll (key :: keys) world = stepAll keys middle := by
  simp only [stepAll, taken]

theorem getElem?_records_put {situation : Situation} {other : Nat} (distinct : key ≠ other) :
    (world.put key situation).records[other]? = world.records[other]? := by
  rw [put, Std.ExtTreeMap.getElem?_insert, if_neg (distinct ∘ Std.LawfulEqCmp.eq_of_compare)]

theorem Sound.exists_step (sound : world.Sound) (listed : key ∈ world.live.toList) :
    ∃ forager situation, world.records[key]? = some forager ∧ forager.Fit world.config ∧
      Situation.step world.config ⟨world.ground, forager⟩ = .ok situation ∧
      (world.put key situation).Sound := by
  obtain ⟨forager, found, -⟩ := sound.enrolled.known key listed
  have fit := sound.fit forager (mem_called.mpr ⟨key, listed, found⟩)
  obtain ⟨situation, done⟩ :=
    @Situation.step_eq_ok ⟨world.ground, forager⟩ world.config fit.tape
  obtain ⟨eaten, passage⟩ := Situation.step_passage sound.valid done
  exact ⟨forager, situation, found, fit, done, sound.put listed found passage⟩

/-- What the step of one forager does to a world, and all that it leaves as it is. -/
structure Footstep (world : World G) (key : Nat) (rested tired : Forager)
    (eaten : Finset Cell) (after : World G) : Prop where
  acted : world.act key .step = .ok after
  taken : stepOne key world = .ok () after
  config : after.config = world.config
  source : after.source = world.source
  step : after.step = world.step
  countdown : after.countdown = world.countdown
  nextId : after.nextId = world.nextId
  live : after.live = world.live
  others : ∀ other ≠ key, after.records[other]? = world.records[other]?
  before : world.records[key]? = some rested
  stepped : after.records[key]? = some tired
  id : tired.id = rested.id
  opcodes : tired.tape.opcodes = rested.tape.opcodes
  walls : after.ground.walls = world.ground.walls
  few : eaten.card ≤ 2
  within : eaten ⊆ rested.reach world.config
  grown : eaten ⊆ CellSet.members world.ground.food
  food : CellSet.members after.ground.food = CellSet.members world.ground.food \ eaten
  energy : tired.energy =
    rested.energy + world.config.energyPerFood * eaten.card - world.config.energyPerStep
  ends : tired.position ∈ rested.reach world.config
  bare : tired.position ∉ after.ground.food
  walkable : tired.position ≠ rested.position →
    after.ground.isWalkable after.config tired.position = true
  /-- One forager less is counted where it stood, and one more where it stands. -/
  count : ∀ cell,
    after.ground.count cell + (if rested.position = cell then 1 else 0) =
      world.ground.count cell + if tired.position = cell then 1 else 0
  stored : ∀ cell, cell ∈ after.ground.crowd → 0 < after.ground.count cell

theorem Sound.exists_footstep (sound : world.Sound) (listed : key ∈ world.live.toList) :
    ∃ rested tired eaten after, Footstep world key rested tired eaten after := by
  obtain ⟨forager, situation, found, fit, done, -⟩ := sound.exists_step listed
  obtain ⟨eaten, passage⟩ := Situation.step_passage sound.valid done
  obtain ⟨visited, visits⟩ := Situation.step_visits sound.valid fit.position done
  have bare := Situation.step_notMem_food sound.valid fit done
  have eatenVisited : eaten ⊆ visited := by
    intro cell gone
    have grew := CellSet.mem_members.mp (passage.eaten_subset gone)
    have left : cell ∉ situation.ground.food := by
      rw [← CellSet.mem_members, passage.food]
      simp [gone]
    by_contra spared
    have apart : cell ≠ situation.forager.position := fun same => spared (same ▸ visits.ends)
    exact left ((visits.food cell apart).mpr ⟨grew, spared⟩)
  have counted : 0 < world.ground.count forager.position := by
    rw [sound.counts.count]
    exact List.countP_pos_iff.mpr ⟨forager, mem_called.mpr ⟨key, listed, found⟩, by simp⟩
  refine ⟨forager, situation.forager, eaten, world.put key situation, ?_⟩
  exact {
    acted := act_eq_ok_iff.mpr ⟨forager, situation, listed, found, done, rfl⟩
    taken := stepOne_of_step found done
    config := rfl
    source := rfl
    step := rfl
    countdown := rfl
    nextId := rfl
    live := rfl
    others := fun other apart => getElem?_records_put apart.symm
    before := found
    stepped := by simp [World.put]
    id := passage.id
    opcodes := passage.opcodes
    walls := passage.walls
    few := (Finset.card_le_card eatenVisited).trans visits.few
    within := eatenVisited.trans visits.within
    grown := passage.eaten_subset
    food := passage.food
    energy := passage.energy
    ends := visits.within visits.ends
    bare
    walkable := fun moved => by
      rw [← visits.walkable moved]
      simp only [World.put, Ground.isWalkable, visits.walls]
    count := passage.count counted
    stored := passage.tidy sound.counts.tidy }

/--
In every world that can be reached each of the living can take its step, which changes
nothing but itself, the food on at most two cells of its reach, and the count of the cells
it leaves and enters.
-/
theorem Reachable.step_changes_only_reach [SeededSource G] (reachable : world.Reachable)
    (listed : key ∈ world.live.toList) :
    ∃ rested tired eaten after, Footstep world key rested tired eaten after :=
  reachable.sound.exists_footstep listed

theorem step_changes_only_reach_company :
    company.Reachable ∧ 1 ∈ company.live.toList ∧
      ∃ rested tired eaten after, Footstep company 1 rested tired eaten after ∧
        rested.reach company.config = {⟨0, 0⟩, ⟨0, 1⟩, ⟨0, 2⟩} := by
  have listed : 1 ∈ company.live.toList := by decide +kernel
  obtain ⟨rested, tired, eaten, after, footstep⟩ :=
    Reachable.step_changes_only_reach reachable_company listed
  refine ⟨reachable_company, listed, rested, tired, eaten, after, footstep, ?_⟩
  have known : company.records[1]?.map (Forager.reach company.config) =
      some {⟨0, 0⟩, ⟨0, 1⟩, ⟨0, 2⟩} := by decide +kernel
  rw [footstep.before] at known
  exact Option.some.inj known

end World

end Forage
