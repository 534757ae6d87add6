import Forage.Proofs.Occupancy
import Forage.Proofs.Reach
import Forage.Proofs.Succession

/-!
# What the sensors foresee

Three opcodes look at the cell ahead and do nothing else. What they find is what would
come of going there: whether the way is clear, whether there is something to eat, and whom
the forager would meet.
-/

namespace Forage

/-- The opcodes that look ahead. -/
def Opcode.sensors : List Opcode :=
  [.ifEntity, .ifFood, .ifWall]

theorem Config.beyond_of_normalize {config : Config} {cell : Cell}
    (nowhere : config.normalize cell = none) : config.Beyond cell := by
  have closed {axis : Axis} {value : Int} (off : axis.fold value = none) :
      axis.wraps = false ∧ ¬axis.Holds value := by
    unfold Axis.fold at off
    split at off
    · simp at off
    · split at off <;> simp_all
  unfold normalize at nowhere
  cases column : config.columns.fold cell.x with
  | none => exact .inl (closed column)
  | some x =>
      cases row : config.rows.fold cell.y with
      | none => exact .inr (closed row)
      | some y => simp [column, row] at nowhere

namespace Situation

variable {config : Config} {situation : Situation} {goal : Cell} {beyond : Nat}
  {asked : Cell → Bool}

/-- How many opcodes are to be skipped when an opcode has been run. -/
def reading (config : Config) (opcode : Opcode) (situation : Situation) : Nat :=
  (situation.perform config opcode).1

theorem sense_of_ahead (reached : situation.ahead config = some goal) :
    situation.sense config beyond asked = if asked goal then 1 else 0 := by
  simp [sense, reached]

theorem sense_of_nowhere (nowhere : situation.ahead config = none) :
    situation.sense config beyond asked = beyond := by
  simp [sense, nowhere]

theorem perform_sensor {opcode : Opcode} (sensor : opcode ∈ Opcode.sensors) :
    (situation.perform config opcode).2 = situation := by
  simp only [Opcode.sensors, List.mem_cons, List.not_mem_nil, or_false] at sensor
  rcases sensor with rfl | rfl | rfl <;> rfl

theorem reading_sensor_le {opcode : Opcode} (sensor : opcode ∈ Opcode.sensors) :
    situation.reading config opcode ≤ 1 := by
  simp only [Opcode.sensors, List.mem_cons, List.not_mem_nil, or_false] at sensor
  rcases sensor with rfl | rfl | rfl
  · exact sense_le_one (Nat.zero_le 1) _ situation
  · exact sense_le_one (Nat.zero_le 1) _ situation
  · exact sense_le_one (Nat.le_refl 1) _ situation

theorem sense_eq_one_iff :
    situation.sense config 0 asked = 1 ↔
      ∃ goal, situation.ahead config = some goal ∧ asked goal = true := by
  cases reached : situation.ahead config with
  | none => simp [sense_of_nowhere reached]
  | some goal => simp [sense_of_ahead reached]

theorem reading_ifWall_eq_one_iff :
    situation.reading config .ifWall = 1 ↔ ∀ goal, ¬situation.Clear config goal := by
  unfold reading perform Clear
  cases reached : situation.ahead config with
  | none => simp [sense_of_nowhere reached]
  | some goal => simp [sense_of_ahead reached]

theorem reading_ifWall_eq_zero_iff :
    situation.reading config .ifWall = 0 ↔ ∃ goal, situation.Clear config goal := by
  have few : situation.reading config .ifWall ≤ 1 := reading_sensor_le (by decide)
  rw [← not_forall_not, ← reading_ifWall_eq_one_iff]
  omega

theorem reading_ifFood_eq_one_iff (valid : config.Valid) :
    situation.reading config .ifFood = 1 ↔
      ∃ goal, situation.ahead config = some goal ∧ goal ∈ situation.ground.food := by
  refine sense_eq_one_iff.trans (exists_congr fun goal => and_congr_right fun reached => ?_)
  have inGrid : config.InGrid goal := valid.inGrid_of_normalize reached
  simp [Ground.isFood, Ground.holds, Config.normalize_of_inGrid inGrid]

theorem reading_ifEntity_eq_one_iff :
    situation.reading config .ifEntity = 1 ↔
      ∃ goal, situation.ahead config = some goal ∧
        situation.ground.isOccupied config goal (some situation.forager.position) = true :=
  sense_eq_one_iff

theorem move_fst_eq_false_iff :
    (situation.move config).1 = false ↔ ∀ goal, ¬situation.Clear config goal := by
  rcases clear_or_blocked config situation with ⟨goal, clear⟩ | blocked
  · rw [move_of_clear clear]
    simpa using ⟨goal, clear⟩
  · simpa [move_of_blocked blocked] using blocked

theorem energy_enter (situation : Situation) (inGrid : config.InGrid goal) :
    (situation.enter config goal).forager.energy =
      situation.forager.energy +
        if situation.ground.food.contains goal then config.energyPerFood else 0 := by
  simp only [enter, settle, eat, Ground.harvest_of_inGrid _ inGrid]

theorem members_food_enter (situation : Situation) (inGrid : config.InGrid goal) :
    CellSet.members (situation.enter config goal).ground.food =
      (CellSet.members situation.ground.food).erase goal := by
  ext cell
  rw [CellSet.mem_members, mem_food_enter inGrid, Finset.mem_erase, CellSet.mem_members, and_comm]

/-- A move meets with food: it succeeds, takes the food off one cell, and is paid for it. -/
def Feeds (config : Config) (situation : Situation) : Prop :=
  (situation.move config).1 = true ∧
    ∃ cell ∈ situation.ground.food,
      CellSet.members (situation.move config).2.ground.food =
          (CellSet.members situation.ground.food).erase cell ∧
        (situation.move config).2.forager.energy =
          situation.forager.energy + config.energyPerFood

theorem feeds_iff (valid : config.Valid) :
    situation.Feeds config ↔
      ∃ goal, situation.Clear config goal ∧ goal ∈ situation.ground.food := by
  constructor
  · rintro ⟨moved, cell, grew, eaten, -⟩
    rcases clear_or_blocked config situation with ⟨goal, clear⟩ | blocked
    · refine ⟨goal, clear, ?_⟩
      rw [move_of_clear clear, members_food_enter situation (clear.inGrid valid)] at eaten
      by_contra bare
      have gone : cell ∉ (CellSet.members situation.ground.food).erase goal := by
        rw [eaten]
        exact Finset.notMem_erase cell _
      rw [Finset.erase_eq_of_notMem (CellSet.mem_members.not.mpr bare)] at gone
      exact gone (CellSet.mem_members.mpr grew)
    · simp [move_of_blocked blocked] at moved
  · rintro ⟨goal, clear, grew⟩
    have inGrid := clear.inGrid valid
    have contains : situation.ground.food.contains goal = true :=
      Std.ExtTreeSet.contains_iff_mem.mpr grew
    rw [Feeds, move_of_clear clear]
    refine ⟨rfl, goal, grew, members_food_enter situation inGrid, ?_⟩
    rw [energy_enter situation inGrid, contains, if_pos rfl]

theorem reading_ifFood_and_ifWall_iff (valid : config.Valid) :
    situation.reading config .ifFood = 1 ∧ situation.reading config .ifWall = 0 ↔
      situation.Feeds config := by
  rw [reading_ifFood_eq_one_iff valid, reading_ifWall_eq_zero_iff, feeds_iff valid]
  constructor
  · rintro ⟨⟨goal, reached, grew⟩, other, clear⟩
    obtain rfl : other = goal := Option.some.inj (clear.1.symm.trans reached)
    exact ⟨other, clear, grew⟩
  · rintro ⟨goal, clear, grew⟩
    exact ⟨⟨goal, clear.1, grew⟩, goal, clear⟩

/-- A move towards a cell without food changes neither the food nor the energy of the forager. -/
theorem move_of_reading_ifFood (valid : config.Valid)
    (none : situation.reading config .ifFood = 0) :
    (situation.move config).2.ground.food = situation.ground.food ∧
      (situation.move config).2.forager.energy = situation.forager.energy := by
  rcases clear_or_blocked config situation with ⟨goal, clear⟩ | blocked
  · have inGrid := clear.inGrid valid
    have bare : goal ∉ situation.ground.food := by
      intro grew
      rw [(reading_ifFood_eq_one_iff valid).mpr ⟨goal, clear.1, grew⟩] at none
      exact Nat.one_ne_zero none
    rw [move_of_clear clear]
    constructor
    · apply Std.ExtTreeSet.ext_mem
      intro cell
      rw [mem_food_enter inGrid, and_iff_left_iff_imp]
      rintro grew rfl
      exact bare grew
    · rw [energy_enter situation inGrid, if_neg (Std.ExtTreeSet.contains_iff_mem.not.mpr bare)]
      exact Int.add_zero _
  · rw [move_of_blocked blocked]
    exact ⟨rfl, rfl⟩

theorem obstacle_of_blocked (valid : config.Valid)
    (blocked : ∀ goal, ¬situation.Clear config goal) :
    (∃ wall ∈ situation.ground.walls, situation.ahead config = some wall) ∨
      config.Beyond (situation.forager.heading.ahead situation.forager.position) := by
  cases reached : situation.ahead config with
  | none => exact .inr (Config.beyond_of_normalize reached)
  | some goal =>
      have inGrid : config.InGrid goal := valid.inGrid_of_normalize reached
      refine .inl ⟨goal, ?_, rfl⟩
      by_contra passable
      exact blocked goal ⟨reached, (Ground.isWalkable_iff inGrid).mpr passable⟩

end Situation

namespace World

variable {G : Type} {world : World G} {key : Nat}

theorem put_self {forager : Forager} (found : world.records[key]? = some forager) :
    world.put key ⟨world.ground, forager⟩ = world := by
  have same : world.records.insert key forager = world.records := by
    apply Std.ExtTreeMap.ext_getElem?
    intro other
    by_cases here : key = other
    · subst here
      simp [found]
    · simp [Std.ExtTreeMap.getElem?_insert, here]
  simp [put, same]

theorem put_put (world : World G) (key : Nat) (first second : Situation) :
    (world.put key first).put key second = world.put key second := by
  have same : (world.records.insert key first.forager).insert key second.forager =
      world.records.insert key second.forager := by
    apply Std.ExtTreeMap.ext_getElem?
    intro other
    by_cases here : key = other <;> simp [Std.ExtTreeMap.getElem?_insert, here]
  simp [put, same]

/-- One of the living other than a forager stands on a cell. -/
def Meets (world : World G) (key : Nat) (cell : Cell) : Prop :=
  ∃ other ∈ world.live.toList, other ≠ key ∧ world.whereabouts other = some cell

/-- What the sensors of a forager find is what a move of it would come to. -/
structure Foresight (world : World G) (key : Nat) (situation : Situation) : Prop where
  /-- A sensor leaves the world and the forager as they are, and skips one opcode or none. -/
  untouched : ∀ opcode ∈ Opcode.sensors,
    world.put key (situation.perform world.config opcode).2 = world
  twofold : ∀ opcode ∈ Opcode.sensors, situation.reading world.config opcode ≤ 1
  moves : world.act key .move = .ok (world.put key (situation.move world.config).2)
  wall : situation.reading world.config .ifWall = 1 ↔ (situation.move world.config).1 = false
  stopped : (situation.move world.config).1 = false →
    world.put key (situation.move world.config).2 = world
  food : situation.reading world.config .ifFood = 1 ∧ situation.reading world.config .ifWall = 0 ↔
    situation.Feeds world.config
  hungry : situation.reading world.config .ifFood = 0 →
    (situation.move world.config).2.ground.food = world.ground.food ∧
      (situation.move world.config).2.forager.energy = situation.forager.energy
  /-- Where the way is clear, the forager would meet whoever stands on the cell it comes to. -/
  company : (situation.move world.config).1 = true →
    (situation.reading world.config .ifEntity = 1 ↔
      world.Meets key (situation.move world.config).2.forager.position)
  /-- Where it is not, there is a wall, which somebody else may stand on, or no cell at all. -/
  obstacle : (situation.move world.config).1 = false →
    (∃ wall ∈ world.ground.walls, situation.ahead world.config = some wall) ∨
      world.config.Beyond (situation.forager.heading.ahead situation.forager.position)
  walled : ∀ wall ∈ world.ground.walls, situation.ahead world.config = some wall →
    (situation.reading world.config .ifEntity = 1 ↔ world.Meets key wall)
  beyond : world.config.Beyond (situation.forager.heading.ahead situation.forager.position) →
    situation.reading world.config .ifWall = 1 ∧ situation.reading world.config .ifFood = 0 ∧
      situation.reading world.config .ifEntity = 0

/-- What a forager finds on the cell ahead is what a look at all of the living would find. -/
theorem Sound.reading_ifEntity_iff (sound : world.Sound) {forager : Forager}
    (listed : key ∈ world.live.toList) (found : world.records[key]? = some forager)
    {goal : Cell} (reached : world.config.next forager.heading forager.position = some goal) :
    Situation.reading world.config .ifEntity ⟨world.ground, forager⟩ = 1 ↔
      world.Meets key goal := by
  have stands : world.whereabouts key = some forager.position := by
    simp [whereabouts, found]
  have inGrid := sound.valid.inGrid_of_next reached
  rw [Situation.reading_ifEntity_eq_one_iff, Situation.ahead_eq]
  simp only [reached, Option.some.injEq, exists_eq_left']
  rw [sound.scanned.others key listed _ stands, Config.normalize_of_inGrid inGrid]
  simp only [Option.some.injEq, exists_eq_left', Meets]

theorem Sound.exists_foresight (sound : world.Sound) (listed : key ∈ world.live.toList) :
    ∃ forager, world.records[key]? = some forager ∧
      Foresight world key ⟨world.ground, forager⟩ := by
  obtain ⟨forager, found, -⟩ := sound.enrolled.known key listed
  refine ⟨forager, found, ?_⟩
  generalize here : (⟨world.ground, forager⟩ : Situation) = situation
  have valid := sound.valid
  have nowhere (beyond : world.config.Beyond
      (situation.forager.heading.ahead situation.forager.position)) :
      situation.ahead world.config = none :=
    Config.normalize_of_beyond beyond
  have still : world.put key situation = world := here ▸ put_self found
  have entity {goal : Cell} (reached : situation.ahead world.config = some goal) :
      situation.reading world.config .ifEntity = 1 ↔ world.Meets key goal := by
    subst here
    exact sound.reading_ifEntity_iff listed found reached
  exact {
    untouched := fun opcode sensor => by rw [Situation.perform_sensor sensor, still]
    twofold := fun opcode sensor => Situation.reading_sensor_le sensor
    moves := by
      subst here
      exact act_eq_ok_iff.mpr ⟨forager, _, listed, found, rfl, rfl⟩
    wall := by rw [Situation.reading_ifWall_eq_one_iff, Situation.move_fst_eq_false_iff]
    stopped := fun refused => by
      rw [Situation.move_of_blocked (Situation.move_fst_eq_false_iff.mp refused), still]
    food := Situation.reading_ifFood_and_ifWall_iff valid
    hungry := fun none => by
      subst here
      exact Situation.move_of_reading_ifFood valid none
    company := fun moved => by
      obtain ⟨goal, clear⟩ | blocked := Situation.clear_or_blocked world.config situation
      · rw [Situation.move_of_clear clear]
        exact entity clear.1
      · rw [Situation.move_of_blocked blocked] at moved
        exact absurd moved Bool.false_ne_true
    obstacle := fun refused => by
      subst here
      exact Situation.obstacle_of_blocked valid (Situation.move_fst_eq_false_iff.mp refused)
    walled := fun wall _ reached => entity reached
    beyond := fun beyond =>
      have off := nowhere beyond
      ⟨Situation.sense_of_nowhere off, Situation.sense_of_nowhere off,
        Situation.sense_of_nowhere off⟩ }

/--
In every world that can be reached the sensors of the living agree with what going ahead
would come to.
-/
theorem Reachable.foresight [SeededSource G] (reachable : world.Reachable)
    (listed : key ∈ world.live.toList) :
    ∃ forager, world.records[key]? = some forager ∧
      Foresight world key ⟨world.ground, forager⟩ :=
  reachable.sound.exists_foresight listed

theorem foresight_company :
    company.Reachable ∧ 1 ∈ company.live.toList ∧
      ∃ forager, company.records[1]? = some forager ∧
        Foresight company 1 ⟨company.ground, forager⟩ ∧
        Situation.Feeds company.config ⟨company.ground, forager⟩ := by
  have listed : 1 ∈ company.live.toList := by decide +kernel
  obtain ⟨forager, found, foresight⟩ := Reachable.foresight reachable_company listed
  have readings : company.records[1]?.map (fun forager =>
      (Situation.reading company.config .ifFood ⟨company.ground, forager⟩,
        Situation.reading company.config .ifWall ⟨company.ground, forager⟩)) = some (1, 0) := by
    decide +kernel
  simp only [found, Option.map_some, Option.some.injEq, Prod.mk.injEq] at readings
  exact ⟨reachable_company, listed, forager, found, foresight, foresight.food.mp readings⟩

end World

end Forage
