import Forage.Proofs.Congruence
import Mathlib.Data.Finset.Union
import Mathlib.Order.Bounds.Basic
import Mathlib.Order.Interval.Finset.Nat

/-!
# Rays

Seen from a cell, a ray is what lies one, two, three and more cells ahead; on axes that wrap
it comes round again. A forager that goes on and on walks along its ray up to the first wall
or to the end of the grid, eats what lies on the cells it passes, each of them once however
often it comes round, and stays where it can go no further.
-/

namespace Forage

namespace Config

variable {config : Config} {heading : Heading} {cell goal : Cell}

/-- The cell so many cells ahead in a heading, if the grid has one there. -/
def ray (config : Config) (heading : Heading) (cell : Cell) (distance : Nat) : Option Cell :=
  config.normalize ⟨cell.x + distance * heading.dx, cell.y + distance * heading.dy⟩

theorem ray_zero (inGrid : config.InGrid cell) : config.ray heading cell 0 = some cell := by
  simp [ray, normalize_of_inGrid inGrid]

theorem ray_one : config.ray heading cell 1 = config.next heading cell := by
  simp [ray, next, Heading.ahead]

theorem Valid.ray_of_next (valid : config.Valid) (found : config.next heading cell = some goal)
    (distance : Nat) :
    config.ray heading goal distance = config.ray heading cell (distance + 1) := by
  obtain ⟨-, congruent⟩ := valid.normalize_eq_some_iff.mp found
  have further := congruent.add (distance * heading.dx) (distance * heading.dy)
  calc config.ray heading goal distance
      = config.normalize ⟨cell.x + heading.dx + distance * heading.dx,
          cell.y + heading.dy + distance * heading.dy⟩ := normalize_congr further
    _ = config.ray heading cell (distance + 1) := by
      unfold ray
      congr 2
      · push_cast
        ring
      · push_cast
        ring

/-- The cells of a ray up to some distance, without the one it begins at. -/
def trail (config : Config) (heading : Heading) (cell : Cell) (distance : Nat) : Finset Cell :=
  (Finset.Icc 1 distance).biUnion fun way => (config.ray heading cell way).toFinset

theorem mem_trail {distance : Nat} {other : Cell} :
    other ∈ config.trail heading cell distance ↔
      ∃ way, 1 ≤ way ∧ way ≤ distance ∧ config.ray heading cell way = some other := by
  simp [trail, and_assoc]

theorem trail_zero : config.trail heading cell 0 = ∅ := by
  simp [trail]

theorem Valid.trail_of_next (valid : config.Valid) (found : config.next heading cell = some goal)
    (distance : Nat) :
    config.trail heading cell (distance + 1) =
      insert goal (config.trail heading goal distance) := by
  ext other
  rw [Finset.mem_insert, mem_trail, mem_trail]
  constructor
  · rintro ⟨way, positive, near, reached⟩
    cases way with
    | zero => omega
    | succ way =>
        rcases Nat.eq_zero_or_pos way with rfl | further
        · rw [ray_one, found, Option.some.injEq] at reached
          exact .inl reached.symm
        · rw [← valid.ray_of_next found] at reached
          exact .inr ⟨way, further, by omega, reached⟩
  · rintro (rfl | ⟨way, -, near, reached⟩)
    · exact ⟨1, le_rfl, by omega, ray_one.trans found⟩
    · rw [valid.ray_of_next found] at reached
      exact ⟨way + 1, by omega, by omega, reached⟩

end Config

/-- What is eaten on the first cell is not there to be eaten when the ray comes round to it. -/
theorem card_inter_insert (food others : Finset Cell) (goal : Cell) :
    (food ∩ insert goal others).card =
      (if goal ∈ food then 1 else 0) + (food.erase goal ∩ others).card := by
  have parted : food ∩ insert goal others = food ∩ {goal} ∪ food.erase goal ∩ others := by
    ext cell
    by_cases here : cell = goal <;> simp [here]
  have apart : Disjoint (food ∩ {goal}) (food.erase goal ∩ others) := by
    rw [Finset.disjoint_left]
    intro cell here elsewhere
    simp only [Finset.mem_inter, Finset.mem_singleton, Finset.mem_erase] at here elsewhere
    exact elsewhere.1.1 here.2
  rw [parted, Finset.card_union_of_disjoint apart]
  by_cases found : goal ∈ food <;> simp [found]

namespace Situation

variable {config : Config} {situation : Situation} {goal : Cell} {count distance : Nat}

/-- Goes ahead so many times, and says of each time whether the way was clear. -/
def moves (config : Config) : Nat → Situation → List Bool × Situation
  | 0, situation => ([], situation)
  | count + 1, situation =>
      let (moved, situation) := situation.move config
      let (later, situation) := moves config count situation
      (moved :: later, situation)

/-- So many cells ahead there is a cell, and no wall on it. -/
def Open (config : Config) (situation : Situation) (distance : Nat) : Prop :=
  ∃ cell, config.ray situation.forager.heading situation.forager.position distance = some cell ∧
    cell ∉ situation.ground.walls

/-- The distances within a count up to which all of the ray is open. -/
def within (config : Config) (situation : Situation) (count : Nat) : Set Nat :=
  {distance | distance ≤ count ∧
    ∀ way, 1 ≤ way → way ≤ distance → situation.Open config way}

theorem open_one_iff (valid : config.Valid) :
    situation.Open config 1 ↔ ∃ goal, situation.Clear config goal := by
  unfold Open Clear
  rw [Config.ray_one, ahead_eq]
  apply exists_congr
  intro goal
  apply and_congr_right
  intro found
  rw [Ground.isWalkable_iff (valid.inGrid_of_next found)]

theorem open_of_clear (valid : config.Valid) (clear : situation.Clear config goal)
    (distance : Nat) :
    (situation.enter config goal).Open config distance ↔ situation.Open config (distance + 1) := by
  unfold Open
  rw [walls_enter, ← valid.ray_of_next clear.1 distance]
  rfl

/-- What comes of going ahead so many times, if the way is clear up to a distance and no further. -/
structure Strides (config : Config) (situation : Situation) (count distance : Nat) : Prop where
  greatest : IsGreatest (situation.within config count) distance
  results : (situation.moves config count).1 =
    List.replicate distance true ++ List.replicate (count - distance) false
  position : config.ray situation.forager.heading situation.forager.position distance =
    some (situation.moves config count).2.forager.position
  heading : (situation.moves config count).2.forager.heading = situation.forager.heading
  tape : (situation.moves config count).2.forager.tape = situation.forager.tape
  food : CellSet.members (situation.moves config count).2.ground.food =
    CellSet.members situation.ground.food \
      config.trail situation.forager.heading situation.forager.position distance
  energy : (situation.moves config count).2.forager.energy =
    situation.forager.energy + config.energyPerFood *
      (CellSet.members situation.ground.food ∩
        config.trail situation.forager.heading situation.forager.position distance).card

theorem moves_of_blocked (blocked : ∀ goal, ¬situation.Clear config goal) (count : Nat) :
    situation.moves config count = (List.replicate count false, situation) := by
  induction count with
  | zero => rfl
  | succ count inductionHypothesis =>
      rw [moves, move_of_blocked blocked]
      simp only [inductionHypothesis, List.replicate_succ]

theorem moves_of_clear (clear : situation.Clear config goal) (count : Nat) :
    situation.moves config (count + 1) =
      (true :: ((situation.enter config goal).moves config count).1,
        ((situation.enter config goal).moves config count).2) := by
  rw [moves, move_of_clear clear]

/-- A forager that stays where it is has come as far as its ray is open if that is nowhere. -/
theorem strides_of_still (inGrid : config.InGrid situation.forager.position)
    (still : situation.moves config count = (List.replicate count false, situation))
    (nowhere : ∀ distance ∈ situation.within config count, distance ≤ 0) :
    Strides config situation count 0 where
  greatest := ⟨⟨Nat.zero_le count, fun way positive near => by omega⟩, nowhere⟩
  results := by simp [still]
  position := by rw [still, Config.ray_zero inGrid]
  heading := by rw [still]
  tape := by rw [still]
  food := by rw [still, Config.trail_zero, Finset.sdiff_empty]
  energy := by simp [still, Config.trail_zero]

theorem strides_of_blocked (valid : config.Valid)
    (inGrid : config.InGrid situation.forager.position)
    (blocked : ∀ goal, ¬situation.Clear config goal) (count : Nat) :
    Strides config situation count 0 := by
  apply strides_of_still inGrid (moves_of_blocked blocked count)
  rintro distance ⟨-, isOpen⟩
  by_contra further
  obtain ⟨goal, clear⟩ := (open_one_iff valid).mp (isOpen 1 le_rfl (by omega))
  exact blocked goal clear

theorem mem_within_succ_iff (valid : config.Valid) (clear : situation.Clear config goal) :
    distance + 1 ∈ situation.within config (count + 1) ↔
      distance ∈ (situation.enter config goal).within config count := by
  constructor
  · rintro ⟨near, isOpen⟩
    refine ⟨Nat.le_of_succ_le_succ near, fun way positive nearer => ?_⟩
    rw [open_of_clear valid clear]
    exact isOpen (way + 1) (by omega) (by omega)
  · rintro ⟨near, isOpen⟩
    refine ⟨Nat.succ_le_succ near, fun way positive nearer => ?_⟩
    cases way with
    | zero => omega
    | succ way =>
        rcases Nat.eq_zero_or_pos way with rfl | further
        · exact (open_one_iff valid).mpr ⟨goal, clear⟩
        · rw [← open_of_clear valid clear]
          exact isOpen way further (by omega)

theorem strides_of_clear (valid : config.Valid) (clear : situation.Clear config goal)
    (later : Strides config (situation.enter config goal) count distance) :
    Strides config situation (count + 1) (distance + 1) where
  greatest := by
    constructor
    · exact (mem_within_succ_iff valid clear).mpr later.greatest.1
    · rintro (_ | way) within
      · exact Nat.zero_le _
      · exact Nat.succ_le_succ (later.greatest.2 ((mem_within_succ_iff valid clear).mp within))
  results := by
    rw [moves_of_clear clear, later.results, Nat.add_sub_add_right, List.replicate_succ,
      List.cons_append]
  position := by
    rw [moves_of_clear clear, ← later.position, ← valid.ray_of_next clear.1, heading_enter,
      position_enter]
  heading := by rw [moves_of_clear clear, later.heading, heading_enter]
  tape := by rw [moves_of_clear clear, later.tape, tape_enter]
  food := by
    rw [moves_of_clear clear, later.food, members_food_enter situation (clear.inGrid valid),
      valid.trail_of_next clear.1, heading_enter, position_enter, Finset.sdiff_insert,
      Finset.erase_sdiff_comm]
  energy := by
    rw [moves_of_clear clear, later.energy, energy_enter situation (clear.inGrid valid),
      members_food_enter situation (clear.inGrid valid), valid.trail_of_next clear.1,
      heading_enter, position_enter, card_inter_insert]
    simp only [Std.ExtTreeSet.contains_iff_mem, CellSet.mem_members]
    split <;>
      · push_cast
        ring

/-- A forager that goes ahead so many times walks its ray as far as that is open. -/
theorem exists_strides (valid : config.Valid) (situation : Situation)
    (inGrid : config.InGrid situation.forager.position) (count : Nat) :
    ∃ distance, Strides config situation count distance := by
  induction count generalizing situation with
  | zero => exact ⟨0, strides_of_still inGrid rfl fun distance within => within.1⟩
  | succ count inductionHypothesis =>
      rcases clear_or_blocked config situation with ⟨goal, clear⟩ | blocked
      · have inGridThere : config.InGrid (situation.enter config goal).forager.position :=
          clear.inGrid valid
        obtain ⟨distance, later⟩ := inductionHypothesis _ inGridThere
        exact ⟨distance + 1, strides_of_clear valid clear later⟩
      · exact ⟨0, strides_of_blocked valid inGrid blocked _⟩

theorem moves_succ (config : Config) (count : Nat) (situation : Situation) :
    (situation.moves config (count + 1)).2 =
      ((situation.move config).2.moves config count).2 := rfl

theorem moves_passage (valid : config.Valid) (count : Nat) (situation : Situation) :
    ∃ eaten, Passage config situation (situation.moves config count).2 eaten 0 := by
  induction count generalizing situation with
  | zero => exact ⟨∅, .refl situation⟩
  | succ count inductionHypothesis =>
      obtain ⟨first, moved⟩ := move_passage valid situation
      obtain ⟨later, others⟩ := inductionHypothesis (situation.move config).2
      exact ⟨first ∪ later, moved.trans others⟩

theorem moves_add (config : Config) (first second : Nat) (situation : Situation) :
    (situation.moves config (first + second)).2 =
      ((situation.moves config first).2.moves config second).2 := by
  induction first generalizing situation with
  | zero => rw [Nat.zero_add, moves]
  | succ first inductionHypothesis =>
      rw [Nat.succ_add, moves_succ, moves_succ, inductionHypothesis]

/-- How many cells an opcode would take a forager ahead. -/
def paces : Opcode → Nat
  | .move => 1
  | .doubleMove => 2
  | _ => 0

/-- What comes of opcodes that are performed one after the other. -/
def performAll (config : Config) (opcodes : List Opcode) (situation : Situation) : Situation :=
  opcodes.foldl (fun situation opcode => (situation.perform config opcode).2) situation

theorem perform_eq_moves {opcode : Opcode} (ahead : opcode = .move ∨ opcode = .doubleMove)
    (situation : Situation) :
    (situation.perform config opcode).2 = (situation.moves config (paces opcode)).2 := by
  rcases ahead with rfl | rfl <;> rfl

/-- However moves are put together from opcodes, it only matters how many they are. -/
theorem performAll_eq_moves {opcodes : List Opcode}
    (ahead : ∀ opcode ∈ opcodes, opcode = .move ∨ opcode = .doubleMove) (situation : Situation) :
    situation.performAll config opcodes =
      (situation.moves config (opcodes.map paces).sum).2 := by
  induction opcodes generalizing situation with
  | nil => rfl
  | cons opcode opcodes inductionHypothesis =>
      obtain ⟨here, later⟩ := List.forall_mem_cons.mp ahead
      rw [List.map_cons, List.sum_cons, moves_add, ← perform_eq_moves here]
      exact inductionHypothesis later _

end Situation

namespace World

variable {G : Type} {world : World G} {key : Nat} {forager : Forager}

/-- One of the living stands on the grid, and the ground counts it there. -/
structure Stands (world : World G) (key : Nat) (forager : Forager) : Prop where
  valid : world.config.Valid
  listed : key ∈ world.live.toList
  found : world.records[key]? = some forager
  inGrid : world.config.InGrid forager.position
  counted : 0 < world.ground.count forager.position
  tidy : world.ground.Tidy

theorem Sound.stands (sound : world.Sound) (listed : key ∈ world.live.toList) :
    ∃ forager, world.Stands key forager := by
  obtain ⟨forager, found, -⟩ := sound.enrolled.known key listed
  have member : forager ∈ world.foragers := by
    rw [foragers_eq_called]
    exact mem_called.mpr ⟨key, listed, found⟩
  refine ⟨forager, sound.valid, listed, found, (sound.fit forager member).position, ?_,
    sound.counts.tidy⟩
  rw [sound.counts.count]
  exact List.countP_pos_iff.mpr ⟨forager, member, by simp⟩

theorem foldl_act_move [SeededSource G] (listed : key ∈ world.live.toList)
    (found : world.records[key]? = some forager) (count : Nat) :
    (List.replicate count (Deed.act key .move)).foldl perform world =
      world.put key (Situation.moves world.config count ⟨world.ground, forager⟩).2 := by
  induction count generalizing world forager with
  | zero => exact (put_self found).symm
  | succ count inductionHypothesis =>
      obtain ⟨moved, once⟩ :
          ∃ moved, (Situation.move world.config ⟨world.ground, forager⟩).2 = moved := ⟨_, rfl⟩
      have acted : world.act key .move = .ok (world.put key moved) :=
        act_eq_ok_iff.mpr ⟨forager, moved, listed, found, congrArg Except.ok once, rfl⟩
      have first : world.perform (.act key .move) = world.put key moved := by
        simp only [perform, acted, changed]
      have foundThen : (world.put key moved).records[key]? = some moved.forager :=
        Std.ExtTreeMap.getElem?_insert_self
      have others := @inductionHypothesis (world.put key moved) moved.forager listed foundThen
      rw [List.replicate_succ, List.foldl_cons, first, others, put_put,
        Situation.moves_succ, once]
      rfl

/-- A forager has gone ahead so many times, by whatever opcodes or orders. -/
structure Walk [SeededSource G] (world : World G) (key : Nat) (forager : Forager)
    (count distance : Nat) : Prop where
  strides : Situation.Strides world.config ⟨world.ground, forager⟩ count distance
  walls : (Situation.moves world.config count ⟨world.ground, forager⟩).2.ground.walls =
    world.ground.walls
  /-- Apart from where it stood and where it stands, nobody is counted otherwise than before. -/
  crowd : ∀ cell, cell ≠ forager.position →
    world.config.ray forager.heading forager.position distance ≠ some cell →
      (Situation.moves world.config count ⟨world.ground, forager⟩).2.ground.crowd[cell]? =
        world.ground.crowd[cell]?
  ordered : (List.replicate count (Deed.act key .move)).foldl perform world =
    world.put key (Situation.moves world.config count ⟨world.ground, forager⟩).2
  mixed : ∀ opcodes : List Opcode, (∀ opcode ∈ opcodes, opcode = .move ∨ opcode = .doubleMove) →
    (opcodes.map Situation.paces).sum = count →
      Situation.performAll world.config opcodes ⟨world.ground, forager⟩ =
        (Situation.moves world.config count ⟨world.ground, forager⟩).2

/--
However a forager is made to go ahead so many times, it walks its ray as far as that is open
within so many cells, and nobody else is counted otherwise for it.
-/
theorem Stands.ray_exact [SeededSource G] (stands : world.Stands key forager) (count : Nat) :
    ∃ distance, world.Walk key forager count distance := by
  obtain ⟨distance, strides⟩ :=
    Situation.exists_strides stands.valid ⟨world.ground, forager⟩ stands.inGrid count
  obtain ⟨eaten, passage⟩ :=
    Situation.moves_passage stands.valid count ⟨world.ground, forager⟩
  refine ⟨distance, {
    strides
    walls := passage.walls
    crowd := ?_
    ordered := foldl_act_move stands.listed stands.found count
    mixed := ?_ }⟩
  · -- A cell in between is entered and left again, so only the whole passage tells its count.
    intro cell left notEntered
    have apart : (Situation.moves world.config count
        ⟨world.ground, forager⟩).2.forager.position ≠ cell := by
      rintro rfl
      exact notEntered strides.position
    have counts := passage.count stands.counted cell
    rw [if_neg left.symm, if_neg apart] at counts
    exact stands.tidy.crowd_eq_of_count (passage.tidy stands.tidy) counts
  · rintro opcodes ahead rfl
    exact Situation.performAll_eq_moves ahead _

theorem ray_exact_company :
    ∃ forager, company.Stands 1 forager ∧ ∃ distance, company.Walk 1 forager 150 distance := by
  have listed : 1 ∈ company.live.toList := by decide +kernel
  obtain ⟨forager, stands⟩ := reachable_company.sound.stands listed
  exact ⟨forager, stands, stands.ray_exact 150⟩

end World

end Forage
