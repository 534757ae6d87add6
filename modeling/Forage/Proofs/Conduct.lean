import Forage.Proofs.Cells
import Forage.Proofs.Crowd
import Forage.Situation
import Mathlib.Tactic.Ring

/-!
# Conduct of a forager

Whatever a forager does, it does to itself, to the food it eats and to the count of
the cells it leaves and enters. One relation says so of every act; it is closed
under doing one thing after another, and each opcode, each step and each order
from outside obeys it.
-/

namespace Forage

namespace Tape

/-- The pointer stands on one of the opcodes. -/
def Fit (tape : Tape) : Prop :=
  0 ≤ tape.pointer ∧ tape.pointer < tape.length

theorem Fit.length_pos {tape : Tape} (fit : tape.Fit) : 0 < tape.length := by
  obtain ⟨low, high⟩ := fit
  omega

theorem fit_startingAt (opcodes : List Opcode) (place : Int) : (startingAt opcodes place).Fit := by
  have positive : 0 < (filled opcodes).length :=
    List.length_pos_iff.mpr (filled_ne_nil opcodes)
  exact ⟨Int.emod_nonneg _ (by omega), Int.emod_lt_of_pos _ (by omega)⟩

theorem Fit.advance {tape : Tape} (fit : tape.Fit) (skipped : Int) : (tape.advance skipped).Fit := by
  have positive := fit.length_pos
  exact ⟨Int.emod_nonneg _ (by omega), Int.emod_lt_of_pos _ (by omega)⟩

end Tape

/-- The forager stands on the grid and has an opcode to run. -/
structure Forager.Fit (config : Config) (forager : Forager) : Prop where
  position : config.InGrid forager.position
  tape : forager.tape.Fit

namespace Situation

/--
How one situation passes into another: the forager eats the food of some cells and
pays a cost, and the ground counts it where it stands in the end.
-/
structure Passage (config : Config) (before after : Situation) (eaten : Finset Cell) (cost : Int) :
    Prop where
  id : after.forager.id = before.forager.id
  opcodes : after.forager.tape.opcodes = before.forager.tape.opcodes
  fit : before.forager.Fit config → after.forager.Fit config
  energy :
    after.forager.energy = before.forager.energy + config.energyPerFood * eaten.card - cost
  walls : after.ground.walls = before.ground.walls
  eaten_subset : eaten ⊆ CellSet.members before.ground.food
  food : CellSet.members after.ground.food = CellSet.members before.ground.food \ eaten
  tidy : before.ground.Tidy → after.ground.Tidy
  /-- A forager that is counted where it stands is counted where it comes to stand. -/
  count : 0 < before.ground.count before.forager.position → ∀ cell,
    after.ground.count cell + (if before.forager.position = cell then 1 else 0) =
      before.ground.count cell + if after.forager.position = cell then 1 else 0

variable {config : Config} {before middle after situation : Situation}

namespace Passage

theorem refl (situation : Situation) : Passage config situation situation ∅ 0 where
  id := rfl
  opcodes := rfl
  fit := fun fit => fit
  energy := by simp
  walls := rfl
  eaten_subset := Finset.empty_subset _
  food := by simp
  tidy := fun tidy => tidy
  count _ _ := rfl

theorem trans {first second : Finset Cell} {firstCost secondCost : Int}
    (left : Passage config before middle first firstCost)
    (right : Passage config middle after second secondCost) :
    Passage config before after (first ∪ second) (firstCost + secondCost) where
  id := right.id.trans left.id
  opcodes := right.opcodes.trans left.opcodes
  fit := right.fit ∘ left.fit
  energy := by
    have disjoint : Disjoint first second := by
      refine Disjoint.mono_right (right.eaten_subset.trans left.food.le) ?_
      exact Finset.disjoint_sdiff
    rw [right.energy, left.energy, Finset.card_union_of_disjoint disjoint]
    push_cast
    ring
  walls := right.walls.trans left.walls
  eaten_subset := by
    refine Finset.union_subset left.eaten_subset (right.eaten_subset.trans ?_)
    rw [left.food]
    exact Finset.sdiff_subset
  food := by rw [right.food, left.food, sdiff_sdiff_left, Finset.sup_eq_union]
  tidy := right.tidy ∘ left.tidy
  count := by
    intro counted cell
    have leftCount := left.count counted
    have stillCounted : 0 < middle.ground.count middle.forager.position := by
      have := leftCount middle.forager.position
      split at this
      · simp_all
      · simp only [if_true] at this
        omega
    have := leftCount cell
    have := right.count stillCounted cell
    omega

theorem of_turn (situation : Situation) {how : Forager → Forager}
    (id : (how situation.forager).id = situation.forager.id)
    (opcodes : (how situation.forager).tape.opcodes = situation.forager.tape.opcodes)
    (tape : situation.forager.tape.Fit → (how situation.forager).tape.Fit)
    (position : (how situation.forager).position = situation.forager.position) (cost : Int)
    (energy : (how situation.forager).energy = situation.forager.energy - cost) :
    Passage config situation (situation.turn how) ∅ cost where
  id := id
  opcodes := opcodes
  fit fit := ⟨by simpa [turn, position] using fit.position, tape fit.tape⟩
  energy := by simp [turn, energy]
  walls := rfl
  eaten_subset := Finset.empty_subset _
  food := by simp [turn]
  tidy := fun tidy => tidy
  count _ cell := by simp [turn, position]

end Passage

theorem eat_passage (situation : Situation) (cell : Cell) :
    Passage config situation (situation.eat config cell)
      (situation.ground.ripe config cell).toFinset 0 where
  id := rfl
  opcodes := rfl
  fit fit := ⟨fit.position, fit.tape⟩
  energy := by
    rw [eat, Ground.harvest_eq]
    cases situation.ground.ripe config cell <;> simp
  walls := Ground.walls_harvest
  eaten_subset := by
    intro goal found
    rw [Option.mem_toFinset] at found
    exact CellSet.mem_members.mpr (Ground.mem_food_of_ripe found)
  food := Ground.members_food_harvest
  tidy tidy := tidy.of_crowd Ground.crowd_harvest
  count _ other := congrArg (· + _) (Ground.count_of_crowd Ground.crowd_harvest other)

theorem settle_passage (situation : Situation) {goal : Cell} (inGrid : config.InGrid goal) :
    Passage config situation (situation.settle goal) ∅ 0 where
  id := rfl
  opcodes := rfl
  fit fit := ⟨inGrid, fit.tape⟩
  energy := by simp [settle]
  walls := rfl
  eaten_subset := Finset.empty_subset _
  food := by simp [settle]
  tidy tidy := (tidy.vacate _).occupy _
  count counted cell := by
    change ((situation.ground.vacate situation.forager.position).occupy goal).count cell + _ =
      _ + if goal = cell then 1 else 0
    rw [Ground.count_occupy, Ground.count_vacate]
    by_cases left : situation.forager.position = cell
    · subst left
      simp only [if_true]
      omega
    · simp [left]

theorem move_passage (valid : config.Valid) (situation : Situation) :
    ∃ eaten, Passage config situation (situation.move config).2 eaten 0 := by
  unfold move
  cases reached : situation.ahead config with
  | none => exact ⟨∅, .refl situation⟩
  | some goal =>
      by_cases clear : situation.ground.isWalkable config goal
      · have inGrid : config.InGrid goal := valid.inGrid_of_normalize reached
        simp only [clear, if_true]
        exact ⟨_, (eat_passage situation goal).trans (settle_passage _ inGrid)⟩
      · simp only [clear]
        exact ⟨∅, .refl situation⟩

theorem perform_passage (valid : config.Valid) (opcode : Opcode) (situation : Situation) :
    ∃ eaten, Passage config situation (situation.perform config opcode).2 eaten 0 := by
  cases opcode with
  | doubleMove =>
      obtain ⟨first, left⟩ := move_passage valid situation
      obtain ⟨second, right⟩ := move_passage valid (situation.move config).2
      exact ⟨first ∪ second, left.trans right⟩
  | move => exact move_passage valid situation
  | left => exact ⟨∅, .of_turn situation rfl rfl (fun fit => fit) rfl 0 (Int.sub_zero _).symm⟩
  | right => exact ⟨∅, .of_turn situation rfl rfl (fun fit => fit) rfl 0 (Int.sub_zero _).symm⟩
  | ifEntity | ifFood | ifWall | skip | skip2 | sleep => exact ⟨∅, .refl situation⟩

theorem execute_passage (valid : config.Valid) {opcode : Opcode}
    (done : situation.execute config = .ok (opcode, after)) :
    ∃ eaten, Passage config situation after eaten 0 := by
  unfold execute at done
  cases current : situation.forager.tape.current? with
  | none => simp [current] at done
  | some opcode =>
      simp only [current, Except.ok.injEq, Prod.mk.injEq] at done
      obtain ⟨-, rfl⟩ := done
      obtain ⟨eaten, performed⟩ := perform_passage valid opcode situation
      exact ⟨eaten ∪ ∅, performed.trans
        (.of_turn _ rfl rfl (fun fit => fit.advance _) rfl 0 (Int.sub_zero _).symm)⟩

theorem execute_eq_ok (config : Config) (fit : situation.forager.tape.Fit) :
    ∃ opcode after, situation.execute config = .ok (opcode, after) := by
  obtain ⟨opcode, current⟩ := Tape.current?_eq_some fit.1 fit.2
  exact ⟨opcode, _, by simp [execute, current]; rfl⟩

theorem notMem_food_eat (situation : Situation) {cell : Cell} (inGrid : config.InGrid cell) :
    cell ∉ (situation.eat config cell).ground.food := by
  intro stillThere
  have remaining : cell ∈ CellSet.members (situation.ground.harvest config cell).2.food :=
    CellSet.mem_members.mpr stillThere
  rw [Ground.members_food_harvest, Finset.mem_sdiff, CellSet.mem_members] at remaining
  apply remaining.2
  simp [Ground.ripe, Config.normalize_of_inGrid inGrid, Option.filter, remaining.1]

theorem pay_passage (situation : Situation) :
    Passage config situation (situation.pay config) ∅ config.energyPerStep :=
  .of_turn situation rfl rfl (fun fit => fit) rfl _ rfl

theorem step_eq_ok_iff :
    situation.step config = .ok after ↔
      ∃ opcode middle, situation.execute config = .ok (opcode, middle) ∧
        after = (middle.eat config middle.forager.position).pay config := by
  unfold step
  cases situation.execute config with
  | error fault => simp [bind, Except.bind]
  | ok done => simp [bind, Except.bind, pure, Except.pure, eq_comm, Prod.ext_iff]

theorem step_passage (valid : config.Valid) (done : situation.step config = .ok after) :
    ∃ eaten, Passage config situation after eaten config.energyPerStep := by
  obtain ⟨opcode, middle, executed, rfl⟩ := step_eq_ok_iff.mp done
  obtain ⟨eaten, acted⟩ := execute_passage valid executed
  have fed := acted.trans (eat_passage middle middle.forager.position)
  have paid := fed.trans (pay_passage _)
  rw [Int.add_zero, Int.zero_add] at paid
  exact ⟨_, paid⟩

theorem step_eq_ok (config : Config) (fit : situation.forager.tape.Fit) :
    ∃ after, situation.step config = .ok after := by
  obtain ⟨opcode, middle, executed⟩ := execute_eq_ok config fit
  exact ⟨_, step_eq_ok_iff.mpr ⟨opcode, middle, executed, rfl⟩⟩

theorem step_notMem_food (valid : config.Valid) (fit : situation.forager.Fit config)
    (done : situation.step config = .ok after) : after.forager.position ∉ after.ground.food := by
  obtain ⟨opcode, middle, executed, rfl⟩ := step_eq_ok_iff.mp done
  obtain ⟨eaten, acted⟩ := execute_passage valid executed
  exact notMem_food_eat middle (acted.fit fit).position

theorem relocate_passage (valid : config.Valid) {cell : Cell}
    (done : situation.relocate config cell = .ok after) :
    Passage config situation after ∅ 0 := by
  unfold relocate at done
  cases required : config.requireCell cell with
  | error fault => simp [required, bind, Except.bind] at done
  | ok goal =>
      simp only [required, bind, Except.bind, pure, Except.pure, Except.ok.injEq] at done
      subst done
      have reached := Config.requireCell_eq_ok_iff.mp required
      exact settle_passage situation (valid.inGrid_of_normalize reached)

end Situation

end Forage
