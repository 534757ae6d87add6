import Forage.Proofs.Cells
import Forage.World.Tick

/-!
# Sowing and walling

Cells that are drawn lie on the grid. Sowing therefore adds food on the grid and
nothing else, walling adds walls, and the growth at the start of a tick is such a
sowing.
-/

namespace Forage

variable {G : Type} [WordSource G]

theorem Config.Valid.inGrid_drawCell {config : Config} (valid : config.Valid) (source : G) :
    config.InGrid (config.drawCell source).1 := by
  have width := valid.width_pos
  have height := valid.height_pos
  have column := Draw.below_lt (n := config.width.toNat) (by omega) source
  have row := Draw.below_lt (n := config.height.toNat) (by omega)
    (Draw.below config.width.toNat source).2
  simp only [InGrid, Axis.Holds, columns, rows, drawCell]
  omega

namespace World

variable {world : World G}

theorem config_sow (count : Nat) (world : World G) : (world.sow count).config = world.config := by
  induction count generalizing world with
  | zero => rfl
  | succ count inductionHypothesis =>
      unfold sow
      rw [inductionHypothesis]

theorem config_wall (count : Nat) (world : World G) : (world.wall count).config = world.config := by
  induction count generalizing world with
  | zero => rfl
  | succ count inductionHypothesis =>
      unfold wall
      rw [inductionHypothesis]

theorem sow_eq (valid : world.config.Valid) (count : Nat) :
    ∃ food source,
      world.sow count = { world with ground := { world.ground with food }, source } ∧
      CellSet.members world.ground.food ⊆ CellSet.members food ∧
      ∀ cell ∈ food, cell ∈ world.ground.food ∨ world.config.InGrid cell := by
  induction count generalizing world with
  | zero => exact ⟨_, _, rfl, Finset.Subset.refl _, fun _ member => .inl member⟩
  | succ count inductionHypothesis =>
      let sown : World G :=
        { world with
          ground := world.ground.sow (world.config.drawCell world.source).1
          source := (world.config.drawCell world.source).2 }
      have drawn := valid.inGrid_drawCell world.source
      obtain ⟨food, source, result, more, inside⟩ := @inductionHypothesis sown valid
      refine ⟨food, source, result, ?_, ?_⟩
      · refine Finset.Subset.trans ?_ more
        simp [sown, Ground.sow]
      · intro cell member
        rcases inside cell member with before | inGrid
        · rcases Ground.mem_food_sow.mp before with rfl | before
          · exact .inr drawn
          · exact .inl before
        · exact .inr inGrid

theorem wall_eq (valid : world.config.Valid) (count : Nat) :
    ∃ walls source,
      world.wall count = { world with ground := { world.ground with walls }, source } ∧
      ∀ cell ∈ walls, cell ∈ world.ground.walls ∨ world.config.InGrid cell := by
  induction count generalizing world with
  | zero => exact ⟨_, _, rfl, fun _ member => .inl member⟩
  | succ count inductionHypothesis =>
      let walled : World G :=
        { world with
          ground := world.ground.build (world.config.drawCell world.source).1
          source := (world.config.drawCell world.source).2 }
      have drawn := valid.inGrid_drawCell world.source
      obtain ⟨walls, source, result, inside⟩ := @inductionHypothesis walled valid
      refine ⟨walls, source, result, ?_⟩
      intro cell member
      rcases inside cell member with before | inGrid
      · rcases Ground.mem_walls_build.mp before with rfl | before
        · exact .inr drawn
        · exact .inl before
      · exact .inr inGrid

/-- The first foragers of a world are let onto a ground with food and walls on it, and nobody yet. -/
theorem exists_stock_eq {config : Config} (valid : config.Valid) (source : G) :
    ∃ food walls rest, stock (World.empty config source) =
      populate config.initialPopulation.toNat
        { World.empty config source with
          ground := { Ground.bare with food, walls }
          source := rest } := by
  obtain ⟨food, middle, sowed, -⟩ :=
    @sow_eq _ _ (World.empty config source) valid (config.share config.initialFoodPercent)
  have still : (sow (config.share config.initialFoodPercent)
      (World.empty config source)).config.Valid := by rwa [config_sow]
  obtain ⟨walls, rest, walled, -⟩ := wall_eq still (config.share config.initialWallPercent)
  refine ⟨food, walls, rest, ?_⟩
  rw [stock, show (World.empty config source).config = config from rfl, walled, sowed]
  rfl

/-- The world when its cohort begins to step: the tick is counted and food has grown. -/
def opened (world : World G) : World G :=
  ({ world with step := world.step + 1 } : World G).regrow

theorem opened_of_due (due : world.countdown = 0) :
    world.opened =
      { ({ world with step := world.step + 1 } : World G).sow world.config.regrowthRate.toNat with
        countdown := regrowthCadence } := by
  simp [opened, regrow, due]

theorem opened_of_waiting {left : Nat} (waiting : world.countdown = left + 1) :
    world.opened = { world with step := world.step + 1, countdown := left } := by
  simp [opened, regrow, waiting]

/-- What has changed in a world when its cohort begins to step. -/
structure Opened (world : World G) (food : CellSet) (source : G) (countdown : Nat) : Prop where
  eq : world.opened =
    { world with
      ground := { world.ground with food }
      source
      countdown
      step := world.step + 1 }
  more : CellSet.members world.ground.food ⊆ CellSet.members food
  inside : ∀ cell ∈ food, cell ∈ world.ground.food ∨ world.config.InGrid cell
  closed : world.config.regrowthRate = 0 → food = world.ground.food

theorem exists_opened (valid : world.config.Valid) :
    ∃ food source countdown, Opened world food source countdown := by
  cases counted : world.countdown with
  | zero =>
      obtain ⟨food, source, result, more, inside⟩ :=
        @sow_eq _ _ { world with step := world.step + 1 } valid world.config.regrowthRate.toNat
      refine ⟨food, source, regrowthCadence, ?_, more, inside, ?_⟩
      · rw [opened_of_due counted, result]
      · intro none
        rw [none] at result
        exact (congrArg (fun world => world.ground.food) result).symm
  | succ left =>
      refine ⟨world.ground.food, world.source, left, ?_, Finset.Subset.refl _, ?_, fun _ => rfl⟩
      · exact opened_of_waiting counted
      · exact fun _ member => .inl member

theorem config_opened (valid : world.config.Valid) : world.opened.config = world.config := by
  obtain ⟨food, source, countdown, opened⟩ := exists_opened valid
  rw [opened.eq]

theorem step_opened (valid : world.config.Valid) : world.opened.step = world.step + 1 := by
  obtain ⟨food, source, countdown, opened⟩ := exists_opened valid
  rw [opened.eq]

theorem live_opened (valid : world.config.Valid) : world.opened.live = world.live := by
  obtain ⟨food, source, countdown, opened⟩ := exists_opened valid
  rw [opened.eq]

theorem records_opened (valid : world.config.Valid) : world.opened.records = world.records := by
  obtain ⟨food, source, countdown, opened⟩ := exists_opened valid
  rw [opened.eq]

theorem foragers_opened (valid : world.config.Valid) :
    world.opened.foragers = world.foragers := by
  obtain ⟨food, source, countdown, opened⟩ := exists_opened valid
  rw [opened.eq]
  rfl

end World

end Forage
