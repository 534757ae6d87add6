import Forage.Ground
import Mathlib.Data.Finset.Card
import Mathlib.Data.Finset.Option

/-!
# Cells of the grid

What a valid configuration says of the grid, sets of cells as finite sets, so that
what is added to one and taken from it can be counted, and what each change of a
ground does to its food and its walls.
-/

namespace Forage

namespace Axis

variable {axis : Axis} {value : Int}

theorem emod_extent (holds : axis.Holds value) : value % axis.extent = value :=
  Int.emod_eq_of_lt holds.1 holds.2

theorem fold_of_wraps (wraps : axis.wraps = true) (value : Int) :
    axis.fold value = some (value % axis.extent) := by
  by_cases holds : axis.Holds value
  · rw [fold_of_holds holds, emod_extent holds]
  · simp [fold, holds, wraps]

end Axis

namespace Config

variable {config : Config}

theorem Valid.admits (valid : config.Valid) (parameter : Parameter) :
    parameter.limits.Admits (config.get parameter) :=
  valid.1 parameter

theorem Valid.width_pos (valid : config.Valid) : 0 < config.width :=
  (valid.admits .width).1

theorem Valid.height_pos (valid : config.Valid) : 0 < config.height :=
  (valid.admits .height).1

theorem normalize_eq_some_iff {cell goal : Cell} :
    config.normalize cell = some goal ↔
      config.columns.fold cell.x = some goal.x ∧ config.rows.fold cell.y = some goal.y := by
  unfold normalize
  cases config.columns.fold cell.x <;> cases config.rows.fold cell.y <;> cases goal <;> simp

theorem Valid.inGrid_of_normalize (valid : config.Valid) {cell goal : Cell}
    (found : config.normalize cell = some goal) : config.InGrid goal := by
  obtain ⟨column, row⟩ := normalize_eq_some_iff.mp found
  exact ⟨Axis.holds_of_fold valid.width_pos column, Axis.holds_of_fold valid.height_pos row⟩

theorem requireCell_eq_ok_iff {cell goal : Cell} :
    config.requireCell cell = .ok goal ↔ config.normalize cell = some goal := by
  unfold requireCell
  cases config.normalize cell <;> simp

theorem requireCell_of_nowhere {cell : Cell} (nowhere : config.normalize cell = none) :
    config.requireCell cell = .error (.offField cell) := by
  simp [requireCell, nowhere]

end Config

namespace CellSet

/-- The cells of a set as a finite set. -/
def members (cells : CellSet) : Finset Cell :=
  cells.toList.toFinset

@[simp]
theorem mem_members {cells : CellSet} {cell : Cell} : cell ∈ members cells ↔ cell ∈ cells := by
  simp [members]

@[simp]
theorem members_insert (cells : CellSet) (cell : Cell) :
    members (cells.insert cell) = insert cell (members cells) := by
  ext other
  simp [@eq_comm _ other cell]

@[simp]
theorem members_erase (cells : CellSet) (cell : Cell) :
    members (cells.erase cell) = (members cells).erase cell := by
  ext other
  simp [@eq_comm _ other cell]

theorem card_members (cells : CellSet) : (members cells).card = cells.size := by
  have distinct : cells.toList.Nodup := by
    refine cells.distinct_toList.imp ?_
    rintro cell _ apart rfl
    exact apart Std.ReflOrd.compare_self
  rw [members, List.toFinset_card_of_nodup distinct, Std.ExtTreeSet.length_toList]

end CellSet

namespace Ground

variable {config : Config} {ground : Ground} {cell : Cell}

@[simp]
theorem mem_food_sow {other : Cell} :
    other ∈ (ground.sow cell).food ↔ other = cell ∨ other ∈ ground.food := by
  simp [sow, @eq_comm _ other cell]

@[simp]
theorem mem_walls_build {other : Cell} :
    other ∈ (ground.build cell).walls ↔ other = cell ∨ other ∈ ground.walls := by
  simp [build, @eq_comm _ other cell]

/-- The cell from which a harvest takes food, if it takes any. -/
def ripe (config : Config) (ground : Ground) (cell : Cell) : Option Cell :=
  (config.normalize cell).filter ground.food.contains

theorem mem_food_of_ripe {goal : Cell} (found : ground.ripe config cell = some goal) :
    goal ∈ ground.food := by
  simpa using (Option.filter_eq_some_iff.mp found).2

theorem harvest_eq (config : Config) (ground : Ground) (cell : Cell) :
    ground.harvest config cell =
      match ground.ripe config cell with
      | some goal => (true, { ground with food := ground.food.erase goal })
      | none => (false, ground) := by
  unfold harvest ripe
  cases config.normalize cell with
  | none => rfl
  | some goal => by_cases found : ground.food.contains goal <;> simp [Option.filter, found]

@[simp]
theorem crowd_harvest : (ground.harvest config cell).2.crowd = ground.crowd := by
  rw [harvest_eq]
  split <;> rfl

@[simp]
theorem walls_harvest : (ground.harvest config cell).2.walls = ground.walls := by
  rw [harvest_eq]
  split <;> rfl

theorem members_food_harvest :
    CellSet.members (ground.harvest config cell).2.food =
      CellSet.members ground.food \ (ground.ripe config cell).toFinset := by
  rw [harvest_eq]
  cases ground.ripe config cell with
  | none => simp
  | some goal => simp [Finset.sdiff_singleton_eq_erase]

@[simp]
theorem food_occupy : (ground.occupy cell).food = ground.food := rfl

@[simp]
theorem walls_occupy : (ground.occupy cell).walls = ground.walls := rfl

@[simp]
theorem food_vacate : (ground.vacate cell).food = ground.food := rfl

@[simp]
theorem walls_vacate : (ground.vacate cell).walls = ground.walls := rfl

end Ground

end Forage
