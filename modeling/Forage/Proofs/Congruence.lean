import Forage.Proofs.Foresight
import Mathlib.Data.Int.ModEq

/-!
# Congruent cells

Two coordinates are congruent on an axis if they differ by whole turns of it, which on an
axis with closed ends means that they do not differ. A cell stands for the one cell of the
grid that is congruent to it, and for none if it lies beyond a closed end; cells that stand
for the same cell cannot be told apart, neither by a question nor by a harvest.
-/

namespace Forage

namespace Axis

variable {axis : Axis} {value other folded : Int}

def Congruent (axis : Axis) (value other : Int) : Prop :=
  if axis.wraps then value ≡ other [ZMOD axis.extent] else value = other

theorem congruent_iff_of_wraps (wraps : axis.wraps = true) :
    axis.Congruent value other ↔ value ≡ other [ZMOD axis.extent] := by
  simp [Congruent, wraps]

theorem congruent_iff_of_closed (closed : axis.wraps = false) :
    axis.Congruent value other ↔ value = other := by
  simp [Congruent, closed]

theorem Congruent.add (congruent : axis.Congruent value other) (way : Int) :
    axis.Congruent (value + way) (other + way) := by
  cases wraps : axis.wraps with
  | true =>
      rw [congruent_iff_of_wraps wraps] at congruent ⊢
      exact congruent.add_right way
  | false =>
      rw [congruent_iff_of_closed wraps] at congruent ⊢
      rw [congruent]

theorem fold_congr (congruent : axis.Congruent value other) :
    axis.fold value = axis.fold other := by
  cases wraps : axis.wraps with
  | true =>
      rw [congruent_iff_of_wraps wraps] at congruent
      rw [fold_of_wraps wraps, fold_of_wraps wraps, congruent]
  | false => rw [(congruent_iff_of_closed wraps).mp congruent]

/-- What a coordinate is folded onto lies on the axis, whole turns away from it. -/
theorem fold_eq_some_iff (positive : 0 < axis.extent) :
    axis.fold value = some folded ↔ axis.Holds folded ∧ axis.Congruent folded value := by
  constructor
  · intro found
    refine ⟨holds_of_fold positive found, ?_⟩
    cases wraps : axis.wraps with
    | true =>
        rw [fold_of_wraps wraps, Option.some.injEq] at found
        rw [congruent_iff_of_wraps wraps, ← found]
        exact Int.mod_modEq value axis.extent
    | false =>
        rw [congruent_iff_of_closed wraps]
        by_cases holds : axis.Holds value
        · rw [fold_of_holds holds, Option.some.injEq] at found
          exact found.symm
        · simp [fold, holds, wraps] at found
  · rintro ⟨holds, congruent⟩
    rw [← fold_congr congruent, fold_of_holds holds]

end Axis

namespace Config

variable {config : Config} {cell other goal : Cell}

/-- Cells that differ by whole turns of the axes that wrap. -/
structure Congruent (config : Config) (cell other : Cell) : Prop where
  column : config.columns.Congruent cell.x other.x
  row : config.rows.Congruent cell.y other.y

theorem Congruent.add (congruent : config.Congruent cell other) (across down : Int) :
    config.Congruent ⟨cell.x + across, cell.y + down⟩ ⟨other.x + across, other.y + down⟩ where
  column := congruent.column.add across
  row := congruent.row.add down

theorem normalize_congr (congruent : config.Congruent cell other) :
    config.normalize cell = config.normalize other := by
  rw [normalize, normalize, Axis.fold_congr congruent.column, Axis.fold_congr congruent.row]

theorem normalize_eq_none_iff : config.normalize cell = none ↔ config.Beyond cell :=
  ⟨beyond_of_normalize, normalize_of_beyond⟩

theorem Valid.normalize_eq_some_iff (valid : config.Valid) :
    config.normalize cell = some goal ↔ config.InGrid goal ∧ config.Congruent goal cell := by
  rw [Config.normalize_eq_some_iff, Axis.fold_eq_some_iff valid.width_pos,
    Axis.fold_eq_some_iff valid.height_pos]
  constructor
  · rintro ⟨⟨inColumns, column⟩, inRows, row⟩
    exact ⟨⟨inColumns, inRows⟩, column, row⟩
  · rintro ⟨⟨inColumns, inRows⟩, column, row⟩
    exact ⟨⟨inColumns, column⟩, inRows, row⟩

/-- The cell of the grid that a cell stands for, if it stands for any. -/
structure Folds (config : Config) (cell : Cell) : Prop where
  nowhere : config.normalize cell = none ↔ config.Beyond cell
  somewhere : ¬config.Beyond cell →
    ∃! goal, config.InGrid goal ∧ config.Congruent goal cell
  folded : ∀ goal, config.normalize cell = some goal ↔
    config.InGrid goal ∧ config.Congruent goal cell
  again : ∀ goal, config.normalize cell = some goal → config.normalize goal = some goal

theorem Valid.folds (valid : config.Valid) (cell : Cell) : config.Folds cell where
  nowhere := normalize_eq_none_iff
  somewhere within := by
    obtain ⟨goal, found⟩ :=
      Option.ne_none_iff_exists'.mp fun nowhere => within (normalize_eq_none_iff.mp nowhere)
    refine ⟨goal, valid.normalize_eq_some_iff.mp found, ?_⟩
    intro other congruent
    exact Option.some.inj ((valid.normalize_eq_some_iff.mpr congruent).symm.trans found)
  folded _ := valid.normalize_eq_some_iff
  again _ found := normalize_of_inGrid (valid.inGrid_of_normalize found)

end Config

namespace Ground

variable {config : Config} {first second : Cell}

theorem holds_congr (same : config.normalize first = config.normalize second) (cells : CellSet) :
    holds config cells first = holds config cells second := by
  rw [holds, holds, same]

theorem isWalkable_congr (same : config.normalize first = config.normalize second)
    (ground : Ground) : ground.isWalkable config first = ground.isWalkable config second := by
  rw [isWalkable, isWalkable, same]

theorem isOccupied_congr (same : config.normalize first = config.normalize second)
    (ground : Ground) (exclude : Option Cell) :
    ground.isOccupied config first exclude = ground.isOccupied config second exclude := by
  rw [isOccupied, isOccupied, same]

theorem harvest_congr (same : config.normalize first = config.normalize second)
    (ground : Ground) : ground.harvest config first = ground.harvest config second := by
  rw [harvest, harvest, same]

end Ground

end Forage
