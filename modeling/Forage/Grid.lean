import Forage.Config

/-!
# The grid

An axis is a stretch of whole numbers that is closed at its ends or wraps round.
A cell off a wrapping axis is folded back onto it; a cell off a closed axis is
nowhere.
-/

namespace Forage

structure Axis where
  extent : Int
  wraps : Bool
deriving DecidableEq, Repr

namespace Axis

def Holds (axis : Axis) (value : Int) : Prop :=
  0 ≤ value ∧ value < axis.extent

instance (axis : Axis) (value : Int) : Decidable (axis.Holds value) :=
  inferInstanceAs (Decidable (_ ∧ _))

/-- The coordinate on the axis that a coordinate stands for. -/
def fold (axis : Axis) (value : Int) : Option Int :=
  if axis.Holds value then some value
  else if axis.wraps then some (value % axis.extent)
  else none

theorem fold_of_holds {axis : Axis} {value : Int} (h : axis.Holds value) :
    axis.fold value = some value := by
  simp [fold, h]

theorem holds_of_fold {axis : Axis} (positive : 0 < axis.extent) {value folded : Int}
    (h : axis.fold value = some folded) : axis.Holds folded := by
  unfold fold at h
  split at h
  · simp_all
  · split at h
    · obtain rfl := Option.some.inj h
      exact ⟨Int.emod_nonneg _ (by omega), Int.emod_lt_of_pos _ positive⟩
    · simp at h

end Axis

namespace Config

def columns (config : Config) : Axis := ⟨config.width, config.wrapX.truthy⟩

def rows (config : Config) : Axis := ⟨config.height, config.wrapY.truthy⟩

def InGrid (config : Config) (cell : Cell) : Prop :=
  config.columns.Holds cell.x ∧ config.rows.Holds cell.y

instance (config : Config) (cell : Cell) : Decidable (config.InGrid cell) :=
  inferInstanceAs (Decidable (_ ∧ _))

/-- The cell of the grid that a cell stands for. -/
def normalize (config : Config) (cell : Cell) : Option Cell :=
  match config.columns.fold cell.x, config.rows.fold cell.y with
  | some x, some y => some ⟨x, y⟩
  | _, _ => none

/-- The cell of the grid that a cell stands for; a cell off a closed axis is a fault. -/
def requireCell (config : Config) (cell : Cell) : Except Fault Cell :=
  match config.normalize cell with
  | some cell => .ok cell
  | none => .error (.offField cell)

theorem normalize_of_inGrid {config : Config} {cell : Cell} (h : config.InGrid cell) :
    config.normalize cell = some cell := by
  simp [normalize, Axis.fold_of_holds h.1, Axis.fold_of_holds h.2]

end Config

end Forage
