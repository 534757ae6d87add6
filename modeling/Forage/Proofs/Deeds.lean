import Forage.Proofs.Cells
import Forage.Proofs.Fallible
import Forage.Proofs.History

/-!
# What comes of deeds

A deed that may fail either leaves a world as it was or makes one change to it. When it
succeeds, and what the change is, is told here once for each kind of deed; whatever is said
of deeds elsewhere is said of these changes.
-/

namespace Forage

namespace World

variable {G : Type} {world after : World G} {cell : Cell}

theorem place_eq_ok_iff {heading : Heading} {tape : Tape} {energy : Option Int} :
    world.place cell heading tape energy = .ok after ↔
      ∃ position, world.config.normalize cell = some position ∧
        world.letIn {
          id := Forager.outsider
          energy := energy.getD world.config.initialEnergy
          position
          heading
          tape } = after := by
  simp only [place, add, bind_eq_ok_iff, pure_eq_ok_iff, Config.requireCell_eq_ok_iff]

theorem addFood_eq_ok_iff :
    world.addFood cell = .ok after ↔
      ∃ goal, world.config.normalize cell = some goal ∧
        { world with ground := world.ground.sow goal } = after := by
  simp only [addFood, bind_eq_ok_iff, pure_eq_ok_iff, Config.requireCell_eq_ok_iff]

theorem addWall_eq_ok_iff :
    world.addWall cell = .ok after ↔
      ∃ goal, world.config.normalize cell = some goal ∧
        { world with ground := world.ground.build goal } = after := by
  simp only [addWall, bind_eq_ok_iff, pure_eq_ok_iff, Config.requireCell_eq_ok_iff]

theorem update_eq_ok_iff {changes : List (String × Datum)} :
    world.update changes = .ok after ↔
      (changes.any fun change => change.1 == ownName) = false ∧
        ∃ tuned, world.config.update changes = .ok tuned ∧
          { world with config := tuned } = after := by
  unfold update
  cases named : changes.any fun change => change.1 == ownName with
  | true => simp [bind, Except.bind, throw, throwThe, MonadExceptOf.throw]
  | false =>
      simp only [true_and]
      exact bind_eq_ok_iff.trans (by simp only [pure_eq_ok_iff])

theorem act_eq_ok_iff {key : Nat} {action : Action} :
    world.act key action = .ok after ↔
      ∃ forager situation, key ∈ world.live.toList ∧ world.records[key]? = some forager ∧
        action.perform world.config ⟨world.ground, forager⟩ = .ok situation ∧
        world.put key situation = after := by
  unfold act
  by_cases listed : key ∈ world.live.toList
  · cases found : world.records[key]? with
    | none => simp [listed]
    | some forager => simp [listed, map_eq_ok_iff]
  · simp [listed]

/-- What holds of a world, and of what becomes of it if a change succeeds, holds after the change. -/
theorem changed_keeps {Holds : World G → Prop} {result : Except Fault (World G)}
    (holds : Holds world) (kept : ∀ after, result = .ok after → Holds after) :
    Holds (world.changed result) := by
  cases result with
  | ok after => exact kept after rfl
  | error fault => exact holds

end World

end Forage
