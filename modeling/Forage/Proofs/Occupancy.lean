import Forage.Proofs.Sound

/-!
# Who stands where

The ground keeps a count of the foragers on each cell so that nobody has to be
looked for. In every world that can be reached, and at every point within a tick,
the count is what a look at all of the living would give.
-/

namespace Forage

namespace Config

/-- A cell beyond an axis whose ends are not joined. -/
def Beyond (config : Config) (cell : Cell) : Prop :=
  (config.columns.wraps = false ∧ ¬config.columns.Holds cell.x) ∨
    (config.rows.wraps = false ∧ ¬config.rows.Holds cell.y)

theorem normalize_of_beyond {config : Config} {cell : Cell} (beyond : config.Beyond cell) :
    config.normalize cell = none := by
  unfold normalize
  rcases beyond with ⟨closed, outside⟩ | ⟨closed, outside⟩
  · have column : config.columns.fold cell.x = none := by simp [Axis.fold, closed, outside]
    rw [column]
  · have row : config.rows.fold cell.y = none := by simp [Axis.fold, closed, outside]
    rw [row]
    cases config.columns.fold cell.x <;> rfl

end Config

namespace World

variable {G : Type} {world : World G}

/-- Where a forager of the records stands. -/
def whereabouts (world : World G) (key : Nat) : Option Cell :=
  world.records[key]?.map Forager.position

/-- The living on a cell, found by looking at all of them. -/
def scan (world : World G) (cell : Cell) : List Nat :=
  world.live.toList.filter fun key => world.whereabouts key = some cell

theorem mem_scan {cell : Cell} {key : Nat} :
    key ∈ world.scan cell ↔ key ∈ world.live.toList ∧ world.whereabouts key = some cell := by
  simp [scan]

/-- The count of the ground is what a look at all of the living gives. -/
structure Occupancy (world : World G) : Prop where
  /-- Every one of the living stands somewhere, and is listed once. -/
  placed : ∀ key ∈ world.live.toList, (world.whereabouts key).isSome
  once : world.live.toList.Nodup
  count : ∀ cell, world.ground.crowd.getD cell 0 = (world.scan cell).length
  stored : ∀ cell ∈ world.ground.crowd, 0 < world.ground.crowd.getD cell 0
  others : ∀ key ∈ world.live.toList, ∀ position, world.whereabouts key = some position →
    ∀ cell, world.ground.isOccupied world.config cell (some position) = true ↔
      ∃ goal, world.config.normalize cell = some goal ∧
        ∃ other ∈ world.live.toList, other ≠ key ∧ world.whereabouts other = some goal
  anyone : ∀ cell, world.ground.isOccupied world.config cell none = true ↔
    ∃ goal, world.config.normalize cell = some goal ∧
      ∃ key ∈ world.live.toList, world.whereabouts key = some goal
  beyond : ∀ cell, world.config.Beyond cell → ∀ exclude,
    world.ground.isOccupied world.config cell exclude = false

theorem headcount_called (records : Std.ExtTreeMap Nat Forager) (keys : List Nat) (cell : Cell) :
    headcount (called records keys) cell =
      (keys.filter fun key => records[key]?.map Forager.position = some cell).length := by
  induction keys with
  | nil => rfl
  | cons key keys inductionHypothesis =>
      cases found : records[key]? with
      | none =>
          simp only [called, List.filterMap_cons, List.filter_cons, found, Option.map_none,
            reduceCtorEq, decide_false, Bool.false_eq_true, if_false]
          exact inductionHypothesis
      | some forager =>
          rw [called_cons found, headcount_cons, inductionHypothesis]
          by_cases here : forager.position = cell <;> simp [found, here]

theorem headcount_foragers (world : World G) (cell : Cell) :
    headcount world.foragers cell = (world.scan cell).length :=
  headcount_called world.records world.live.toList cell

theorem length_erase_scan {key : Nat} {position cell : Cell}
    (listed : key ∈ world.live.toList) (stands : world.whereabouts key = some position) :
    ((world.scan cell).erase key).length =
      if some position = some cell then (world.scan cell).length - 1
      else (world.scan cell).length := by
  by_cases here : position = cell
  · have counted : key ∈ world.scan cell := mem_scan.mpr ⟨listed, here ▸ stands⟩
    rw [if_pos (congrArg some here), List.length_erase_of_mem counted]
  · have elsewhere : key ∉ world.scan cell := by
      intro counted
      have := (mem_scan.mp counted).2
      exact here (Option.some.inj (stands.symm.trans this))
    rw [if_neg (fun same => here (Option.some.inj same)), List.erase_of_not_mem elsewhere]

theorem isOccupied_eq {ground : Ground} {config : Config} {cell goal : Cell}
    (reached : config.normalize cell = some goal) (exclude : Option Cell) :
    ground.isOccupied config cell exclude =
      decide (0 < if exclude = some goal then ground.count goal - 1 else ground.count goal) := by
  simp [Ground.isOccupied, reached]

theorem isOccupied_of_nowhere {ground : Ground} {config : Config} {cell : Cell}
    (nowhere : config.normalize cell = none) (exclude : Option Cell) :
    ground.isOccupied config cell exclude = false := by
  simp [Ground.isOccupied, nowhere]

theorem Sound.scanned (sound : world.Sound) : world.Occupancy := by
  have count (cell : Cell) : world.ground.count cell = (world.scan cell).length := by
    rw [sound.counts.count, headcount_foragers]
  have once := sound.enrolled.nodup
  constructor
  · intro key listed
    obtain ⟨forager, found, -⟩ := sound.enrolled.known key listed
    simp [whereabouts, found]
  · exact once
  · exact count
  · exact sound.counts.tidy
  · intro key listed position stands cell
    cases reached : world.config.normalize cell with
    | none => simp [isOccupied_of_nowhere reached]
    | some goal =>
        rw [isOccupied_eq reached, count, ← length_erase_scan listed stands]
        have distinct : (world.scan goal).Nodup := once.filter _
        simp only [decide_eq_true_eq, List.length_pos_iff_exists_mem, distinct.mem_erase_iff,
          mem_scan, Option.some.injEq, exists_eq_left']
        constructor
        · rintro ⟨other, apart, live, there⟩
          exact ⟨other, live, apart, there⟩
        · rintro ⟨other, live, apart, there⟩
          exact ⟨other, apart, live, there⟩
  · intro cell
    cases reached : world.config.normalize cell with
    | none => simp [isOccupied_of_nowhere reached]
    | some goal =>
        simp only [isOccupied_eq reached, reduceCtorEq, if_false, count, decide_eq_true_eq,
          List.length_pos_iff_exists_mem, mem_scan, Option.some.injEq, exists_eq_left']
  · intro cell beyond exclude
    exact isOccupied_of_nowhere (Config.normalize_of_beyond beyond) exclude

theorem stepAll_append (first second : List Nat) {middle : World G}
    (done : stepAll first world = .ok () middle) :
    stepAll (first ++ second) world = stepAll second middle := by
  induction first generalizing world with
  | nil =>
      obtain ⟨-, rfl⟩ := EStateM.Result.ok.inj done
      rfl
  | cons key first inductionHypothesis =>
      simp only [stepAll, List.cons_append] at done ⊢
      cases taken : stepOne key world with
      | error fault world => simp [taken] at done
      | ok value world =>
          rw [taken] at done
          exact inductionHypothesis done

variable [SeededSource G]

/--
In a world that can be reached the count is right, and it stays so within its next
tick, wherever between two steps of its cohort one looks.
-/
theorem Reachable.occupancy (reachable : world.Reachable) :
    world.Occupancy ∧
      ∀ done left, world.live.toList = done ++ left → ∃ middle,
        stepAll done world.opened = .ok () middle ∧
        stepAll left middle = stepAll world.live.toList world.opened ∧
        middle.live = world.live ∧ middle.Occupancy := by
  have sound := reachable.sound
  refine ⟨sound.scanned, ?_⟩
  intro done left cut
  have live : world.opened.live = world.live := live_opened sound.valid
  have listed : done ⊆ world.opened.live.toList := by
    rw [live, cut]
    exact List.subset_append_left done left
  obtain ⟨middle, stepped, middleSound, middleLive⟩ := sound.opened.stepAll listed
  refine ⟨middle, stepped, ?_, middleLive.trans live, middleSound.scanned⟩
  rw [cut, stepAll_append done left stepped]

theorem occupancy_company :
    company.Reachable ∧ company.scan ⟨0, 0⟩ = [0, 1] ∧ company.Occupancy ∧
      ∃ middle, stepAll [0] company.opened = .ok () middle ∧ middle.Occupancy := by
  obtain ⟨now, within⟩ := Reachable.occupancy reachable_company
  obtain ⟨middle, stepped, -, -, still⟩ := within [0] [1] (by decide +kernel)
  exact ⟨reachable_company, by decide +kernel, now, middle, stepped, still⟩

end World

end Forage
