import Forage.Proofs.Motion
import Forage.Proofs.Occupancy
import Forage.Proofs.Unfailing
import Mathlib.Data.Int.Interval
import Mathlib.Data.Finite.Prod

/-!
# Symmetries of the grid

No cell of the grid and no heading is special. A world that is shifted along axes that wrap,
or turned by a quarter where columns and rows are alike, takes its steps as it would have
taken them where it was, and is then where it would have come to, shifted or turned.
-/

namespace Forage

namespace Axis

variable {axis : Axis} {offset value other : Int}

/-- The coordinate some way on from another, round the axis. -/
def shift (axis : Axis) (offset value : Int) : Int :=
  (value + offset) % axis.extent

/-- The coordinate that is as far from the far end as another is from the near end. -/
def mirror (axis : Axis) (value : Int) : Int :=
  axis.extent - 1 - value

theorem holds_shift (positive : 0 < axis.extent) (offset value : Int) :
    axis.Holds (axis.shift offset value) :=
  ⟨Int.emod_nonneg _ (by omega), Int.emod_lt_of_pos _ positive⟩

theorem shift_injective (holds : axis.Holds value) (otherHolds : axis.Holds other)
    (same : axis.shift offset value = axis.shift offset other) : value = other := by
  have congruent : value % axis.extent = other % axis.extent :=
    Int.emod_add_cancel_right offset |>.mp same
  rwa [emod_extent holds, emod_extent otherHolds] at congruent

theorem fold_shift (positive : 0 < axis.extent) (free : axis.wraps = true ∨ offset = 0)
    (holds : axis.Holds value) (way : Int) :
    axis.fold (axis.shift offset value + way) =
      (axis.fold (value + way)).map (axis.shift offset) := by
  rcases free with wraps | rfl
  · rw [fold_of_wraps wraps, fold_of_wraps wraps, Option.map_some, shift, shift,
      Int.emod_add_emod, Int.emod_add_emod, Int.add_right_comm]
  · have fixed {place : Int} (holds : axis.Holds place) : axis.shift 0 place = place := by
      rw [shift, Int.add_zero, emod_extent holds]
    rw [fixed holds]
    cases folded : axis.fold (value + way) with
    | none => rfl
    | some place => rw [Option.map_some, fixed (holds_of_fold positive folded)]

theorem holds_mirror_iff : axis.Holds (axis.mirror value) ↔ axis.Holds value := by
  unfold Holds mirror
  omega

theorem fold_mirror (axis : Axis) (positive : 0 < axis.extent) (value : Int) :
    axis.fold (axis.mirror value) = (axis.fold value).map axis.mirror := by
  have emod_mirror : axis.mirror value % axis.extent = axis.mirror (value % axis.extent) := by
    have holds := holds_mirror_iff.mpr (holds_shift positive 0 value)
    rw [shift, Int.add_zero] at holds
    rw [← emod_extent holds, mirror, mirror, Int.sub_emod_emod]
  unfold fold
  by_cases holds : axis.Holds value
  · simp [holds_mirror_iff, holds]
  · cases axis.wraps <;> simp [holds_mirror_iff, holds, emod_mirror]

end Axis

namespace Config

variable {config : Config}

/-- The cells of the grid. -/
def grid (config : Config) : Set Cell :=
  {cell | config.InGrid cell}

theorem finite_grid (config : Config) : config.grid.Finite := by
  have places := (Set.finite_Ico 0 config.width).image2 Cell.mk (Set.finite_Ico 0 config.height)
  refine places.subset ?_
  rintro ⟨x, y⟩ ⟨column, row⟩
  exact ⟨x, column, y, row, rfl⟩

end Config

namespace Motion

variable {config : Config} {motion : Motion}

/-- Moves every cell some columns and rows on, round the axes. -/
def shift (config : Config) (columns rows : Int) : Motion where
  cell cell := ⟨config.columns.shift columns cell.x, config.rows.shift rows cell.y⟩
  heading := id

/-- Turns the grid clockwise, so that its first row becomes its last column. -/
def quarterTurn (config : Config) : Motion where
  cell cell := ⟨config.columns.mirror cell.y, cell.x⟩
  heading := Heading.turnRight

theorem faithful_shift (valid : config.Valid) {columns rows : Int}
    (freeColumns : config.columns.wraps = true ∨ columns = 0)
    (freeRows : config.rows.wraps = true ∨ rows = 0) :
    Faithful config config.grid (shift config columns rows) where
  inGrid _ member := member
  lands _ _ := ⟨Axis.holds_shift valid.width_pos _ _, Axis.holds_shift valid.height_pos _ _⟩
  injective := by
    rintro ⟨x, y⟩ ⟨column, row⟩ ⟨otherX, otherY⟩ ⟨otherColumn, otherRow⟩ same
    obtain ⟨sameX, sameY⟩ := Cell.mk.inj same
    obtain rfl := Axis.shift_injective column otherColumn sameX
    obtain rfl := Axis.shift_injective row otherRow sameY
    rfl
  next := by
    rintro ⟨x, y⟩ ⟨column, row⟩ heading
    simp only [Config.next, Config.normalize, shift, Heading.ahead, id,
      Axis.fold_shift valid.width_pos freeColumns column,
      Axis.fold_shift valid.height_pos freeRows row]
    cases config.columns.fold (x + heading.dx) <;> cases config.rows.fold (y + heading.dy) <;> rfl
  turnLeft _ := rfl
  turnRight _ := rfl

theorem faithful_quarterTurn (valid : config.Valid) (square : config.columns = config.rows) :
    Faithful config config.grid (quarterTurn config) where
  inGrid _ member := member
  lands _ member :=
    ⟨Axis.holds_mirror_iff.mpr (square ▸ member.2), square ▸ member.1⟩
  injective := by
    rintro ⟨x, y⟩ - ⟨otherX, otherY⟩ - same
    obtain ⟨mirrored, rfl⟩ := Cell.mk.inj same
    have : y = otherY := by
      simp only [Axis.mirror] at mirrored
      omega
    rw [this]
  next := by
    rintro ⟨x, y⟩ - heading
    have column : config.columns.mirror y + heading.turnRight.dx =
        config.columns.mirror (y + heading.dy) := by
      cases heading <;> simp [Heading.turnRight, Heading.dx, Heading.dy, Axis.mirror] <;> omega
    have row : x + heading.turnRight.dy = x + heading.dx := by
      cases heading <;> rfl
    have turned := config.columns.fold_mirror valid.width_pos (y + heading.dy)
    simp only [Config.next, Config.normalize, quarterTurn, Heading.ahead, column, row, turned,
      ← square]
    cases config.columns.fold (x + heading.dx) <;>
      cases config.columns.fold (y + heading.dy) <;> rfl
  turnLeft heading := by cases heading <;> rfl
  turnRight _ := rfl

/-- Since the grid is finite, what keeps its cells apart leaves none of them out. -/
theorem Faithful.exists_origin (faithful : motion.Faithful config config.grid) {cell : Cell}
    (inGrid : config.InGrid cell) : ∃ origin, config.InGrid origin ∧ motion.cell origin = cell := by
  have onto := (config.finite_grid.injOn_iff_bijOn_of_mapsTo faithful.lands).mp faithful.injective
  exact onto.surjOn inGrid

end Motion

namespace CellSet

variable {cells : CellSet} {motion : Motion} {cell : Cell}

/-- A set of cells that is carried along. -/
def carried (motion : Motion) (cells : CellSet) : CellSet :=
  .ofList (cells.toList.map motion.cell)

theorem mem_carried :
    cell ∈ cells.carried motion ↔ ∃ origin ∈ cells, motion.cell origin = cell := by
  simp [carried, Std.ExtTreeSet.mem_ofList]

theorem mem_carried_iff {region : Set Cell} (injective : Set.InjOn motion.cell region)
    (within : ∀ cell ∈ cells, cell ∈ region) (member : cell ∈ region) :
    motion.cell cell ∈ cells.carried motion ↔ cell ∈ cells := by
  rw [mem_carried]
  constructor
  · rintro ⟨origin, listed, same⟩
    exact injective (within origin listed) member same ▸ listed
  · exact fun listed => ⟨cell, listed, rfl⟩

end CellSet

namespace Ground

variable {config : Config} {motion : Motion} {ground copy other : Ground}

/-- All that a ground has lies on the grid. -/
structure Within (config : Config) (ground : Ground) : Prop where
  food : ∀ cell ∈ ground.food, config.InGrid cell
  walls : ∀ cell ∈ ground.walls, config.InGrid cell
  crowd : ∀ cell ∈ ground.crowd, config.InGrid cell

theorem within_iff :
    ground.Within config ↔
      ∀ cell, ¬config.InGrid cell → ground.spot cell = (false, false, none) := by
  have cells {cells : CellSet} {cell : Cell} : cells.contains cell = false ↔ cell ∉ cells := by
    rw [Bool.eq_false_iff, ne_eq, Std.ExtTreeSet.contains_iff_mem]
  have crowd {cell : Cell} : ground.crowd[cell]? = none ↔ cell ∉ ground.crowd := by
    rw [Std.ExtTreeMap.mem_iff_isSome_getElem?, Option.not_isSome_iff_eq_none]
  simp only [spot, Prod.mk.injEq, cells, crowd, forall_and]
  constructor
  · exact fun within => ⟨fun cell => mt (within.food cell), fun cell => mt (within.walls cell),
      fun cell => mt (within.crowd cell)⟩
  · rintro ⟨food, walls, crowd⟩
    exact ⟨fun cell => not_imp_not.mp (food cell), fun cell => not_imp_not.mp (walls cell),
      fun cell => not_imp_not.mp (crowd cell)⟩

/-- A ground that is carried along as a whole. -/
def carried (motion : Motion) (ground : Ground) : Ground where
  food := ground.food.carried motion
  walls := ground.walls.carried motion
  crowd := .ofList (ground.crowd.toList.map fun entry => (motion.cell entry.1, entry.2))

theorem mem_crowd_carried {cell : Cell} :
    cell ∈ (ground.carried motion).crowd ↔ ∃ origin ∈ ground.crowd, motion.cell origin = cell := by
  have keys : (ground.crowd.toList.map fun entry => (motion.cell entry.1, entry.2)).map Prod.fst =
      ground.crowd.keys.map motion.cell := by
    rw [← Std.ExtTreeMap.map_fst_toList_eq_keys, List.map_map, List.map_map]
    rfl
  rw [carried, Std.ExtTreeMap.mem_ofList, keys, List.contains_iff_mem, List.mem_map]
  simp only [Std.ExtTreeMap.mem_keys]

theorem getElem?_crowd_carried {region : Set Cell} {cell : Cell}
    (injective : Set.InjOn motion.cell region) (within : ∀ cell ∈ ground.crowd, cell ∈ region)
    (member : cell ∈ region) :
    (ground.carried motion).crowd[motion.cell cell]? = ground.crowd[cell]? := by
  cases stored : ground.crowd[cell]? with
  | some count =>
      have listed : (cell, count) ∈ ground.crowd.toList :=
        Std.ExtTreeMap.mem_toList_iff_getElem?_eq_some.mpr stored
      have inside {entry : Cell × Nat} (entered : entry ∈ ground.crowd.toList) :
          entry.1 ∈ region := by
        apply within entry.1
        rw [← Std.ExtTreeMap.mem_keys, ← Std.ExtTreeMap.map_fst_toList_eq_keys]
        exact List.mem_map_of_mem entered
      refine Std.ExtTreeMap.getElem?_ofList_of_mem Std.ReflCmp.compare_self
        (List.pairwise_map.mpr ?_) (List.mem_map_of_mem listed)
      refine Std.ExtTreeMap.distinct_keys_toList.imp_of_mem fun first second distinct same => ?_
      have alike := injective (inside first) (inside second) (Std.LawfulEqCmp.eq_of_compare same)
      exact distinct (alike ▸ Std.ReflCmp.compare_self)
  | none =>
      apply Std.ExtTreeMap.getElem?_eq_none
      intro carried
      obtain ⟨origin, held, same⟩ := mem_crowd_carried.mp carried
      obtain rfl : origin = cell := injective (within origin held) member same
      rw [Std.ExtTreeMap.getElem?_eq_some_getElem held] at stored
      exact Option.some_ne_none _ stored

theorem Within.carried (within : ground.Within config)
    (faithful : motion.Faithful config config.grid) : (ground.carried motion).Within config := by
  constructor
  · intro cell member
    obtain ⟨origin, listed, rfl⟩ := CellSet.mem_carried.mp member
    exact faithful.lands origin (within.food origin listed)
  · intro cell member
    obtain ⟨origin, listed, rfl⟩ := CellSet.mem_carried.mp member
    exact faithful.lands origin (within.walls origin listed)
  · intro cell member
    obtain ⟨origin, listed, rfl⟩ := mem_crowd_carried.mp member
    exact faithful.lands origin (within.crowd origin listed)

theorem Within.copied_carried (within : ground.Within config)
    (faithful : motion.Faithful config config.grid) :
    ground.Copied motion config.grid (ground.carried motion) where
  food _ := CellSet.mem_carried_iff faithful.injective within.food
  walls _ := CellSet.mem_carried_iff faithful.injective within.walls
  crowd _ := getElem?_crowd_carried faithful.injective within.crowd

theorem Copied.unique (faithful : motion.Faithful config config.grid)
    (copied : ground.Copied motion config.grid copy) (within : copy.Within config)
    (otherCopied : ground.Copied motion config.grid other) (otherWithin : other.Within config) :
    copy = other := by
  apply ext_spot
  intro cell
  by_cases inGrid : config.InGrid cell
  · obtain ⟨origin, member, rfl⟩ := faithful.exists_origin inGrid
    rw [copied_iff.mp copied origin member, copied_iff.mp otherCopied origin member]
  · rw [within_iff.mp within cell inGrid, within_iff.mp otherWithin cell inGrid]

end Ground

namespace Situation

variable {config : Config} {motion : Motion} {situation after : Situation}

/-- A situation that is carried along as a whole. -/
def carried (motion : Motion) (situation : Situation) : Situation :=
  ⟨situation.ground.carried motion, situation.forager.carried motion⟩

theorem step_within (valid : config.Valid) (inGrid : config.InGrid situation.forager.position)
    (within : situation.ground.Within config) (done : situation.step config = .ok after) :
    after.ground.Within config := by
  refine Ground.within_iff.mpr fun cell off => ?_
  have beyond : cell ∉ situation.forager.reach config :=
    off ∘ Forager.inGrid_of_mem_reach valid inGrid
  rw [spot_step valid inGrid done beyond, Ground.within_iff.mp within cell off]

theorem step_carried (valid : config.Valid) (faithful : motion.Faithful config config.grid)
    (inGrid : config.InGrid situation.forager.position) (within : situation.ground.Within config)
    (done : situation.step config = .ok after) :
    (situation.carried motion).step config = .ok (after.carried motion) := by
  have copied : situation.Copied motion config.grid (situation.carried motion) :=
    ⟨rfl, within.copied_carried faithful⟩
  obtain ⟨copyAfter, copyDone, ⟨forager, ground⟩⟩ := copied.step valid faithful
    (fun cell => Forager.inGrid_of_mem_reach valid inGrid) done
  have copyWithin := step_within valid (faithful.lands _ inGrid) (within.carried faithful) copyDone
  have afterWithin := step_within valid inGrid within done
  have same := ground.unique faithful copyWithin (afterWithin.copied_carried faithful)
    (afterWithin.carried faithful)
  rw [copyDone, carried, ← forager, ← same]

end Situation

namespace World

variable {G : Type} {world after : World G} {motion : Motion} {key : Nat} {keys : List Nat}

/-- A world that is carried along as a whole. -/
def carried (motion : Motion) (world : World G) : World G :=
  { world with
    ground := world.ground.carried motion
    records := world.records.map fun _ forager => forager.carried motion }

theorem getElem?_records_carried (motion : Motion) (world : World G) (key : Nat) :
    (world.carried motion).records[key]? = world.records[key]?.map (Forager.carried motion) :=
  Std.ExtTreeMap.getElem?_map

theorem put_carried (motion : Motion) (world : World G) (key : Nat) (situation : Situation) :
    (world.carried motion).put key (situation.carried motion) =
      (world.put key situation).carried motion := by
  have records : (world.carried motion).records.insert key (situation.forager.carried motion) =
      ((world.put key situation).carried motion).records := by
    apply Std.ExtTreeMap.ext_getElem?
    intro other
    rw [getElem?_records_carried, put, Std.ExtTreeMap.getElem?_insert,
      Std.ExtTreeMap.getElem?_insert, getElem?_records_carried]
    split <;> rfl
  simp only [put, Situation.carried, records]
  rfl

theorem Sound.within (sound : world.Sound) : world.ground.Within world.config :=
  ⟨sound.inBounds.food, sound.inBounds.walls, sound.inBounds.crowd⟩

theorem foragers_carried (motion : Motion) (world : World G) :
    (world.carried motion).foragers = world.foragers.map (Forager.carried motion) := by
  simp only [foragers, List.map_filterMap, getElem?_records_carried]
  rfl

/-- The ground of a world that is carried along counts the foragers that are carried along. -/
theorem Sound.counts_carried (sound : world.Sound)
    (faithful : motion.Faithful world.config world.config.grid) :
    (world.ground.carried motion).Counts (world.foragers.map (Forager.carried motion)) := by
  have copied := sound.within.copied_carried faithful
  have within := sound.within.carried faithful
  constructor
  · intro cell
    by_cases inGrid : world.config.InGrid cell
    · obtain ⟨origin, member, rfl⟩ := faithful.exists_origin inGrid
      rw [copied.count member, sound.counts.count, headcount, headcount, List.countP_map]
      refine List.countP_congr fun forager listed => ?_
      have here : forager.position ∈ world.config.grid := (sound.fit forager listed).position
      simp [Forager.carried, faithful.injective.eq_iff here member]
    · have bare : cell ∉ (world.ground.carried motion).crowd := inGrid ∘ within.crowd cell
      have nobody : headcount (world.foragers.map (Forager.carried motion)) cell = 0 := by
        refine List.countP_eq_zero.mpr fun twin listed here => ?_
        obtain ⟨forager, origin, rfl⟩ := List.mem_map.mp listed
        have lands := faithful.lands _ (sound.fit forager origin).position
        exact inGrid (of_decide_eq_true here ▸ lands)
      rw [nobody, Ground.count, Std.ExtTreeMap.getD_eq_fallback bare]
  · intro cell stored
    obtain ⟨origin, held, rfl⟩ := Ground.mem_crowd_carried.mp stored
    rw [copied.count (sound.within.crowd origin held)]
    exact sound.counts.tidy origin held

theorem Sound.carried (sound : world.Sound)
    (faithful : motion.Faithful world.config world.config.grid) : (world.carried motion).Sound := by
  have within := sound.within.carried faithful
  constructor
  · exact sound.valid
  · refine ⟨sound.enrolled.ascending, sound.enrolled.fresh, fun key listed => ?_⟩
    obtain ⟨forager, found, id⟩ := sound.enrolled.known key listed
    exact ⟨forager.carried motion, by rw [getElem?_records_carried, found, Option.map_some], id⟩
  · exact within.food
  · exact within.walls
  · rw [foragers_carried, List.forall_mem_map]
    intro forager listed
    have fit := sound.fit forager listed
    exact ⟨faithful.lands _ fit.position, fit.tape⟩
  · rw [foragers_carried]
    exact sound.counts_carried faithful

theorem Sound.stepOne_carried (sound : world.Sound)
    (faithful : motion.Faithful world.config world.config.grid) (listed : key ∈ world.live.toList) :
    ∃ after, World.stepOne key world = .ok () after ∧
      World.stepOne key (world.carried motion) = .ok () (after.carried motion) ∧
      after.Sound ∧ after.live = world.live ∧ after.config = world.config := by
  obtain ⟨forager, situation, found, fit, done, kept⟩ := sound.exists_step listed
  have copyFound : (world.carried motion).records[key]? = some (forager.carried motion) := by
    rw [getElem?_records_carried, found, Option.map_some]
  have copyDone := Situation.step_carried sound.valid faithful fit.position sound.within done
  refine ⟨world.put key situation, ?_, ?_, kept, rfl, rfl⟩
  · exact stepOne_of_step found done
  · rw [← put_carried]
    exact stepOne_of_step copyFound copyDone

theorem Sound.stepAll_carried (sound : world.Sound)
    (faithful : motion.Faithful world.config world.config.grid)
    (listed : keys ⊆ world.live.toList) :
    ∃ after, World.stepAll keys world = .ok () after ∧
      World.stepAll keys (world.carried motion) = .ok () (after.carried motion) := by
  induction keys generalizing world with
  | nil => exact ⟨world, rfl, rfl⟩
  | cons key keys inductionHypothesis =>
      obtain ⟨here, rest⟩ := List.cons_subset.mp listed
      obtain ⟨middle, first, copyFirst, middleSound, live, config⟩ :=
        sound.stepOne_carried faithful here
      obtain ⟨after, others, copyOthers⟩ :=
        inductionHypothesis middleSound (config.symm ▸ faithful) (live.symm ▸ rest)
      exact ⟨after, (stepAll_cons first keys).trans others,
        (stepAll_cons copyFirst keys).trans copyOthers⟩

/-- Where a motion carries it, a world takes its steps as it does where it is. -/
structure Carries (motion : Motion) (world after : World G) : Prop where
  here : stepAll world.live.toList world = .ok () after
  there : stepAll world.live.toList (world.carried motion) = .ok () (after.carried motion)
  /-- The count of the ground is carried along to where the foragers are. -/
  occupancy : (world.carried motion).Occupancy
  /-- In both worlds a forager ends with the same energy and tape, whatever way it has come. -/
  twins : ∀ (key : Nat) (forager : Forager), after.records[key]? = some forager →
    ∃ twin, (after.carried motion).records[key]? = some twin ∧
      twin.id = forager.id ∧ twin.energy = forager.energy ∧ twin.tape = forager.tape ∧
      twin.position = motion.cell forager.position ∧
      twin.heading = motion.heading forager.heading

theorem Sound.exists_carries (sound : world.Sound)
    (faithful : motion.Faithful world.config world.config.grid) :
    ∃ after, Carries motion world after := by
  obtain ⟨after, here, there⟩ := sound.stepAll_carried faithful (List.Subset.refl _)
  refine ⟨after, here, there, (sound.carried faithful).scanned, fun key forager found => ?_⟩
  refine ⟨forager.carried motion, ?_, rfl, rfl, rfl, rfl, rfl⟩
  rw [getElem?_records_carried, found, Option.map_some]

/--
In every world that can be reached the living take their steps as they would have if all
had been shifted along axes that wrap, or turned by a quarter on a square grid whose axes
both wrap or are both closed.
-/
theorem Reachable.symmetry [SeededSource G] (reachable : world.Reachable) :
    (∀ columns rows : Int, (world.config.columns.wraps = true ∨ columns = 0) →
        (world.config.rows.wraps = true ∨ rows = 0) →
        ∃ after, Carries (.shift world.config columns rows) world after) ∧
      (world.config.width = world.config.height →
        world.config.columns.wraps = world.config.rows.wraps →
        ∃ after, Carries (.quarterTurn world.config) world after) := by
  have sound := reachable.sound
  constructor
  · intro columns rows freeColumns freeRows
    exact sound.exists_carries (Motion.faithful_shift sound.valid freeColumns freeRows)
  · intro extent wraps
    have square : world.config.columns = world.config.rows := congrArg₂ Axis.mk extent wraps
    exact sound.exists_carries (Motion.faithful_quarterTurn sound.valid square)

theorem symmetry_company :
    company.Reachable ∧ company.config.columns.wraps = true ∧ company.config.rows.wraps = true ∧
      (∃ after, Carries (.shift company.config 7 (-3)) company after) ∧
      company.config.width = company.config.height ∧
      ∃ after, Carries (.quarterTurn company.config) company after := by
  have columns : company.config.columns.wraps = true := by decide +kernel
  have rows : company.config.rows.wraps = true := by decide +kernel
  have extent : company.config.width = company.config.height := by decide +kernel
  obtain ⟨shifted, turned⟩ := Reachable.symmetry reachable_company
  exact ⟨reachable_company, columns, rows, shifted 7 (-3) (.inl columns) (.inl rows), extent,
    turned extent (columns.trans rows.symm)⟩

end World

end Forage
