import Forage.Config.Draft
import Forage.Grid
import Forage.Proofs.Fallible

/-!
# What a draft yields

A draft yields a configuration exactly when each of its checks passes, and what it
yields is valid. Changing tunable parameters is such a check of the whole
configuration, so it keeps everything that is fixed.
-/

namespace Forage

theorem Limits.check_eq_ok_iff {limits : Limits} {datum : Datum} {value : Int} :
    limits.check datum = .ok value ↔ datum = .whole value ∧ limits.Admits value := by
  cases datum with
  | whole given =>
      by_cases admitted : limits.Admits given
      · simp only [check, admitted, if_true, Except.ok.injEq, Datum.whole.injEq]
        constructor
        · rintro rfl
          exact ⟨rfl, admitted⟩
        · exact And.left
      · simp only [check, admitted, if_false, reduceCtorEq, Datum.whole.injEq, false_iff]
        rintro ⟨rfl, within⟩
        exact admitted within
  | null | truth | real | text | list | record => simp [check]

theorem Amount.atLeast_eq_ok_iff {name : String} {least : Int} {datum : Datum} {amount : Amount} :
    atLeast name least datum = .ok amount ↔
      ofDatum datum = .ok amount ∧ amount.isBelow least = false := by
  unfold atLeast
  cases given : ofDatum datum with
  | error fault => simp [bind, Except.bind]
  | ok amount =>
      by_cases below : amount.isBelow least
      · simp only [bind, Except.bind, below, if_true, throw, throwThe, MonadExceptOf.throw,
          reduceCtorEq, Except.ok.injEq, false_iff]
        rintro ⟨rfl, enough⟩
        simp [below] at enough
      · simp only [bind, Except.bind, below, Bool.false_eq_true, if_false, pure, Except.pure,
          Except.ok.injEq]
        constructor
        · rintro rfl
          exact ⟨rfl, by simpa using below⟩
        · exact And.left

namespace Draft

/-- A configuration is what a draft asks for, and every check has passed. -/
structure Yields (draft : Draft) (config : Config) : Prop where
  checked : ∀ parameter, draft.checked parameter = .ok (config.get parameter)
  randomLength : Amount.atLeast randomLengthName 1 draft.randomLength = .ok config.randomLength
  opcodes : draft.checkedOpcodes = .ok config.initialOpcodes
  wrapX : draft.wrapX = config.wrapX
  wrapY : draft.wrapY = config.wrapY
  vocabulary : draft.vocabulary = config.vocabulary

variable {draft : Draft} {config : Config}

theorem toConfig_eq_ok_iff : draft.toConfig = .ok config ↔ draft.Yields config := by
  unfold toConfig
  simp only [bind_eq_ok_iff, pure_eq_ok_iff]
  constructor
  · rintro ⟨width, width_eq, height, height_eq, food, food_eq, walls, walls_eq, population,
      population_eq, energy, energy_eq, mutation, mutation_eq, regrowth, regrowth_eq, perFood,
      perFood_eq, perStep, perStep_eq, threshold, threshold_eq, seed, seed_eq, length, length_eq,
      opcodes, opcodes_eq, rfl⟩
    refine ⟨?_, length_eq, opcodes_eq, rfl, rfl, rfl⟩
    rintro (_ | _) <;> assumption
  · intro yields
    obtain ⟨checked, randomLength, opcodes, wrapX, wrapY, vocabulary⟩ := yields
    refine ⟨_, checked .width, _, checked .height, _, checked .initialFoodPercent,
      _, checked .initialWallPercent, _, checked .initialPopulation, _, checked .initialEnergy,
      _, checked .mutationRate, _, checked .regrowthRate, _, checked .energyPerFood,
      _, checked .energyPerStep, _, checked .reproductionThreshold, _, checked .seed,
      _, randomLength, _, opcodes, ?_⟩
    rw [wrapX, wrapY, vocabulary]
    rfl

theorem Yields.valid (yields : draft.Yields config) : config.Valid :=
  ⟨fun parameter => (Limits.check_eq_ok_iff.mp (yields.checked parameter)).2,
    (Amount.atLeast_eq_ok_iff.mp yields.randomLength).2⟩

theorem withoutGaps_map_some (opcodes : List Opcode) :
    withoutGaps (opcodes.map some) = .ok opcodes := by
  induction opcodes with
  | nil => rfl
  | cons opcode opcodes inductionHypothesis =>
      simp [withoutGaps, inductionHypothesis, Except.map]

theorem checkedOpcodes_ofConfig (config : Config) :
    (ofConfig config).checkedOpcodes = .ok config.initialOpcodes := by
  unfold checkedOpcodes ofConfig
  cases config.initialOpcodes with
  | none => rfl
  | some opcodes => simp [withoutGaps_map_some, Except.map]

theorem yields_ofConfig (valid : config.Valid) : (ofConfig config).Yields config where
  checked parameter := Limits.check_eq_ok_iff.mpr ⟨rfl, valid.1 parameter⟩
  randomLength := Amount.atLeast_eq_ok_iff.mpr ⟨Amount.ofDatum_toDatum _, valid.2⟩
  opcodes := checkedOpcodes_ofConfig config
  wrapX := rfl
  wrapY := rfl
  vocabulary := rfl

theorem Yields.eq_of_ofConfig {made : Config} (yields : (ofConfig config).Yields made) :
    made = config := by
  have value (parameter : Parameter) : made.get parameter = config.get parameter := by
    have checked := (Limits.check_eq_ok_iff.mp (yields.checked parameter)).1
    exact (Datum.whole.inj checked).symm
  have opcodes := Except.ok.inj (yields.opcodes.symm.trans (checkedOpcodes_ofConfig config))
  have given := (Amount.atLeast_eq_ok_iff.mp yields.randomLength).1
  have length := Except.ok.inj (given.symm.trans (Amount.ofDatum_toDatum config.randomLength))
  cases made
  cases config
  simp only [Config.mk.injEq]
  exact ⟨value .width, value .height, value .initialFoodPercent, value .initialWallPercent,
    value .initialPopulation, value .initialEnergy, value .mutationRate, value .regrowthRate,
    value .energyPerFood, value .energyPerStep, value .reproductionThreshold, value .seed,
    yields.wrapX.symm, yields.wrapY.symm, yields.vocabulary.symm, opcodes, length⟩

end Draft

namespace Config

theorem valid_default : Config.default.Valid :=
  ⟨fun parameter => by cases parameter <;> decide, rfl⟩

variable {config tuned : Config} {changes : List (String × Datum)}

/-- A change of tunable parameters: the rest stays, and what comes of it is valid. -/
structure Tuned (config tuned : Config) : Prop where
  valid : tuned.Valid
  fixed : ∀ parameter : Parameter, parameter.limits.tunable = false →
    tuned.get parameter = config.get parameter
  wrapX : tuned.wrapX = config.wrapX
  wrapY : tuned.wrapY = config.wrapY
  vocabulary : tuned.vocabulary = config.vocabulary
  initialOpcodes : tuned.initialOpcodes = config.initialOpcodes
  randomLength : tuned.randomLength = config.randomLength

theorem Valid.tuned_self (valid : config.Valid) : config.Tuned config :=
  ⟨valid, fun _ _ => rfl, rfl, rfl, rfl, rfl, rfl⟩

theorem Tuned.trans {other : Config} (first : config.Tuned tuned) (second : tuned.Tuned other) :
    config.Tuned other where
  valid := second.valid
  fixed parameter fixed := (second.fixed parameter fixed).trans (first.fixed parameter fixed)
  wrapX := second.wrapX.trans first.wrapX
  wrapY := second.wrapY.trans first.wrapY
  vocabulary := second.vocabulary.trans first.vocabulary
  initialOpcodes := second.initialOpcodes.trans first.initialOpcodes
  randomLength := second.randomLength.trans first.randomLength

theorem lookup_eq_none {fields : List (String × Datum)} {key : String}
    (absent : key ∉ fields.map Prod.fst) : Datum.lookup key fields = none := by
  simp only [Datum.lookup, Option.map_eq_none_iff, List.find?_eq_none, List.mem_reverse,
    beq_iff_eq]
  rintro field member rfl
  exact absent (List.mem_map_of_mem member)

theorem fixedNames_perm (changes : List (String × Datum)) :
    (fixedNames changes).Perm ((changes.map Prod.fst).filter fun name =>
      !(Parameter.tunable.map Parameter.name).contains name) :=
  List.mergeSort_perm _ _

theorem mem_fixedNames {name : String} :
    name ∈ fixedNames changes ↔
      name ∈ changes.map Prod.fst ∧ name ∉ Parameter.tunable.map Parameter.name := by
  rw [(fixedNames_perm changes).mem_iff, List.mem_filter, Bool.not_eq_true',
    ← Bool.not_eq_true, List.contains_iff_mem]

theorem fixedNames_eq_nil_iff :
    fixedNames changes = [] ↔
      ∀ name ∈ changes.map Prod.fst, name ∈ Parameter.tunable.map Parameter.name := by
  rw [List.eq_nil_iff_forall_not_mem]
  constructor
  · intro none name named
    exact Decidable.byContradiction fun fixed => none name (mem_fixedNames.mpr ⟨named, fixed⟩)
  · intro all name fixed
    obtain ⟨named, foreign⟩ := mem_fixedNames.mp fixed
    exact foreign (all name named)

theorem name_notMem_tunable {parameter : Parameter} (fixed : parameter.limits.tunable = false) :
    parameter.name ∉ Parameter.tunable.map Parameter.name := by
  cases parameter <;> first | decide | simp [Parameter.limits] at fixed

theorem tuned_of_update (updated : config.update changes = .ok tuned) : config.Tuned tuned := by
  unfold update at updated
  split at updated
  case h_2 => simp at updated
  case h_1 none =>
    have yields := Draft.toConfig_eq_ok_iff.mp updated
    constructor
    · exact yields.valid
    · intro parameter fixed
      have absent : parameter.name ∉ changes.map Prod.fst := fun named =>
        name_notMem_tunable fixed (fixedNames_eq_nil_iff.mp none _ named)
      have checked : (Datum.lookup parameter.name changes).getD (.whole (config.get parameter)) =
          .whole (tuned.get parameter) := (Limits.check_eq_ok_iff.mp (yields.checked parameter)).1
      rw [lookup_eq_none absent] at checked
      exact (Datum.whole.inj checked).symm
    · exact yields.wrapX.symm
    · exact yields.wrapY.symm
    · exact yields.vocabulary.symm
    · have := yields.opcodes.symm.trans (Draft.checkedOpcodes_ofConfig config)
      exact Except.ok.inj this
    · have given := (Amount.atLeast_eq_ok_iff.mp yields.randomLength).1
      exact (Except.ok.inj ((Amount.ofDatum_toDatum _).symm.trans given)).symm

theorem Tuned.inGrid_iff (change : config.Tuned tuned) {cell : Cell} :
    tuned.InGrid cell ↔ config.InGrid cell := by
  have width : tuned.width = config.width := change.fixed .width rfl
  have height : tuned.height = config.height := change.fixed .height rfl
  simp [InGrid, Axis.Holds, columns, rows, width, height]

end Config

end Forage
