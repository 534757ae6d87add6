import Forage.Proofs.Founders
import Forage.Proofs.Kinds

/-!
# Worlds that are tuned

Some parameters of a world may be changed while it runs. Such a change is asked for by name, for
any number of parameters at once; it is made as a whole, or nothing about the world is changed at
all. So a world keeps within the limits whatever is asked of it, and what is not tunable stays as
the world was made.
-/

namespace Forage

/-- In a list without names that come twice each name leads to what it stands with. -/
theorem Datum.lookup_of_mem {fields : List (String × Datum)} {field : String × Datum}
    (distinct : (fields.map Prod.fst).Nodup) (listed : field ∈ fields) :
    lookup field.1 fields = some field.2 := by
  have there : field ∈ fields.reverse := List.mem_reverse.mpr listed
  have apart : (fields.reverse.map Prod.fst).Nodup := by
    rw [List.map_reverse]
    exact List.nodup_reverse.mpr distinct
  cases found : fields.reverse.find? fun other => other.1 == field.1 with
  | none => simpa using List.find?_eq_none.mp found field there
  | some other =>
      have named : other.1 = field.1 := by simpa using List.find?_some found
      have same := List.inj_on_of_nodup_map apart (List.mem_of_find?_eq_some found) there named
      rw [lookup, found, same]
      rfl

theorem Text.precedes_trans (first second third : String) (ahead : precedes first second = true)
    (further : precedes second third = true) : precedes first third = true :=
  Std.TransCmp.isLE_trans ahead further

theorem Text.precedes_total (first second : String) :
    (precedes first second || precedes second first) = true := by
  have total (codes others : List Nat) :
      ((compare codes others).isLE || (compare others codes).isLE) = true := by
    have swap : compare codes others = (compare others codes).swap := Std.OrientedCmp.eq_swap
    rw [swap]
    cases compare others codes <;> rfl
  exact total _ _

theorem Config.pairwise_fixedNames (changes : List (String × Datum)) :
    (fixedNames changes).Pairwise fun name later => Text.precedes name later = true :=
  List.pairwise_mergeSort Text.precedes_trans Text.precedes_total _

theorem Draft.exists_yields {draft : Draft} {length : Amount} {opcodes : Option (List Opcode)}
    (checked : ∀ parameter, ∃ value, draft.checked parameter = .ok value)
    (long : Amount.atLeast randomLengthName 1 draft.randomLength = .ok length)
    (given : draft.checkedOpcodes = .ok opcodes) : ∃ config, draft.Yields config := by
  choose value checked using checked
  refine ⟨{
    width := value .width
    height := value .height
    initialFoodPercent := value .initialFoodPercent
    initialWallPercent := value .initialWallPercent
    initialPopulation := value .initialPopulation
    initialEnergy := value .initialEnergy
    mutationRate := value .mutationRate
    regrowthRate := value .regrowthRate
    energyPerFood := value .energyPerFood
    energyPerStep := value .energyPerStep
    reproductionThreshold := value .reproductionThreshold
    seed := value .seed
    wrapX := draft.wrapX
    wrapY := draft.wrapY
    vocabulary := draft.vocabulary
    initialOpcodes := opcodes
    randomLength := length }, ?_, long, given, rfl, rfl, rfl⟩
  intro parameter
  rw [checked]
  cases parameter <;> rfl

namespace Config

variable {config tuned : Config} {changes : List (String × Datum)}

/-- A change that may be made: it gives a tunable parameter a whole number within its limits. -/
def Grants (change : String × Datum) : Prop :=
  ∃ parameter ∈ Parameter.tunable, parameter.name = change.1 ∧
    ∃ value, change.2 = .whole value ∧ parameter.limits.Admits value

example : Parameter.tunable.map Parameter.name =
    ["mutation_rate", "regrowth_rate", "energy_per_food", "energy_per_step",
      "reproduction_threshold"] := by decide

/-- The draft of a configuration in which the changes take the place of what was there. -/
def redrafted (config : Config) (changes : List (String × Datum)) : Draft :=
  { Draft.ofConfig config with
    parameter := fun parameter =>
      (Datum.lookup parameter.name changes).getD (.whole (config.get parameter)) }

theorem update_of_fixed (fixed : fixedNames changes ≠ []) :
    config.update changes = .error (.fixedParameters (fixedNames changes)) := by
  unfold update
  split
  · next none => exact absurd none fixed
  · rfl

theorem update_of_tunable (none : fixedNames changes = []) :
    config.update changes = (config.redrafted changes).toConfig := by
  unfold update
  rw [none]
  rfl

theorem parameter_redrafted (distinct : (changes.map Prod.fst).Nodup) {parameter : Parameter}
    {datum : Datum} (asked : (parameter.name, datum) ∈ changes) :
    (config.redrafted changes).parameter parameter = datum := by
  unfold redrafted
  dsimp only
  rw [Datum.lookup_of_mem distinct asked]
  rfl

theorem parameter_redrafted_of_unasked {parameter : Parameter}
    (unasked : parameter.name ∉ changes.map Prod.fst) :
    (config.redrafted changes).parameter parameter = .whole (config.get parameter) := by
  unfold redrafted
  dsimp only
  rw [lookup_eq_none unasked]
  rfl

theorem checkedOpcodes_redrafted :
    (config.redrafted changes).checkedOpcodes = .ok config.initialOpcodes :=
  Draft.checkedOpcodes_ofConfig config

theorem name_injective {parameter other : Parameter} (same : parameter.name = other.name) :
    parameter = other := by
  revert same
  cases parameter <;> cases other <;> decide

theorem fixedNames_of_grants (granted : ∀ change ∈ changes, Grants change) :
    fixedNames changes = [] := by
  apply fixedNames_eq_nil_iff.mpr
  intro name named
  obtain ⟨change, listed, rfl⟩ := List.mem_map.mp named
  obtain ⟨parameter, tunable, same, -⟩ := granted change listed
  exact same ▸ List.mem_map_of_mem tunable

theorem exists_update_iff (valid : config.Valid) (distinct : (changes.map Prod.fst).Nodup) :
    (∃ tuned, config.update changes = .ok tuned) ↔ ∀ change ∈ changes, Grants change := by
  constructor
  · rintro ⟨tuned, updated⟩ ⟨name, datum⟩ listed
    by_cases none : fixedNames changes = []
    · rw [update_of_tunable none] at updated
      have yields := Draft.toConfig_eq_ok_iff.mp updated
      have tunable := fixedNames_eq_nil_iff.mp none name (List.mem_map_of_mem listed)
      obtain ⟨parameter, member, rfl⟩ := List.mem_map.mp tunable
      have checked := yields.checked parameter
      rw [Draft.checked, parameter_redrafted distinct listed] at checked
      obtain ⟨same, admitted⟩ := Limits.check_eq_ok_iff.mp checked
      exact ⟨parameter, member, rfl, _, same, admitted⟩
    · rw [update_of_fixed none] at updated
      cases updated
  · intro granted
    rw [update_of_tunable (fixedNames_of_grants granted)]
    have yields : ∃ tuned, (config.redrafted changes).Yields tuned := by
      refine Draft.exists_yields ?_
        (Amount.atLeast_eq_ok_iff.mpr ⟨Amount.ofDatum_toDatum _, valid.2⟩) checkedOpcodes_redrafted
      intro parameter
      by_cases asked : parameter.name ∈ changes.map Prod.fst
      · obtain ⟨⟨name, datum⟩, listed, same⟩ := List.mem_map.mp asked
        obtain ⟨other, -, named, value, rfl, admitted⟩ := granted _ listed
        obtain rfl := name_injective (named.trans same)
        refine ⟨value, Limits.check_eq_ok_iff.mpr ⟨?_, admitted⟩⟩
        exact parameter_redrafted distinct (named ▸ listed)
      · exact ⟨config.get parameter, Limits.check_eq_ok_iff.mpr
          ⟨parameter_redrafted_of_unasked asked, valid.1 parameter⟩⟩
    exact yields.imp fun _ => Draft.toConfig_eq_ok_iff.mpr

theorem kind_of_update {fault : Fault} (failed : config.update changes = .error fault) :
    fault.kind = .invalid := by
  by_cases none : fixedNames changes = []
  · rw [update_of_tunable none] at failed
    exact Draft.kind_of_toConfig rfl checkedOpcodes_redrafted failed
  · rw [update_of_fixed none] at failed
    exact Except.error.inj failed ▸ rfl

/-- What is said of changes that cannot be made: each name that is not tunable, in order. -/
structure Refusal (changes : List (String × Datum)) (fault : Fault) : Prop where
  kind : fault.kind = .invalid
  named : (∃ name ∈ changes.map Prod.fst, name ∉ Parameter.tunable.map Parameter.name) →
    ∃ names, fault = .fixedParameters names ∧
      names.Perm ((changes.map Prod.fst).filter fun name =>
        !(Parameter.tunable.map Parameter.name).contains name) ∧
      names.Pairwise (fun name later => Text.precedes name later = true) ∧
      fault.message = "parameters cannot be changed during a run: " ++ ", ".intercalate names

theorem refusal_of_update {fault : Fault} (failed : config.update changes = .error fault) :
    Refusal changes fault := by
  refine ⟨kind_of_update failed, ?_⟩
  rintro ⟨name, named, foreign⟩
  have fixed : fixedNames changes ≠ [] :=
    List.ne_nil_of_mem (mem_fixedNames.mpr ⟨named, foreign⟩)
  obtain rfl := Except.error.inj ((update_of_fixed fixed).symm.trans failed)
  exact ⟨_, rfl, fixedNames_perm changes, pairwise_fixedNames changes, rfl⟩

/-- A configuration after changes: what was asked for has been done, and nothing else. -/
structure Retuned (config : Config) (changes : List (String × Datum)) (tuned : Config) : Prop where
  within : config.Tuned tuned
  asked : ∀ (parameter : Parameter) datum, (parameter.name, datum) ∈ changes →
    datum = .whole (tuned.get parameter)
  unasked : ∀ parameter : Parameter, parameter.name ∉ changes.map Prod.fst →
    tuned.get parameter = config.get parameter

theorem retuned_of_update (distinct : (changes.map Prod.fst).Nodup)
    (updated : config.update changes = .ok tuned) : config.Retuned changes tuned := by
  have change := tuned_of_update updated
  by_cases none : fixedNames changes = []
  · rw [update_of_tunable none] at updated
    have checked (parameter : Parameter) :=
      (Limits.check_eq_ok_iff.mp ((Draft.toConfig_eq_ok_iff.mp updated).checked parameter)).1
    refine ⟨change, ?_, ?_⟩
    · intro parameter datum asked
      exact (parameter_redrafted distinct asked).symm.trans (checked parameter)
    · intro parameter unasked
      exact (Datum.whole.inj ((parameter_redrafted_of_unasked unasked).symm.trans
        (checked parameter))).symm
  · rw [update_of_fixed none] at updated
    cases updated

end Config

namespace World

variable {G : Type} {world after : World G} {config : Config} {changes : List (String × Datum)}

/--
A change of parameters, step after step. The new configuration is put together beside the
world, which is not touched before all checks have passed.
-/
def retune (changes : List (String × Datum)) : EStateM Fault (World G) Unit := do
  if changes.any fun change => change.1 == ownName then throw .wrongShape
  let world ← get
  let fixed := Config.fixedNames changes
  if !fixed.isEmpty then throw (.fixedParameters fixed)
  match (world.config.redrafted changes).toConfig with
  | .ok tuned => set { world with config := tuned }
  | .error fault => throw fault

/-- What making a change comes to: the change, or a fault and the world as it was. -/
def holding (world : World G) : Except Fault (World G) → EStateM.Result Fault (World G) Unit
  | .ok after => .ok () after
  | .error fault => .error fault world

theorem retune_eq (changes : List (String × Datum)) (world : World G) :
    retune changes world = world.holding (world.update changes) := by
  unfold retune update
  cases changes.any fun change => change.1 == ownName with
  | true => rfl
  | false =>
      cases fixed : Config.fixedNames changes with
      | nil =>
          rw [Config.update_of_tunable fixed]
          change (match (world.config.redrafted changes).toConfig with
            | .ok tuned => set { world with config := tuned }
            | .error fault => throw fault : EStateM Fault (World G) Unit) world = _
          cases (world.config.redrafted changes).toConfig <;> rfl
      | cons name names =>
          rw [Config.update_of_fixed (fixed ▸ List.cons_ne_nil name names), fixed]
          rfl

theorem update_of_other (other : ownName ∉ changes.map Prod.fst) :
    world.update changes =
      (world.config.update changes).map fun tuned => { world with config := tuned } := by
  have absent : (changes.any fun change => change.1 == ownName) = false := by
    rw [← Bool.not_eq_true, List.any_eq_true]
    rintro ⟨change, listed, named⟩
    exact other (beq_iff_eq.mp named ▸ List.mem_map_of_mem listed)
  unfold update
  rw [absent]
  cases world.config.update changes <;> rfl

section Built

variable [SeededSource G]

theorem Sound.tuned_perform (sound : world.Sound) (deed : Deed) :
    world.config.Tuned (world.perform deed).config := by
  have same : world.config.Tuned world.config := sound.valid.tuned_self
  have changed {result : Except Fault (World G)}
      (kept : ∀ after, result = .ok after → world.config.Tuned after.config) :
      world.config.Tuned (world.changed result).config :=
    changed_keeps same kept
  cases deed with
  | tick =>
      obtain ⟨marched, report, after, -, -, done, ticked, -⟩ := sound.tick
      rw [World.perform, done, left, ticked.config]
      exact same
  | place position heading opcodes pointer energy =>
      apply changed
      intro after placed
      obtain ⟨goal, -, rfl⟩ := place_eq_ok_iff.mp placed
      exact same
  | addFood cell =>
      apply changed
      intro after added
      obtain ⟨goal, -, rfl⟩ := addFood_eq_ok_iff.mp added
      exact same
  | addWall cell =>
      apply changed
      intro after added
      obtain ⟨goal, -, rfl⟩ := addWall_eq_ok_iff.mp added
      exact same
  | removeFood cell => exact same
  | update changes =>
      apply changed
      intro after updated
      obtain ⟨-, tuned, checked, rfl⟩ := update_eq_ok_iff.mp updated
      exact Config.tuned_of_update checked
  | reset seed =>
      rw [World.perform, (Founded.reset sound.valid seed).config]
      exact same
  | act key action =>
      apply changed
      intro after acted
      obtain ⟨forager, situation, -, -, -, rfl⟩ := act_eq_ok_iff.mp acted
      exact same

/-- The worlds that deeds can lead to from one that was made with a configuration. -/
inductive Built (config : Config) : World G → Prop where
  | empty (valid : config.Valid) (source : G) : Built config (World.empty config source)
  | create (valid : config.Valid) (source : G) {world : World G} :
      World.create config source = .ok world → Built config world
  | perform {world : World G} (deed : Deed) : Built config world → Built config (world.perform deed)

theorem Built.reachable (built : world.Built config) : world.Reachable := by
  induction built with
  | empty valid source => exact .empty valid source
  | create valid source created => exact .create valid source created
  | perform deed _ inductionHypothesis => exact inductionHypothesis.perform deed

theorem Reachable.exists_built (reachable : world.Reachable) : ∃ config, world.Built config := by
  induction reachable with
  | empty valid source => exact ⟨_, .empty valid source⟩
  | create valid source created => exact ⟨_, .create valid source created⟩
  | perform deed _ inductionHypothesis => exact inductionHypothesis.imp fun _ => .perform deed

theorem Built.foldl (built : world.Built config) (deeds : List Deed) :
    (deeds.foldl World.perform world).Built config := by
  induction deeds generalizing world with
  | nil => exact built
  | cons deed deeds inductionHypothesis => exact inductionHypothesis (built.perform deed)

/-- However a world has come about, it was only ever tuned since it was made. -/
theorem Built.tuned (built : world.Built config) : config.Tuned world.config := by
  induction built with
  | empty valid source => exact valid.tuned_self
  | create valid source created =>
      rw [(Founded.create valid created).config]
      exact valid.tuned_self
  | perform deed built inductionHypothesis =>
      exact inductionHypothesis.trans (built.reachable.sound.tuned_perform deed)

/-- What comes of asking a world for changes, and what its configuration was before. -/
structure Tuning (config : Config) (changes : List (String × Datum)) (world : World G) : Prop where
  built : config.Tuned world.config
  made : retune changes world = world.holding (world.update changes)
  done : (∀ change ∈ changes, Config.Grants change) →
    ∃ tuned, retune changes world = .ok () { world with config := tuned } ∧
      world.config.Retuned changes tuned
  refused : (¬ ∀ change ∈ changes, Config.Grants change) →
    ∃ fault, retune changes world = .error fault world ∧ Config.Refusal changes fault

/--
Parameters are changed if each change may be made, and nothing else is; otherwise nothing is
changed. So a world keeps within the limits, and keeps what is not tunable as it was made.
-/
theorem Built.tuning (built : world.Built config) (distinct : (changes.map Prod.fst).Nodup)
    (other : ownName ∉ changes.map Prod.fst) : Tuning config changes world := by
  have granted := Config.exists_update_iff built.tuned.valid distinct
  refine ⟨built.tuned, retune_eq changes world, ?_, ?_⟩
  · intro grants
    obtain ⟨tuned, updated⟩ := granted.mpr grants
    refine ⟨tuned, ?_, Config.retuned_of_update distinct updated⟩
    rw [retune_eq, update_of_other other, updated]
    rfl
  · intro denied
    cases updated : world.config.update changes with
    | ok tuned => exact absurd (granted.mp ⟨tuned, updated⟩) denied
    | error fault =>
        refine ⟨fault, ?_, Config.refusal_of_update updated⟩
        rw [retune_eq, update_of_other other, updated]
        rfl

theorem built_company : company.Built Config.default :=
  (Built.empty Config.valid_default _).foldl _

/-- An example: changes that may be made. -/
def easing : List (String × Datum) :=
  [("mutation_rate", .whole 7), ("energy_per_food", .whole 0)]

/-- An example: a change that may be made beside one that may not. -/
def widening : List (String × Datum) :=
  [("mutation_rate", .whole 7), ("width", .whole 3)]

theorem tuning_company :
    (∃ tuned, retune easing company = .ok () { company with config := tuned } ∧
      tuned.mutationRate = 7 ∧ tuned.energyPerFood = 0) ∧
    ∃ fault, retune widening company = .error fault company ∧ fault.kind = .invalid := by
  constructor
  · have tuning : Tuning Config.default easing company :=
      built_company.tuning (by decide) (by decide)
    have grants : ∀ change ∈ easing, Config.Grants change := by
      rw [easing, List.forall_mem_cons, List.forall_mem_singleton]
      exact ⟨⟨.mutationRate, by decide, rfl, 7, rfl, by decide⟩,
        ⟨.energyPerFood, by decide, rfl, 0, rfl, by decide⟩⟩
    obtain ⟨tuned, done, retuned⟩ := tuning.done grants
    have mutation := retuned.asked .mutationRate (.whole 7) (List.mem_cons_self ..)
    have food := retuned.asked .energyPerFood (.whole 0)
      (List.mem_cons_of_mem _ (List.mem_cons_self ..))
    exact ⟨tuned, done, (Datum.whole.inj mutation).symm, (Datum.whole.inj food).symm⟩
  · have tuning : Tuning Config.default widening company :=
      built_company.tuning (by decide) (by decide)
    have denied : ¬ ∀ change ∈ widening, Config.Grants change := by
      intro grants
      obtain ⟨parameter, tunable, named, -⟩ :=
        grants ("width", .whole 3) (List.mem_cons_of_mem _ (List.mem_cons_self ..))
      revert tunable named
      cases parameter <;> decide
    obtain ⟨fault, failed, refusal⟩ := tuning.refused denied
    exact ⟨fault, failed, refusal.kind⟩

end Built
end World
end Forage
