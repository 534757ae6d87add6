import Forage.Proofs.Fortune
import Forage.Proofs.Renewal

/-!
# When food grows

A countdown lets some ticks pass and then has food grow, so that from one growth to the next
it is one tick more than are let pass. Two clocks run in every world, and whatever is done to
it, together they tell a multiple of that period; so the step alone tells whether food grows
in the next tick. Nothing else adds food in a tick.
-/

namespace Forage

section Drawn

variable {G : Type} [WordSource G]

theorem Config.length_drawCells (config : Config) (count : Nat) (source : G) :
    (config.drawCells count source).1.length = count := by
  induction count generalizing source with
  | zero => rfl
  | succ count inductionHypothesis =>
      simp only [drawCells, List.length_cons, inductionHypothesis]

theorem Config.Valid.inGrid_drawCells {config : Config} (valid : config.Valid) (count : Nat)
    (source : G) : ∀ cell ∈ (config.drawCells count source).1, config.InGrid cell := by
  induction count generalizing source with
  | zero => simp [drawCells]
  | succ count inductionHypothesis =>
      simp only [drawCells, List.forall_mem_cons]
      exact ⟨valid.inGrid_drawCell source, inductionHypothesis (config.drawCell source).2⟩

end Drawn

theorem Ground.members_food_foldl_sow (cells : List Cell) (ground : Ground) :
    CellSet.members (cells.foldl sow ground).food =
      CellSet.members ground.food ∪ cells.toFinset := by
  induction cells generalizing ground with
  | nil => simp
  | cons cell cells inductionHypothesis =>
      rw [List.foldl_cons, inductionHypothesis, sow, CellSet.members_insert, List.toFinset_cons,
        Finset.insert_union, Finset.union_insert]

namespace World

variable {G : Type} {world middle after : World G}

/-- The ticks from one growth of food to the next. -/
def period : Nat := regrowthCadence + 1

section Graze

/-- Since then no time has passed, and food has at most been eaten. -/
structure Grazed (world after : World G) : Prop where
  config : after.config = world.config
  step : after.step = world.step
  countdown : after.countdown = world.countdown
  food : CellSet.members after.ground.food ⊆ CellSet.members world.ground.food

namespace Grazed

theorem refl (world : World G) : Grazed world world :=
  ⟨rfl, rfl, rfl, Finset.Subset.refl _⟩

theorem trans (first : Grazed world middle) (second : Grazed middle after) :
    Grazed world after where
  config := second.config.trans first.config
  step := second.step.trans first.step
  countdown := second.countdown.trans first.countdown
  food := second.food.trans first.food

theorem stepOne (valid : world.config.Valid) (key : Nat) :
    Grazed world (left (stepOne key world)) := by
  unfold World.stepOne
  split
  · exact .refl world
  next forager found =>
    split
    next situation stepped =>
      obtain ⟨eaten, passage⟩ := Situation.step_passage valid stepped
      refine ⟨rfl, rfl, rfl, ?_⟩
      rw [left, put, passage.food]
      exact Finset.sdiff_subset
    · exact .refl world

theorem bury (world : World G) : Grazed world world.bury := by
  rw [bury_eq]
  refine ⟨rfl, rfl, rfl, ?_⟩
  rw [Ground.food_foldl_vacate]

theorem stepAll (valid : world.config.Valid) (keys : List Nat) :
    Grazed world (left (stepAll keys world)) := by
  apply left_stepAll_keeps (Grazed world)
  · intro key middle grazed
    have stillValid : middle.config.Valid := grazed.config ▸ valid
    exact grazed.trans (stepOne stillValid key)
  · exact .refl world

variable [WordSource G]

theorem breed (key : Nat) (world : World G) : Grazed world (world.breed key) := by
  unfold World.breed
  split
  · exact .refl world
  · exact ⟨rfl, rfl, rfl, Finset.Subset.refl _⟩

theorem foldl_breed (keys : List Nat) (world : World G) :
    Grazed world (keys.foldl World.breed world) := by
  induction keys generalizing world with
  | nil => exact .refl world
  | cons key keys inductionHypothesis =>
      exact (breed key world).trans (inductionHypothesis (world.breed key))

/-- Once food has grown, the rest of the tick lets no time pass and adds no food. -/
theorem tick (valid : world.opened.config.Valid) : Grazed world.opened (left world.tick) := by
  have marched := stepAll valid world.live.toList
  unfold opened at marched ⊢
  unfold World.tick
  dsimp only
  split
  next fault last stopped =>
    rw [stopped] at marched
    exact marched
  next last finished =>
    rw [finished] at marched
    exact marched.trans ((bury last).trans (foldl_breed _ last.bury))

end Grazed

end Graze

section Sprouts

variable [WordSource G]

theorem inGrid_sprouts (valid : world.config.Valid) :
    ∀ cell ∈ world.sprouts.1, world.config.InGrid cell := by
  unfold sprouts
  split
  · exact valid.inGrid_drawCells _ world.source
  · exact fun _ drawn => absurd drawn List.not_mem_nil

theorem members_food_opened (world : World G) :
    CellSet.members world.opened.ground.food =
      CellSet.members world.ground.food ∪ world.sprouts.1.toFinset := by
  rw [(opened_eq_sprouts world).1, Ground.members_food_foldl_sow]

/-- A cell may be drawn twice, or have food on it, so there may be less to gain. -/
theorem size_food_opened_le (world : World G) :
    world.opened.ground.food.size ≤ world.ground.food.size + world.sprouts.1.length := by
  rw [← CellSet.card_members, ← CellSet.card_members, members_food_opened]
  calc (CellSet.members world.ground.food ∪ world.sprouts.1.toFinset).card
      ≤ (CellSet.members world.ground.food).card + world.sprouts.1.toFinset.card :=
        Finset.card_union_le _ _
    _ ≤ (CellSet.members world.ground.food).card + world.sprouts.1.length :=
        Nat.add_le_add_left world.sprouts.1.toFinset_card_le _

end Sprouts

/-- The two clocks of a world tell a multiple of the period between them. -/
structure Clocked (world : World G) : Prop where
  valid : world.config.Valid
  bounded : world.countdown ≤ regrowthCadence
  divides : period ∣ world.step + world.countdown

namespace Clocked

theorem of_zero (valid : world.config.Valid) (step : world.step = 0)
    (countdown : world.countdown = 0) : world.Clocked where
  valid := valid
  bounded := by simp [countdown]
  divides := by simp [step, countdown]

theorem of_same (clocked : world.Clocked) (valid : after.config.Valid)
    (step : after.step = world.step) (countdown : after.countdown = world.countdown) :
    after.Clocked where
  valid := valid
  bounded := by rw [countdown]; exact clocked.bounded
  divides := by rw [step, countdown]; exact clocked.divides

theorem due_iff (clocked : world.Clocked) :
    (world.step + 1) % period = 1 ↔ world.countdown = 0 := by
  obtain ⟨-, bounded, whole, divided⟩ := clocked
  unfold period at divided ⊢
  unfold regrowthCadence at bounded divided ⊢
  omega

section Draws

variable [WordSource G]

theorem stock {config : Config} (valid : config.Valid) (source : G) :
    (left (stock (World.empty config source))).Clocked := by
  have founded := Founded.stock valid source
  apply of_zero _ founded.step (countdown_stock valid source)
  rw [founded.config]
  exact valid

/-- The countdown goes down as the step goes up, or begins again a whole period from there. -/
theorem opened (clocked : world.Clocked) : world.opened.Clocked := by
  have valid : world.opened.config.Valid := by
    rw [config_opened clocked.valid]
    exact clocked.valid
  obtain ⟨-, bounded, whole, divided⟩ := clocked
  cases counted : world.countdown with
  | zero =>
      refine ⟨valid, ?_, whole + 1, ?_⟩
      · simp [opened_of_due counted]
      · rw [opened_of_due counted, sow_eq_drawCells, Nat.mul_succ, ← divided, counted]
        dsimp only
        unfold period
        omega
  | succ waiting =>
      refine ⟨valid, ?_, whole, ?_⟩
      · rw [opened_of_waiting counted]
        dsimp only
        omega
      · rw [opened_of_waiting counted, ← divided]
        dsimp only
        omega

theorem length_sprouts (clocked : world.Clocked) :
    (world.sprouts.1.length : Int) =
      if (world.step + 1) % period = 1 then world.config.regrowthRate else 0 := by
  simp only [clocked.due_iff]
  unfold sprouts
  split
  · rw [Config.length_drawCells]
    exact Int.toNat_of_nonneg (clocked.valid.admits .regrowthRate).1
  · rfl

theorem opened_of_fallow (clocked : world.Clocked) (fallow : (world.step + 1) % period ≠ 1) :
    world.opened = { world with
      step := world.step + 1
      countdown := world.countdown - 1 } := by
  rw [Ne, clocked.due_iff] at fallow
  exact opened_of_waiting (Nat.succ_pred fallow).symm

end Draws

variable [SeededSource G]

theorem perform (clocked : world.Clocked) (deed : Deed) : (world.perform deed).Clocked := by
  cases quiet : deed.draws with
  | false =>
      have kept := quiet_perform world quiet
      exact clocked.of_same (kept.valid clocked.valid) kept.step kept.countdown
  | true =>
      cases deed with
      | tick =>
          have opened := clocked.opened
          have grazed := Grazed.tick opened.valid
          have valid : (left world.tick).config.Valid := grazed.config ▸ opened.valid
          exact opened.of_same valid grazed.step grazed.countdown
      | reset seed => exact stock clocked.valid _
      | _ => cases quiet

end Clocked

variable [SeededSource G]

/--
The worlds of every run: it begins with an empty world, a stocked one, or one made anew, and
goes on with deeds and with whatever else leaves both clocks alone.
-/
inductive Timed : World G → Prop where
  | empty {config} (valid : config.Valid) (source : G) : Timed (World.empty config source)
  | create {config} (valid : config.Valid) (source : G) {created} :
      World.create config source = .ok created → Timed created
  | reset {old : World G} (valid : old.config.Valid) (seed : Option Int) :
      Timed (left (World.reset seed old))
  | perform {before} (deed : Deed) : Timed before → Timed (before.perform deed)
  | touch {before touched} : Timed before → touched.config.Valid →
      touched.step = before.step → touched.countdown = before.countdown → Timed touched

theorem Timed.clocked (timed : world.Timed) : world.Clocked := by
  induction timed with
  | empty valid source => exact .of_zero valid rfl rfl
  | create valid source created =>
      have stocked := Clocked.stock valid source
      rw [create_eq_ok_iff.mp created] at stocked
      exact stocked
  | reset valid seed => exact .stock valid _
  | perform deed _ clocked => exact clocked.perform deed
  | touch _ valid step countdown clocked => exact clocked.of_same valid step countdown

/-- When food grows in a world, and how much. -/
structure Schedule (world : World G) : Prop where
  bounded : world.countdown ≤ regrowthCadence
  divides : period ∣ world.step + world.countdown
  ticked : (left world.tick).step = world.step + 1
  /-- Where food grows is drawn at the start of a tick, when it is due and as often as is asked. -/
  drawn : (world.sprouts.1.length : Int) =
    if (world.step + 1) % period = 1 then world.config.regrowthRate else 0
  inGrid : ∀ cell ∈ world.sprouts.1, world.config.InGrid cell
  grown : CellSet.members world.opened.ground.food =
    CellSet.members world.ground.food ∪ world.sprouts.1.toFinset
  gained : world.opened.ground.food.size ≤ world.ground.food.size + world.sprouts.1.length
  /-- Nothing but the places for food is drawn until the cohort begins to step. -/
  source : world.opened.source = world.sprouts.2
  /-- From then on no cell gains food. -/
  grazed : CellSet.members (left world.tick).ground.food ⊆
    CellSet.members world.opened.ground.food
  fallow : (world.step + 1) % period ≠ 1 →
    world.opened.source = world.source ∧
      CellSet.members (left world.tick).ground.food ⊆ CellSet.members world.ground.food

/-- In every run food grows by the step alone, once in a period, and as much as is asked then. -/
theorem Timed.schedule (timed : world.Timed) : world.Schedule := by
  have clocked := timed.clocked
  have opened := clocked.opened
  have graze := Grazed.tick opened.valid
  constructor
  · exact clocked.bounded
  · exact clocked.divides
  · rw [graze.step, step_opened clocked.valid]
  · exact clocked.length_sprouts
  · exact inGrid_sprouts clocked.valid
  · exact members_food_opened world
  · exact size_food_opened_le world
  · exact (opened_eq_sprouts world).2
  · exact graze.food
  · intro waiting
    have still := clocked.opened_of_fallow waiting
    refine ⟨by rw [still], graze.food.trans ?_⟩
    rw [still]

theorem Reachable.timed (reachable : world.Reachable) : world.Timed := by
  induction reachable with
  | empty valid source => exact .empty valid source
  | create valid source created => exact .create valid source created
  | perform deed _ timed => exact timed.perform deed

/-- An example: the veteran once nine more ticks have passed, so that food grows in the next. -/
def harvester : World Script :=
  (List.replicate 9 Deed.tick).foldl perform veteran

theorem schedule_harvester :
    harvester.Timed ∧ harvester.step = 11 ∧ harvester.countdown = 0 ∧
      harvester.sprouts.1.length = 1 ∧ harvester.Schedule := by
  have timed := Reachable.timed (reachable_veteran.foldl (List.replicate 9 Deed.tick))
  exact ⟨timed, by decide +kernel, by decide +kernel, by decide +kernel, timed.schedule⟩

end World

end Forage
