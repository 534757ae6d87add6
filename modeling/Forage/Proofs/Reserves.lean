import Forage.Proofs.Extinction
import Forage.Proofs.Pedigree

/-!
# The reserves of foragers

A step feeds a forager from two cells at most, and a split leaves it with half of what it has.
So the energy of the living never exceeds what first foragers are given, the largest threshold
and what two cells of food were ever worth, and whoever lives through a tick has energy left.
-/

namespace Forage

variable {G : Type} {config : Config}

namespace Situation

variable {situation after : Situation}

/-- What a forager would have if it ate what lies underfoot. -/
def fed (config : Config) (situation : Situation) : Int :=
  (situation.eat config situation.forager.position).forager.energy

theorem energy_eat_le (valid : config.Valid) (situation : Situation) (cell : Cell) :
    (situation.eat config cell).forager.energy ≤ situation.forager.energy + config.energyPerFood := by
  have worth := valid.energyPerFood_nonneg
  unfold eat
  dsimp only
  split <;> omega

theorem energy_eat_of_notMem {cell : Cell} (inGrid : config.InGrid cell)
    (none : cell ∉ situation.ground.food) :
    (situation.eat config cell).forager.energy = situation.forager.energy := by
  have bare : situation.ground.ripe config cell = Option.none := by
    simp [Ground.ripe, Config.normalize_of_inGrid inGrid, Option.filter, none]
  unfold eat
  rw [Ground.harvest_eq, bare]
  exact Int.add_zero _

/-- A forager that has moved has eaten what lies underfoot; one that has not can eat it still. -/
theorem fed_move_le (valid : config.Valid) (situation : Situation) :
    (situation.move config).2.fed config ≤ situation.forager.energy + config.energyPerFood := by
  unfold move
  cases reached : situation.ahead config with
  | none => exact energy_eat_le valid situation _
  | some goal =>
      by_cases clear : situation.ground.isWalkable config goal
      · have inGrid : config.InGrid goal := valid.inGrid_of_normalize reached
        have eaten := notMem_food_eat situation inGrid
        simp only [clear, if_true]
        calc ((situation.eat config goal).settle goal).fed config
            = ((situation.eat config goal).settle goal).forager.energy :=
              energy_eat_of_notMem inGrid eaten
          _ ≤ situation.forager.energy + config.energyPerFood := energy_eat_le valid situation goal
      · simp only [clear]
        exact energy_eat_le valid situation _

theorem energy_move_le (valid : config.Valid) (situation : Situation) :
    (situation.move config).2.forager.energy ≤
      situation.forager.energy + config.energyPerFood := by
  have worth := valid.energyPerFood_nonneg
  unfold move
  cases situation.ahead config with
  | none => exact Int.le_add_of_nonneg_right worth
  | some goal =>
      by_cases clear : situation.ground.isWalkable config goal
      · simp only [clear, if_true]
        exact energy_eat_le valid situation goal
      · simp only [clear]
        exact Int.le_add_of_nonneg_right worth

/-- With what lies underfoot in the end an opcode brings the food of two cells at most. -/
theorem fed_perform_le (valid : config.Valid) (opcode : Opcode) (situation : Situation) :
    (situation.perform config opcode).2.fed config ≤
      situation.forager.energy + 2 * config.energyPerFood := by
  have worth := valid.energyPerFood_nonneg
  have still := energy_eat_le valid situation situation.forager.position
  cases opcode with
  | doubleMove =>
      have first := energy_move_le valid situation
      have second := fed_move_le valid (situation.move config).2
      simp only [perform]
      omega
  | move =>
      have moved := fed_move_le valid situation
      simp only [perform]
      omega
  | left | right | ifEntity | ifFood | ifWall | skip | skip2 | sleep =>
      refine Int.le_trans (energy_eat_le valid _ _) ?_
      simp only [perform, turn, Forager.turnLeft, Forager.turnRight]
      omega

theorem energy_step_le (valid : config.Valid) (taken : situation.step config = .ok after) :
    after.forager.energy ≤ situation.forager.energy + 2 * config.energyPerFood := by
  have free : 0 ≤ config.energyPerStep := (valid.admits .energyPerStep).1
  obtain ⟨opcode, middle, executed, rfl⟩ := step_eq_ok_iff.mp taken
  unfold execute at executed
  cases current : situation.forager.tape.current? with
  | none => simp [current] at executed
  | some opcode =>
      simp only [current, Except.ok.injEq, Prod.mk.injEq] at executed
      obtain ⟨-, rfl⟩ := executed
      have bound := fed_perform_le valid opcode situation
      have paid : (((situation.perform config opcode).2.fed config) - config.energyPerStep) ≤
          situation.forager.energy + 2 * config.energyPerFood := by omega
      exact paid

end Situation

namespace Pedigree

variable [WordSource G] {bound : Int}

theorem rears_lively (valid : config.Valid) :
    Rears G config (fun _ _ => True) (fun _ _ => True) fun _ forager => 1 ≤ forager.energy where
  step _ _ := trivial
  stay _ alive _ := alive
  halve _ fertile := valid.one_le_half fertile
  bear := by
    intro generation forager _ fertile source id
    have half := valid.one_le_half fertile
    have young : (forager.split config source).2.1.energy = forager.energy / 2 :=
      Forager.energy_split forager source
    rw [← young] at half
    exact half

/-- A split brings back below a bound what two cells of food have lifted above it. -/
theorem rears_bounded (valid : config.Valid) (threshold : config.reproductionThreshold ≤ bound)
    (worth : 2 * config.energyPerFood ≤ bound) :
    Rears G config (fun _ forager => forager.energy ≤ bound)
      (fun _ forager => forager.energy ≤ bound + 2 * config.energyPerFood)
      fun _ forager => forager.energy ≤ bound where
  step := by
    intro generation ground forager situation within taken
    have fed := Situation.energy_step_le valid taken
    dsimp only at fed
    omega
  stay := by
    intro generation forager _ alive barren
    have few : ¬config.reproductionThreshold < forager.energy := fun many => barren ⟨alive, many⟩
    omega
  halve := by
    intro generation forager within _
    have less : forager.energy / 2 ≤ bound := by omega
    exact less
  bear := by
    intro generation forager within _ source id
    have less : forager.energy / 2 ≤ bound := by omega
    have young : (forager.split config source).2.1.energy = forager.energy / 2 :=
      Forager.energy_split forager source
    rw [← young] at less
    exact less

end Pedigree

namespace World

/-- Whoever is alive after a tick has energy, whatever was done to the world before. -/
theorem Orderly.lively_tick [WordSource G] {world after : World G} {report : Report}
    (orderly : world.Orderly) (valid : world.config.Valid) (done : world.tick = .ok report after) :
    Lively after.foragers := by
  have rears : Pedigree.Rears G (Pedigree.begin world).world.config _ _ _ :=
    Pedigree.rears_lively valid
  have each := rears.each_tick valid orderly (fun _ _ _ _ => trivial) done
  have same : (Pedigree.begin world).tick.world = after := by
    rw [Pedigree.world_tick, Pedigree.begin, done, left]
  rw [Pedigree.each_iff, same] at each
  exact each

/-- Everyone has energy, and none has more than a bound of what can be had. -/
structure Supplied (bound : Int) (world : World G) : Prop where
  initialEnergy : world.config.initialEnergy ≤ bound
  threshold : world.config.reproductionThreshold ≤ bound
  worth : 2 * world.config.energyPerFood ≤ bound
  lively : Lively world.foragers
  bounded : ∀ forager ∈ world.foragers, forager.energy ≤ bound

theorem Supplied.of_kept {world after : World G} {bound higher : Int}
    (supplied : Supplied bound world) (kept : Kept world after) (more : bound ≤ higher) (threshold : after.config.reproductionThreshold ≤ higher)
    (worth : 2 * after.config.energyPerFood ≤ higher) : Supplied higher after := by
  have energy : after.config.initialEnergy = world.config.initialEnergy :=
    kept.tuned.fixed .initialEnergy rfl
  constructor
  · exact energy ▸ Int.le_trans supplied.initialEnergy more
  · exact threshold
  · exact worth
  · exact kept.foragers ▸ supplied.lively
  · rw [kept.foragers]
    exact fun forager listed => Int.le_trans (supplied.bounded forager listed) more

variable [SeededSource G]

/--
The worlds that come of the upkeep of one that was stocked, with the largest threshold and the
largest worth of food that have been in force on the way.
-/
inductive Tended (config : Config) : (threshold worth : Int) → World G → Prop where
  | create (valid : config.Valid) (source : G) {world} :
      World.create config source = .ok world →
      Tended config config.reproductionThreshold config.energyPerFood world
  | perform {threshold worth world} {deed : Deed} (upkeep : deed.Upkeep) :
      Tended config threshold worth world →
      Tended config (max threshold (world.perform deed).config.reproductionThreshold)
        (max worth (world.perform deed).config.energyPerFood) (world.perform deed)

variable {threshold worth : Int} {world : World G}

theorem Tended.reachable (tended : Tended config threshold worth world) : world.Reachable := by
  induction tended with
  | create valid source created => exact .create valid source created
  | @perform threshold worth world deed _ _ inductionHypothesis =>
      exact inductionHypothesis.perform deed

namespace Supplied

variable {bound higher : Int}

theorem of_founded (valid : config.Valid) (founded : world.Founded config)
    (initialEnergy : config.initialEnergy ≤ bound) (threshold : config.reproductionThreshold ≤ bound)
    (worth : 2 * config.energyPerFood ≤ bound) : Supplied bound world := by
  have given : ∀ forager ∈ world.foragers, forager.energy = config.initialEnergy :=
    fun forager listed => (founded.first forager listed).energy
  constructor
  · rwa [founded.config]
  · rwa [founded.config]
  · rwa [founded.config]
  · intro forager listed
    rw [given forager listed]
    exact (valid.admits .initialEnergy).1
  · intro forager listed
    rwa [given forager listed]

theorem tick (supplied : Supplied bound world) (sound : world.Sound) :
    Supplied bound (world.perform .tick) := by
  obtain ⟨marched, report, after, -, -, done, ticked, -⟩ := sound.tick
  have next : world.perform .tick = after := by rw [perform, done, left]
  have rears : Pedigree.Rears G (Pedigree.begin world).world.config _ _ _ :=
    Pedigree.rears_bounded sound.valid supplied.threshold supplied.worth
  have each := rears.each_tick sound.valid sound.enrolled.orderly
    (Pedigree.each_iff.mpr supplied.bounded) done
  rw [Pedigree.each_iff, Pedigree.world_tick, Pedigree.begin, done, left] at each
  rw [next]
  constructor
  · exact ticked.config ▸ supplied.initialEnergy
  · exact ticked.config ▸ supplied.threshold
  · exact ticked.config ▸ supplied.worth
  · exact ticked.lively sound.valid
  · exact each

/-- Upkeep keeps a world supplied, as long as the bound rises with what is in force. -/
theorem perform (supplied : Supplied bound world) (sound : world.Sound) {deed : Deed}
    (upkeep : deed.Upkeep) (more : bound ≤ higher)
    (threshold : (world.perform deed).config.reproductionThreshold ≤ higher)
    (worth : 2 * (world.perform deed).config.energyPerFood ≤ higher) :
    Supplied higher (world.perform deed) := by
  cases deed with
  | tick =>
      have next := supplied.tick sound
      exact {
        initialEnergy := Int.le_trans next.initialEnergy more
        threshold := threshold
        worth := worth
        lively := next.lively
        bounded := fun forager listed => Int.le_trans (next.bounded forager listed) more }
  | reset seed =>
      have anew : (world.perform (.reset seed)).Founded world.config := .reset sound.valid seed
      rw [anew.config] at threshold worth
      exact of_founded sound.valid anew (Int.le_trans supplied.initialEnergy more) threshold worth
  | place => exact False.elim upkeep
  | act => exact False.elim upkeep
  | _ =>
      exact supplied.of_kept (kept_perform sound.valid upkeep (by simp) (by simp)) more threshold worth

end Supplied

/-- What first foragers are given, the largest threshold, and what two cells of food are worth. -/
def reserve (config : Config) (threshold worth : Int) : Int :=
  max config.initialEnergy (max threshold (2 * worth))

theorem Tended.supplied (tended : Tended config threshold worth world) :
    Supplied (reserve config threshold worth) world := by
  induction tended with
  | create valid source created =>
      apply Supplied.of_founded valid (.create valid created) <;> rw [reserve] <;> omega
  | perform upkeep tended inductionHypothesis =>
      apply inductionHypothesis.perform tended.reachable.sound upkeep <;> rw [reserve]
      · rw [reserve]
        omega
      · omega
      · omega

theorem Tended.limits (tended : Tended config threshold worth world) :
    config.initialEnergy ≤ 1000000 ∧ threshold ≤ 1000000 ∧ worth ≤ 100 := by
  induction tended with
  | create valid source created =>
      exact ⟨(valid.admits .initialEnergy).2, (valid.admits .reproductionThreshold).2,
        (valid.admits .energyPerFood).2⟩
  | @perform threshold worth world deed upkeep tended inductionHypothesis =>
      have valid := (tended.reachable.perform deed).sound.valid
      obtain ⟨energy, before, food⟩ := inductionHypothesis
      exact ⟨energy, max_le before (valid.admits .reproductionThreshold).2,
        max_le food (valid.admits .energyPerFood).2⟩

/--
Whatever is done for the upkeep of a world that was stocked, each of the living has energy,
and no more than first foragers are given, than the largest threshold so far, or than two
cells of food were ever worth; so none has more than a million. After a tick everyone has
energy from whatever world it started, as long as nobody was listed there twice and the next
number was that of nobody.
-/
theorem Tended.energies (tended : Tended config threshold worth world) :
    (∀ forager ∈ world.foragers, 1 ≤ forager.energy ∧
      forager.energy ≤ max config.initialEnergy (max threshold (2 * worth)) ∧
      forager.energy ≤ 1000000) ∧
    (∀ (other : World G) report after, other.config.Valid → other.Orderly →
      other.tick = .ok report after → ∀ forager ∈ after.foragers, 1 ≤ forager.energy) := by
  constructor
  · intro forager listed
    have within := tended.supplied.bounded forager listed
    obtain ⟨energy, most, food⟩ := tended.limits
    refine ⟨tended.supplied.lively forager listed, within, Int.le_trans within ?_⟩
    rw [reserve]
    omega
  · intro other report after valid orderly done
    exact orderly.lively_tick valid done

/-- An example: of three foragers that were let in by hand two have no energy. -/
def infirmary : World Twister :=
  [Deed.place ⟨0, 0⟩ .up [.sleep] 0 (some 0),
    .place ⟨1, 0⟩ .up [.sleep] 0 (some (-5)),
    .place ⟨2, 0⟩ .up [.sleep] 0 (some 3)].foldl World.perform
      (World.empty { Config.hamlet with regrowthRate := 0 } Twister.still)

theorem reachable_infirmary : infirmary.Reachable :=
  (Reachable.empty ⟨fun parameter => by cases parameter <;> decide, rfl⟩ _).foldl _

theorem energies_hamlet :
    ∃ threshold worth, ∃ world after : World Twister, ∃ report,
      Tended Config.hamlet threshold worth world ∧
      world.foragers.map Forager.energy = [99, 99] ∧
      (∀ forager ∈ world.foragers, 1 ≤ forager.energy ∧ forager.energy ≤ 1000000) ∧
      infirmary.config.Valid ∧ infirmary.Orderly ∧ infirmary.tick = .ok report after ∧
      after.foragers.map Forager.energy = [2] ∧
      ∀ forager ∈ after.foragers, 1 ≤ forager.energy := by
  obtain ⟨world, created, checked⟩ := @World.exists_created _ _ Config.hamlet Twister.still
    (fun world => (world.perform .tick).foragers.map Forager.energy == [99, 99])
    (by decide +kernel)
  have tended : Tended Config.hamlet _ _ (world.perform .tick) :=
    (Tended.create Config.valid_hamlet _ created).perform trivial
  have sound := reachable_infirmary.sound
  obtain ⟨marched, report, after, -, -, done, -, -⟩ := sound.tick
  have left : (left infirmary.tick).foragers.map Forager.energy = [2] := by decide +kernel
  rw [done] at left
  obtain ⟨bounds, lively⟩ := tended.energies
  refine ⟨_, _, _, after, report, tended, beq_iff_eq.mp checked, ?_, sound.valid,
    sound.enrolled.orderly, done, left, ?_⟩
  · intro forager listed
    obtain ⟨least, -, most⟩ := bounds forager listed
    exact ⟨least, most⟩
  · exact lively _ report after sound.valid sound.enrolled.orderly done

/-- A configuration whose foragers pay nothing for a step and split with two units of energy. -/
def frugal : Config :=
  { Config.hamlet with reproductionThreshold := 1, energyPerStep := 0, regrowthRate := 0 }

def twin : Forager :=
  ⟨Forager.outsider, 2, ⟨0, 0⟩, .up, .ofList [.sleep]⟩

/-- An example: one forager that was let in twice. -/
def doubled : World Twister :=
  ((World.empty frugal Twister.still).letIn twin).letInAgain 0 twin

/-- Whoever is listed twice splits twice in a tick, and may have no energy left. -/
theorem energies_doubled :
    (World.empty frugal Twister.still).add twin >>= (fun world => world.addAgain 0 twin) =
        .ok doubled ∧
      doubled.config.Valid ∧
      ∃ report after, doubled.tick = .ok report after ∧
        ∃ forager ∈ after.foragers, forager.energy = 0 := by
  refine ⟨rfl, ⟨fun parameter => by cases parameter <;> decide, rfl⟩, ?_⟩
  have checked : (match doubled.tick with
      | .ok _ after => decide (∃ forager ∈ after.foragers, forager.energy = 0)
      | .error _ _ => false) = true := by decide +kernel
  cases done : doubled.tick with
  | ok report after =>
      rw [done] at checked
      exact ⟨report, after, rfl, of_decide_eq_true checked⟩
  | error fault after => simp [done] at checked

end World

end Forage
