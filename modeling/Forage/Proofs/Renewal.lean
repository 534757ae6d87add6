import Forage.Proofs.Founders
import Forage.Proofs.Numbers
import Forage.Proofs.Script
import Forage.Proofs.Unfailing
import Forage.Run

/-!
# Worlds that are made anew

A world that is made anew from a seed keeps its configuration, as it is by then, and nothing
else: not its food and walls, its foragers and where they stand, not its clocks, its numbers or
what its source has come to. It is then the world that would be created with that configuration
and seed, and whatever is done to the two of them, no difference comes up.
-/

namespace Forage

namespace World

variable {G : Type}

theorem clear_eq_empty (world : World G) :
    world.clear = World.empty world.config world.source := rfl

section Stock

variable [WordSource G] {config : Config} {world after fresh : World G} {source : G} {fault : Fault}

theorem create_eq_ok_iff :
    create config source = .ok fresh ↔ stock (World.empty config source) = .ok () fresh := by
  unfold create
  cases stock (World.empty config source) <;> simp

theorem create_eq_error_iff :
    create config source = .error fault ↔
      ∃ broken, stock (World.empty config source) = .error fault broken := by
  unfold create
  cases stock (World.empty config source) <;> simp

theorem population_populate {count : Nat} (done : populate count world = .ok () after) :
    after.population = world.population + count := by
  induction count generalizing world with
  | zero =>
      obtain ⟨-, rfl⟩ := EStateM.Result.ok.inj done
      rfl
  | succ count inductionHypothesis =>
      unfold populate at done
      cases welcomed : welcome world with
      | error fault broken => simp [welcomed] at done
      | ok value middle =>
          simp only [welcomed] at done
          have one : middle.population = world.population + 1 := by
            unfold welcome at welcomed
            dsimp only at welcomed
            split at welcomed
            · cases welcomed
            · obtain ⟨-, rfl⟩ := EStateM.Result.ok.inj welcomed
              exact Array.size_push _
          rw [inductionHypothesis done, one]
          omega

theorem countdown_welcome (world : World G) :
    (left (welcome world)).countdown = world.countdown := by
  unfold welcome
  dsimp only
  split <;> rfl

theorem countdown_stock (valid : config.Valid) (source : G) :
    (left (stock (World.empty config source))).countdown = 0 := by
  obtain ⟨food, walls, rest, stocked⟩ := exists_stock_eq valid source
  rw [stocked]
  apply @populate_keeps _ _ _ fun world => world.countdown = 0
  · exact fun waiting => (countdown_welcome _).trans waiting
  · rfl

/-- A world with nobody in it yet but its first foragers, before its first tick. -/
structure Begun (world : World G) : Prop where
  step : world.step = 0
  countdown : world.countdown = 0
  ids : world.ids = (List.range world.config.initialPopulation.toNat).map Int.ofNat
  nextId : world.nextId = world.config.initialPopulation.toNat

theorem begun_stock (valid : config.Valid)
    (done : stock (World.empty config source) = .ok () after) : after.Begun := by
  have founded := Founded.stock valid source
  have unbroken := unbroken_stock valid source
  have waiting := countdown_stock valid source
  obtain ⟨food, walls, rest, stocked⟩ := exists_stock_eq valid source
  have population := population_populate (stocked.symm.trans done)
  rw [done, left] at founded unbroken waiting
  have nextId : after.nextId = config.initialPopulation.toNat := by
    rw [← unbroken.population_eq]
    simpa [World.empty, World.population] using population
  constructor
  · exact founded.step
  · exact waiting
  · rw [unbroken.ids_eq founded.enrolled, founded.config]
    exact congrArg (fun count => (List.range count).map Int.ofNat) nextId
  · rw [founded.config]
    exact nextId

end Stock

variable [SeededSource G] {world : World G}

/-- Two worlds that are the same in all of their parts and to all that may be done to them. -/
structure Coincide (world other : World G) : Prop where
  config : world.config = other.config
  food : world.ground.food = other.ground.food
  walls : world.ground.walls = other.ground.walls
  foragers : world.foragers = other.foragers
  crowd : world.ground.crowd = other.ground.crowd
  step : world.step = other.step
  countdown : world.countdown = other.countdown
  nextId : world.nextId = other.nextId
  source : world.source = other.source
  deeds : ∀ deeds : List Deed, deeds.foldl perform world = deeds.foldl perform other
  ticks : ∀ count, World.ticks count world = World.ticks count other
  runs : ∀ plan disk, Run.perform plan world disk = Run.perform plan other disk

theorem Coincide.refl (world : World G) : Coincide world world := by
  constructor <;> intros <;> rfl

/-- To make a world anew from a seed is to stock an empty one with the same configuration. -/
theorem reset_some_eq_stock (world : World G) (seed : Int) :
    reset (some seed) world = stock (World.empty world.config (SeededSource.ofSeed seed)) := by
  rw [reset, clear_eq_empty]

/-- What comes of a world that is made anew from a seed. -/
structure Renewed (world : World G) (seed : Int) : Prop where
  /-- Where tapes can be given out, or none are needed, it is what would be created. -/
  created : world.config.Equips ∨ world.config.initialPopulation = 0 →
    ∃ fresh after, create world.config (SeededSource.ofSeed seed) = .ok fresh ∧
      reset (some seed) world = .ok () after ∧ Coincide after fresh ∧ after.Begun
  /-- Elsewhere nothing would be created either, and the fault is the same. -/
  failed : ∀ fault, (∃ broken, reset (some seed) world = .error fault broken) ↔
    create world.config (SeededSource.ofSeed seed : G) = .error fault
  /-- Nothing but the configuration has a part in it. -/
  forgets : ∀ other : World G, other.config = world.config →
    reset (some seed) other = reset (some seed) world

/--
Whatever has been done to a world, when it is made anew from a seed it is the world that would
be created from that seed and the configuration that it has by then.
-/
theorem Reachable.renewal (reachable : world.Reachable) (seed : Int) : world.Renewed seed := by
  have sound := reachable.sound
  constructor
  · intro equips
    obtain ⟨after, done, -⟩ := (sound.reset_eq_ok_iff (some seed)).mpr equips
    have stocked := done
    rw [reset_some_eq_stock] at stocked
    exact ⟨after, after, create_eq_ok_iff.mpr stocked, done, .refl after,
      begun_stock sound.valid stocked⟩
  · intro fault
    rw [reset_some_eq_stock, create_eq_error_iff]
  · intro other same
    rw [reset_some_eq_stock, reset_some_eq_stock, same]

/-- An example: a world that has ticked twice, let five foragers in and been tuned in between. -/
def veteran : World Script :=
  [Deed.update [(Parameter.regrowthRate.name, .whole 1)], .addWall ⟨2, 2⟩, .addFood ⟨4, 4⟩,
    .place ⟨0, 0⟩ .up [.sleep] 0 (some 1), .place ⟨4, 3⟩ .down [.move] 0 (some 300), .tick,
    .act 1 .turnLeft, .update [(Parameter.energyPerStep.name, .whole 3)], .tick].foldl perform
      (World.empty Config.default (SeededSource.ofSeed 5))

theorem reachable_veteran : veteran.Reachable :=
  (Reachable.empty Config.valid_default _).foldl _

theorem renewal_veteran :
    veteran.Reachable ∧ veteran.step = 2 ∧ veteran.countdown = 9 ∧ veteran.nextId = 5 ∧
      veteran.config.energyPerStep = 3 ∧
      ∃ fresh after, create veteran.config (SeededSource.ofSeed 8) = .ok fresh ∧
        reset (some 8) veteran = .ok () after ∧ Coincide after fresh ∧ after.Begun := by
  have equips : veteran.config.Equips := by decide +kernel
  exact ⟨reachable_veteran, by decide +kernel, by decide +kernel, by decide +kernel,
    by decide +kernel, (Reachable.renewal reachable_veteran 8).created (.inl equips)⟩

end World

end Forage
