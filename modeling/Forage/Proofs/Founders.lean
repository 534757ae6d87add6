import Forage.Proofs.Sound

/-!
# First foragers

Whoever is in a world that was just stocked is one of its first foragers: it has the energy
that the configuration gives to those, and a tape as they are given.
-/

namespace Forage

variable {G : Type} {config : Config}

section Stock

variable [WordSource G]

/-- A forager as a stocked world has them. -/
structure Forager.First (G : Type) [WordSource G] (config : Config) (forager : Forager) : Prop where
  energy : forager.energy = config.initialEnergy
  tape : ∃ source rest : G, config.drawTape source = .ok (forager.tape, rest)

namespace World

variable {world : World G}

/-- Nobody but first foragers is in the world. -/
structure Founded (config : Config) (world : World G) : Prop where
  enrolled : world.Enrolled
  first : ∀ forager ∈ world.foragers, forager.First G config
  config : world.config = config
  step : world.step = 0

namespace Founded

theorem welcome (founded : world.Founded config) : (left (welcome world)).Founded config := by
  have drawn (source : G) : ({ world with source } : World G).Enrolled :=
    founded.enrolled.of_roll rfl rfl rfl
  unfold World.welcome
  dsimp only
  split
  · exact ⟨drawn _, founded.first, founded.config, founded.step⟩
  · next taped =>
      refine ⟨(drawn _).letIn _, ?_, founded.config, founded.step⟩
      rw [left, (drawn _).foragers_letIn, List.forall_mem_append, List.forall_mem_singleton]
      refine ⟨founded.first, ?_, ?_⟩
      · exact congrArg Config.initialEnergy founded.config
      · rw [founded.config] at taped
        exact Exists.intro _ (Exists.intro _ taped)

theorem populate (founded : world.Founded config) (count : Nat) :
    (left (populate count world)).Founded config :=
  populate_keeps welcome founded count

theorem stock (valid : config.Valid) (source : G) :
    (left (stock (World.empty config source))).Founded config := by
  obtain ⟨food, walls, rest, stocked⟩ := exists_stock_eq valid source
  rw [stocked]
  apply Founded.populate
  refine ⟨(Enrolled.empty config source).of_roll rfl rfl rfl, ?_, rfl, rfl⟩
  simp [foragers, World.empty]

theorem create (valid : config.Valid) {source : G} (created : create config source = .ok world) :
    world.Founded config := by
  have stocked := Founded.stock valid source
  unfold World.create at created
  cases done : World.stock (World.empty config source) with
  | ok value middle =>
      rw [done] at created stocked
      obtain rfl := Except.ok.inj created
      exact stocked
  | error fault middle => simp [done] at created

end Founded

end World

end Stock

theorem World.Founded.reset [SeededSource G] {world : World G} (valid : world.config.Valid)
    (seed : Option Int) : (World.left (World.reset seed world)).Founded world.config :=
  World.Founded.stock valid _

theorem World.exists_created [WordSource G] {config : Config} {source : G} {checks : World G → Bool}
    (passed : (match World.create config source with
      | .ok world => checks world
      | .error _ => false) = true) :
    ∃ world, World.create config source = .ok world ∧ checks world = true := by
  cases created : World.create config source with
  | ok world =>
      rw [created] at passed
      exact ⟨world, rfl, passed⟩
  | error fault => simp [created] at passed

/-- An example: a world so small and so rich that its only forager splits at once. -/
def Config.hamlet : Config :=
  { Config.default with
    width := 4
    height := 3
    initialFoodPercent := 0
    initialEnergy := 200
    mutationRate := 100
    vocabulary := .basic
    initialOpcodes := none
    randomLength := .whole 2 }

theorem Config.valid_hamlet : Config.hamlet.Valid :=
  ⟨fun parameter => by cases parameter <;> decide, rfl⟩

end Forage
