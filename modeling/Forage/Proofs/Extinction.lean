import Forage.Proofs.Founders
import Forage.Proofs.Ledger

/-!
# Extinction without growth

Where no food grows and every step costs something, a population dies out. The
energy of the living together with that of the food they could eat is a potential:
each tick lowers it by at least one for everyone who was alive.
-/

namespace Forage

/-- Everyone on a list has energy. -/
def Lively (foragers : List Forager) : Prop :=
  ∀ forager ∈ foragers, 1 ≤ forager.energy

theorem Lively.length_le {foragers : List Forager} (lively : Lively foragers) :
    (foragers.length : Int) ≤ totalEnergy foragers := by
  induction foragers with
  | nil => simp
  | cons forager foragers inductionHypothesis =>
      obtain ⟨first, others⟩ := List.forall_mem_cons.mp lively
      have := inductionHypothesis others
      rw [List.length_cons, totalEnergy_cons]
      omega

namespace Config

variable {config : Config}

theorem Valid.energyPerFood_nonneg (valid : config.Valid) : 0 ≤ config.energyPerFood :=
  (valid.admits .energyPerFood).1

theorem Valid.one_le_half (valid : config.Valid) {forager : Forager}
    (fertile : forager.Fertile config) : 1 ≤ forager.energy / 2 := by
  have threshold : 1 ≤ config.reproductionThreshold :=
    (valid.admits .reproductionThreshold).1
  have enough := fertile.2
  omega

theorem Valid.lively_spent (valid : config.Valid) (stepped : List Forager) :
    Lively ((survivors stepped).map (Forager.spent config)) := by
  intro forager listed
  obtain ⟨survivor, lives, rfl⟩ := List.mem_map.mp listed
  have alive : survivor.Alive := by simpa using (List.mem_filter.mp lives).2
  unfold Forager.spent
  split
  case isTrue fertile => exact valid.one_le_half fertile
  case isFalse => exact alive

theorem Valid.lively_brood {G : Type} [WordSource G] (valid : config.Valid) (source : G) (id : Nat)
    {parents : List Forager} (fertile : ∀ parent ∈ parents, parent.Fertile config) :
    Lively (config.brood source id parents).1 := by
  induction parents generalizing source id with
  | nil => simp [Lively, brood]
  | cons parent parents inductionHypothesis =>
      obtain ⟨first, others⟩ := List.forall_mem_cons.mp fertile
      rw [Lively, brood, List.forall_mem_cons]
      refine ⟨?_, inductionHypothesis _ _ others⟩
      have half := valid.one_le_half first
      have young : (parent.split config source).2.1.energy = parent.energy / 2 :=
        Forager.energy_split parent source
      rw [← young] at half
      exact half

end Config

namespace World

variable {G : Type} {world before after marched : World G} {meals : List (Nat × Finset Cell)}

/-- The energy of the living and of what they could eat. -/
def potential (world : World G) : Int :=
  totalEnergy world.foragers + world.config.energyPerFood * world.ground.food.size

/-- No food grows, and no step is free. -/
structure Closed (world : World G) : Prop where
  regrowthRate : world.config.regrowthRate = 0
  energyPerStep : 1 ≤ world.config.energyPerStep

/--
Those who survive their turns have at least one less than they had, all told and
not counting what they ate. Whoever dies had the one that is missing.
-/
theorem Turns.totalEnergy_survivors_le (turns : Turns before meals after)
    (distinct : (meals.map Prod.fst).Nodup) (worth : 0 ≤ before.config.energyPerFood)
    (costly : 1 ≤ before.config.energyPerStep)
    (lively : Lively (called before.records (meals.map Prod.fst))) :
    totalEnergy (survivors (called after.records (meals.map Prod.fst))) ≤
      totalEnergy (called before.records (meals.map Prod.fst)) +
        before.config.energyPerFood * servings meals -
        meals.length := by
  induction turns with
  | nil => simp [survivors]
  | @cons before middle after key meal meals first rest inductionHypothesis =>
      obtain ⟨apart, distinct⟩ := List.nodup_cons.mp distinct
      obtain ⟨hungry, fed, found, left, energy⟩ := first.paid
      obtain ⟨earlier, later, same⟩ := called_cons_eq apart first rest found left
      rw [List.map_cons, earlier] at lively
      obtain ⟨alive, others⟩ := List.forall_mem_cons.mp lively
      rw [first.config, same] at inductionHypothesis
      have remaining := inductionHypothesis distinct worth costly others
      have gain : 0 ≤ before.config.energyPerFood * (meal.card : Int) :=
        Int.mul_nonneg worth (Int.natCast_nonneg _)
      rw [List.map_cons, earlier, later, totalEnergy_cons]
      simp only [servings_cons, List.length_cons, survivors, List.filter_cons,
        Forager.Alive] at remaining ⊢
      push_cast
      rw [Int.mul_add]
      split
      · rw [totalEnergy_cons]
        omega
      · omega

theorem population_le_potential (sound : world.Sound) (lively : Lively world.foragers) :
    (world.population : Int) ≤ world.potential := by
  have living := lively.length_le
  have edible : 0 ≤ world.config.energyPerFood * (world.ground.food.size : Int) :=
    Int.mul_nonneg sound.valid.energyPerFood_nonneg (Int.natCast_nonneg _)
  rw [sound.enrolled.length_foragers] at living
  rw [potential]
  omega

section Wane

variable [WordSource G]

theorem grown_of_closed (valid : world.config.Valid) (closed : world.Closed) : world.grown = ∅ := by
  obtain ⟨food, source, countdown, opened⟩ := exists_opened valid
  rw [grown, opened.eq, opened.closed closed.regrowthRate]
  exact Finset.sdiff_self _

theorem Ticked.lively {report : Report} {ground : Ground} {stepped : List Forager}
    (ticked : Ticked world ground stepped report after) (valid : world.config.Valid) :
    Lively after.foragers := by
  rw [Lively, ticked.foragers, List.forall_mem_append]
  refine ⟨valid.lively_spent stepped, valid.lively_brood _ _ ?_⟩
  intro parent listed
  simpa using (List.mem_filter.mp listed).2

/-- What a tick does to a closed world in which everyone has energy. -/
structure Waned (world after : World G) : Prop where
  sound : after.Sound
  closed : after.Closed
  lively : Lively after.foragers
  potential : after.potential ≤ world.potential - world.population
  empty : world.population = 0 → after.population = 0

theorem Sound.wane (sound : world.Sound) (closed : world.Closed) (lively : Lively world.foragers) :
    ∃ report after, world.tick = .ok report after ∧ Waned world after := by
  have valid := sound.valid
  obtain ⟨meals, marched, report, after, cohort, turns, march, standing, live, done, ticked,
    afterSound⟩ := sound.tick_turns
  refine ⟨report, after, done, afterSound, ?_, ticked.lively valid, ?_, ?_⟩
  · constructor
    · rw [ticked.config]
      exact closed.regrowthRate
    · rw [ticked.config]
      exact closed.energyPerStep
  · have config : world.opened.config = world.config := config_opened valid
    have before := sound.called_opened cohort
    have bound := turns.totalEnergy_survivors_le (cohort ▸ sound.enrolled.nodup)
      (config ▸ valid.energyPerFood_nonneg) (config ▸ closed.energyPerStep) (before ▸ lively)
    rw [before, called_marched cohort live, turns.servings_eq, config, length_cohort cohort] at bound
    have settled := totalEnergy_ticked valid ticked
    have food := size_food_add_eaten valid marched (march.food_subset valid)
    rw [grown_of_closed valid closed, eaten, Finset.card_empty] at food
    rw [potential, potential, ticked.config, ticked.food, food, settled]
    push_cast
    rw [Int.mul_sub, Int.add_zero]
    omega
  · intro nobody
    have none : world.foragers = [] := by
      rw [← List.length_eq_zero_iff, sound.enrolled.length_foragers, nobody]
    rw [none] at march
    rw [← ticked.enrolled.length_foragers, ticked.foragers, march.eq_nil]
    rfl

/-- Ticks of a closed world: it stays one, and its potential pays for every tick with anyone in it. -/
theorem Sound.wanes (sound : world.Sound) (closed : world.Closed) (lively : Lively world.foragers)
    (count : Nat) :
    ∃ reports after, ticks count world = .ok reports after ∧
      after.Sound ∧ after.Closed ∧ Lively after.foragers ∧
      after.potential ≤ world.potential ∧
      (world.population = 0 → after.population = 0) ∧
      (after.population = 0 ∨ after.potential + count ≤ world.potential) := by
  induction count generalizing world with
  | zero =>
      exact ⟨[], world, rfl, sound, closed, lively, Int.le_refl _, id, .inr (by simp)⟩
  | succ count inductionHypothesis =>
      obtain ⟨report, middle, done, waned⟩ := sound.wane closed lively
      obtain ⟨reports, after, others, afterSound, afterClosed, afterLively, less, absorbed, spent⟩ :=
        inductionHypothesis waned.sound waned.closed waned.lively
      have paid := waned.potential
      refine ⟨report :: reports, after, ?_, afterSound, afterClosed, afterLively, ?_, ?_, ?_⟩
      · simp only [ticks, done, others]
      · omega
      · exact absorbed ∘ waned.empty
      · rcases spent with extinct | spent
        · exact .inl extinct
        · rcases Nat.eq_zero_or_pos world.population with nobody | somebody
          · exact .inl (absorbed (waned.empty nobody))
          · right
            push_cast
            omega

theorem lively_create {config : Config} (valid : config.Valid) {source : G} {created : World G}
    (done : create config source = .ok created) : Lively created.foragers := by
  intro forager listed
  rw [((Founded.create valid done).first forager listed).energy]
  exact (valid.admits .initialEnergy).1

end Wane

variable [SeededSource G]

/--
Everyone has energy in a world that was just created and after every tick. If
nothing grows and no step is free, each tick from then on lowers the potential by
the number of those who were alive: nobody is left once as many ticks have passed
as the potential was worth.
-/
theorem Reachable.extinction (reachable : world.Reachable) :
    (∀ (config : Config) source created, config.Valid →
      World.create config source = .ok (created : World G) → Lively created.foragers) ∧
    (∀ report after, world.tick = .ok report after → Lively after.foragers) ∧
    (world.Closed → Lively world.foragers → ∀ count, ∃ reports after,
      ticks count world = .ok reports after ∧
      (∃ report next, after.tick = .ok report next ∧
        next.potential ≤ after.potential - after.population) ∧
      (after.population : Int) ≤ world.potential ∧
      (world.potential ≤ count → after.population = 0)) := by
  have sound := reachable.sound
  refine ⟨fun _ _ _ valid done => lively_create valid done, ?_, ?_⟩
  · intro report after done
    obtain ⟨marched, _, _, -, -, result, ticked, -⟩ := sound.tick
    obtain ⟨rfl, rfl⟩ := EStateM.Result.ok.inj (result.symm.trans done)
    exact ticked.lively sound.valid
  · intro closed lively count
    obtain ⟨reports, after, done, afterSound, afterClosed, afterLively, less, -, spent⟩ :=
      sound.wanes closed lively count
    have bound := population_le_potential afterSound afterLively
    refine ⟨reports, after, done, ?_, Int.le_trans bound less, ?_⟩
    · obtain ⟨report, next, result, waned⟩ := afterSound.wane afterClosed afterLively
      exact ⟨report, next, result, waned.potential⟩
    · intro enough
      rcases spent with extinct | spent
      · exact extinct
      · omega

theorem extinction_company :
    company.Reachable ∧ company.Closed ∧ Lively company.foragers ∧ company.potential = 18 ∧
      ∃ reports after, ticks 18 company = .ok reports after ∧ after.population = 0 := by
  have closed : company.Closed := ⟨by decide +kernel, by decide +kernel⟩
  have lively : Lively company.foragers := by
    unfold Lively
    decide +kernel
  have potential : company.potential = 18 := by decide +kernel
  obtain ⟨-, -, wanes⟩ := Reachable.extinction reachable_company
  obtain ⟨reports, after, done, -, -, extinct⟩ := wanes closed lively 18
  exact ⟨reachable_company, closed, lively, potential, reports, after, done,
    extinct (Int.le_of_eq potential)⟩

end World

end Forage
