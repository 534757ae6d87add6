import Forage.Proofs.Turns

/-!
# The ledger of a tick

Food comes from growth alone and goes by being eaten; energy comes from food alone
and goes by steps, by deaths and by the odd unit that is lost in halving. A tick
keeps exact accounts of both.
-/

namespace Forage

section Split

variable {G : Type} [WordSource G] {config : Config}

theorem Forager.energy_split (parent : Forager) (source : G) :
    (parent.split config source).2.1.energy = parent.energy / 2 := by
  unfold split
  rfl

theorem Config.totalEnergy_brood (source : G) (id : Nat) (parents : List Forager) :
    totalEnergy (config.brood source id parents).1 = totalEnergy (parents.map Forager.halved) := by
  induction parents generalizing source id with
  | nil => rfl
  | cons parent parents inductionHypothesis =>
      rw [brood, totalEnergy_cons, List.map_cons, totalEnergy_cons, inductionHypothesis,
        Forager.energy_split]
      rfl

/-- The parents of a cohort whose energy is not halved evenly. -/
def Config.oddParents (config : Config) (stepped : List Forager) : List Forager :=
  stepped.filter fun forager =>
    config.reproductionThreshold < forager.energy ∧ forager.energy % 2 = 1

theorem totalEnergy_survivors_add_fallen (stepped : List Forager) :
    totalEnergy (survivors stepped) + totalEnergy (fallen stepped) = totalEnergy stepped := by
  induction stepped with
  | nil => rfl
  | cons forager stepped inductionHypothesis =>
      simp only [survivors, fallen, List.filter_cons] at inductionHypothesis ⊢
      by_cases alive : forager.Alive
      · simp [alive] at inductionHypothesis ⊢
        omega
      · simp [alive] at inductionHypothesis ⊢
        omega

theorem Config.Valid.totalEnergy_settled (valid : config.Valid) (stepped : List Forager) :
    totalEnergy ((survivors stepped).map (Forager.spent config)) +
        totalEnergy ((config.parents stepped).map Forager.halved) =
      totalEnergy (survivors stepped) - (config.oddParents stepped).length := by
  have threshold : 1 ≤ config.reproductionThreshold :=
    (valid.admits .reproductionThreshold).1
  induction stepped with
  | nil => rfl
  | cons forager stepped inductionHypothesis =>
      simp only [survivors, Config.parents, oddParents, List.filter_cons, Forager.Fertile,
        Forager.Alive] at inductionHypothesis ⊢
      by_cases alive : 0 < forager.energy
      · by_cases fertile : config.reproductionThreshold < forager.energy
        · by_cases odd : forager.energy % 2 = 1 <;>
            simp [alive, fertile, odd, Forager.spent, Forager.Fertile, Forager.Alive,
              Forager.halved] at inductionHypothesis ⊢ <;>
            omega
        · simp [alive, fertile, Forager.spent, Forager.Fertile] at inductionHypothesis ⊢
          omega
      · have barren : ¬config.reproductionThreshold < forager.energy := by omega
        simp [alive, barren] at inductionHypothesis ⊢
        omega

end Split

namespace World

variable {G : Type} {world marched after : World G} {report : Report}
  {meals : List (Nat × Finset Cell)}

section Accounts

variable [WordSource G]

/-- The food that grows at the start of the next tick. -/
def grown (world : World G) : Finset Cell :=
  CellSet.members world.opened.ground.food \ CellSet.members world.ground.food

/-- The food that is gone when a cohort has marched. -/
def eaten (world marched : World G) : Finset Cell :=
  CellSet.members world.opened.ground.food \ CellSet.members marched.ground.food

theorem Ticked.food (ticked : Ticked world marched.ground marched.foragers report after) :
    after.ground.food = marched.ground.food := by
  rw [ticked.ground, Ground.food_foldl_occupy, Ground.food_foldl_vacate]

/-- Food after a tick is what there was, with what has grown and without what was eaten. -/
theorem size_food_add_eaten (valid : world.config.Valid) (marched : World G)
    (less : CellSet.members marched.ground.food ⊆ CellSet.members world.opened.ground.food) :
    (marched.ground.food.size : Int) =
      world.ground.food.size + world.grown.card - (world.eaten marched).card := by
  obtain ⟨food, source, countdown, opened⟩ := exists_opened valid
  have more : CellSet.members world.ground.food ⊆ CellSet.members world.opened.ground.food := by
    rw [opened.eq]
    exact opened.more
  have growth := Finset.card_sdiff_of_subset more
  have meals := Finset.card_sdiff_of_subset less
  have := Finset.card_le_card more
  have := Finset.card_le_card less
  rw [grown, eaten, growth, meals, ← CellSet.card_members, ← CellSet.card_members]
  omega

theorem totalEnergy_ticked (valid : world.config.Valid) {stepped : List Forager} {ground : Ground}
    (ticked : Ticked world ground stepped report after) :
    totalEnergy after.foragers =
      totalEnergy (survivors stepped) - (world.config.oddParents stepped).length := by
  rw [ticked.foragers, totalEnergy_append, Config.totalEnergy_brood, valid.totalEnergy_settled]

/-- Whoever has energy left when the cohort has marched lives on where it stands. -/
theorem Ticked.survivor (ticked : Ticked world marched.ground marched.foragers report after)
    (enrolled : marched.Enrolled) {key : Nat} {forager : Forager}
    (listed : key ∈ marched.live.toList) (found : marched.records[key]? = some forager)
    (alive : forager.Alive) :
    key ∈ after.live.toList ∧ after.records[key]? = some (forager.spent world.config) := by
  obtain ⟨same, known, id⟩ := enrolled.known key listed
  obtain rfl := Option.some.inj (known.symm.trans found)
  have lives : same ∈ survivors marched.foragers :=
    List.mem_filter.mpr ⟨mem_called.mpr ⟨key, listed, found⟩, by simpa using alive⟩
  have left : same.spent world.config ∈ after.foragers := by
    rw [ticked.foragers]
    exact List.mem_append_left _ (List.mem_map_of_mem lives)
  obtain ⟨later, still, record⟩ := mem_called.mp left
  obtain ⟨survivor, again, laterId⟩ := ticked.enrolled.known later still
  obtain rfl := Option.some.inj (record.symm.trans again)
  obtain rfl : later = key := by
    rw [Forager.id_spent, id] at laterId
    exact (Int.ofNat.inj laterId).symm
  exact ⟨still, record⟩

/--
The accounts of a tick: what grew, what was eaten and by whom, and what became of the
energy of those who were alive.
-/
structure Ledger (world : World G) (meals : List (Nat × Finset Cell)) (marched after : World G) :
    Prop where
  food : (after.ground.food.size : Int) =
    world.ground.food.size + world.grown.card - (world.eaten marched).card
  energy : totalEnergy after.foragers =
    totalEnergy world.foragers + world.config.energyPerFood * (world.eaten marched).card -
      world.config.energyPerStep * world.population - totalEnergy (fallen marched.foragers) -
      (world.config.oddParents marched.foragers).length
  /-- What was eaten was eaten in the turn of exactly one of the living. -/
  shared : ∀ cell ∈ world.eaten marched, ∃! entry, entry ∈ meals ∧ cell ∈ entry.2
  within : ∀ entry ∈ meals, entry.2 ⊆ world.eaten marched
  /-- Each is paid for its own meal in its own turn, and its record changes in no other. -/
  turns : ∀ done key meal left, meals = done ++ (key, meal) :: left → ∃ start next,
    Turns world.opened done start ∧ Turn start key meal next ∧ Turns next left marched ∧
      start.config = world.config ∧ start.records[key]? = world.records[key]? ∧
      marched.records[key]? = next.records[key]?
  /-- Whoever has energy left lives on, and does not stand on food. -/
  survivors : ∀ key ∈ world.live.toList, ∀ forager, marched.records[key]? = some forager →
    0 < forager.energy → key ∈ after.live.toList ∧
      ∃ survivor, after.records[key]? = some survivor ∧ survivor.position ∉ after.ground.food

theorem Sound.accounts (sound : world.Sound) (turns : Turns world.opened meals marched)
    (cohort : meals.map Prod.fst = world.live.toList)
    (march : March world.config world.opened.ground world.foragers marched.ground marched.foragers)
    (ticked : Ticked world marched.ground marched.foragers report after)
    (standing : marched.Enrolled) (live : marched.live = world.live) :
    Ledger world meals marched after := by
  have valid := sound.valid
  have distinct : (meals.map Prod.fst).Nodup := cohort ▸ sound.enrolled.nodup
  constructor
  · rw [ticked.food]
    exact size_food_add_eaten valid marched (march.food_subset valid)
  · have spending := turns.totalEnergy_called distinct
    rw [sound.called_opened cohort, called_marched cohort live, turns.servings_eq,
      config_opened valid, length_cohort cohort] at spending
    have parts := totalEnergy_survivors_add_fallen marched.foragers
    rw [totalEnergy_ticked valid ticked]
    simp only [eaten]
    omega
  · intro cell gone
    exact turns.existsUnique_meal gone
  · intro entry member
    exact turns.meal_subset member
  · intro done key meal left cut
    subst cut
    obtain ⟨start, next, earlier, here, later⟩ := turns.exists_turn
    rw [List.map_append, List.map_cons] at distinct
    obtain ⟨-, onward, apart⟩ := List.nodup_append.mp distinct
    have notBefore : key ∉ done.map Prod.fst := fun listed =>
      apart key listed key List.mem_cons_self rfl
    refine ⟨start, next, earlier, here, later, ?_, ?_, ?_⟩
    · rw [earlier.config, config_opened valid]
    · rw [earlier.others notBefore, records_opened valid]
    · exact later.others (List.nodup_cons.mp onward).1
  · intro key before forager found alive
    obtain ⟨still, record⟩ := ticked.survivor standing (live ▸ before) found alive
    refine ⟨still, forager.spent world.config, record, ?_⟩
    rw [Forager.position_spent, ticked.food]
    exact march.notMem_food valid sound.fit forager (mem_called.mpr ⟨key, live ▸ before, found⟩)

end Accounts

/-- In every world that can be reached the next tick comes to its end, and its accounts are exact. -/
theorem Reachable.ledger [SeededSource G] (reachable : world.Reachable) :
    ∃ meals marched report after,
      meals.map Prod.fst = world.live.toList ∧
      Turns world.opened meals marched ∧
      stepAll world.live.toList world.opened = .ok () marched ∧
      world.tick = .ok report after ∧ Ledger world meals marched after := by
  have sound := reachable.sound
  obtain ⟨meals, marched, report, after, cohort, turns, march, standing, live, done, ticked, -⟩ :=
    sound.tick_turns
  refine ⟨meals, marched, report, after, cohort, turns, ?_, done, ?_⟩
  · rw [← cohort]
    exact turns.stepAll
  · exact sound.accounts turns cohort march ticked standing.enrolled live

theorem ledger_company :
    company.Reachable ∧ (left company.tick).foragers.map Forager.energy = [2, 14] ∧
      ∃ meals marched report after,
        meals.map Prod.fst = [0, 1] ∧ Turns company.opened meals marched ∧
        company.tick = .ok report after ∧ Ledger company meals marched after := by
  obtain ⟨meals, marched, report, after, cohort, turns, -, done, ledger⟩ :=
    Reachable.ledger reachable_company
  have listed : company.live.toList = [0, 1] := by decide +kernel
  exact ⟨reachable_company, by decide +kernel, meals, marched, report, after,
    cohort.trans listed, turns, done, ledger⟩

end World

end Forage
