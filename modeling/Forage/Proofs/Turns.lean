import Forage.Proofs.Sound
import Mathlib.Algebra.BigOperators.Group.List.Basic

/-!
# Turns of a cohort

In a tick each of the living takes its turn once. What it eats in its turn is gone
for the others, it alone is paid for it, and everyone pays the same for the step.
Energy and food are summed up along the turns, one after the other.
-/

namespace Forage

/-- The energy of the foragers of a list. -/
def totalEnergy (foragers : List Forager) : Int :=
  (foragers.map Forager.energy).sum

@[simp]
theorem totalEnergy_nil : totalEnergy [] = 0 := rfl

@[simp]
theorem totalEnergy_cons (forager : Forager) (foragers : List Forager) :
    totalEnergy (forager :: foragers) = forager.energy + totalEnergy foragers := by
  simp [totalEnergy]

@[simp]
theorem totalEnergy_append (first second : List Forager) :
    totalEnergy (first ++ second) = totalEnergy first + totalEnergy second := by
  simp [totalEnergy]

namespace World

variable {G : Type} {world before middle after : World G} {key : Nat} {meal : Finset Cell}
  {meals : List (Nat × Finset Cell)}

/-- A forager of the records takes its turn and eats the food of some cells. -/
structure Turn (before : World G) (key : Nat) (meal : Finset Cell) (after : World G) : Prop where
  taken : stepOne key before = .ok () after
  eats : meal ⊆ CellSet.members before.ground.food
  leaves : CellSet.members after.ground.food = CellSet.members before.ground.food \ meal
  paid : ∃ hungry fed, before.records[key]? = some hungry ∧ after.records[key]? = some fed ∧
    fed.energy =
      hungry.energy + before.config.energyPerFood * meal.card - before.config.energyPerStep
  others : ∀ other, other ≠ key → after.records[other]? = before.records[other]?
  config : after.config = before.config

/-- The number of cells that are eaten from in some meals. -/
def servings (meals : List (Nat × Finset Cell)) : Nat :=
  (meals.map fun entry => entry.2.card).sum

@[simp]
theorem servings_nil : servings [] = 0 := rfl

@[simp]
theorem servings_cons (key : Nat) (meal : Finset Cell) (meals : List (Nat × Finset Cell)) :
    servings ((key, meal) :: meals) = meal.card + servings meals := by
  simp [servings]

/-- Foragers of the records take their turns one after the other, each with its own meal. -/
inductive Turns : World G → List (Nat × Finset Cell) → World G → Prop where
  | nil {world : World G} : Turns world [] world
  | cons {before middle after : World G} {key : Nat} {meal : Finset Cell}
      {meals : List (Nat × Finset Cell)} :
      Turn before key meal middle → Turns middle meals after →
      Turns before ((key, meal) :: meals) after

theorem Sound.turn (sound : world.Sound) (listed : key ∈ world.live.toList) :
    ∃ meal after, Turn world key meal after ∧ after.Sound ∧ after.live = world.live := by
  obtain ⟨forager, found, id⟩ := sound.enrolled.known key listed
  obtain ⟨after, taken, afterSound, live⟩ := sound.stepOne listed
  cases stepped : Situation.step world.config ⟨world.ground, forager⟩ with
  | error fault => simp [World.stepOne, found, stepped] at taken
  | ok situation =>
      simp only [World.stepOne, found, stepped] at taken
      obtain ⟨-, rfl⟩ := EStateM.Result.ok.inj taken
      obtain ⟨meal, passage⟩ := Situation.step_passage sound.valid stepped
      refine ⟨meal, world.put key situation, ?_, afterSound, live⟩
      constructor
      · simp [World.stepOne, found, stepped]
      · exact passage.eaten_subset
      · exact passage.food
      · exact ⟨forager, situation.forager, found, by simp [World.put], passage.energy⟩
      · intro other apart
        simp [World.put, Std.ExtTreeMap.getElem?_insert, Ne.symm apart]
      · rfl

theorem Sound.turns (sound : world.Sound) {keys : List Nat} (listed : keys ⊆ world.live.toList) :
    ∃ meals after, meals.map Prod.fst = keys ∧ Turns world meals after := by
  induction keys generalizing world with
  | nil => exact ⟨[], world, rfl, .nil⟩
  | cons key keys inductionHypothesis =>
      obtain ⟨here, rest⟩ := List.cons_subset.mp listed
      obtain ⟨meal, middle, first, middleSound, live⟩ := sound.turn here
      obtain ⟨meals, after, rfl, others⟩ := inductionHypothesis middleSound (live ▸ rest)
      exact ⟨(key, meal) :: meals, after, rfl, .cons first others⟩

namespace Turns

theorem stepAll (turns : Turns before meals after) :
    stepAll (meals.map Prod.fst) before = .ok () after := by
  induction turns with
  | nil => rfl
  | cons first _ inductionHypothesis =>
      simp only [List.map_cons, World.stepAll, first.taken]
      exact inductionHypothesis

theorem config (turns : Turns before meals after) : after.config = before.config := by
  induction turns with
  | nil => rfl
  | cons first _ inductionHypothesis => rw [inductionHypothesis, first.config]

theorem others (turns : Turns before meals after) {other : Nat}
    (absent : other ∉ meals.map Prod.fst) : after.records[other]? = before.records[other]? := by
  induction turns with
  | nil => rfl
  | cons first _ inductionHypothesis =>
      rw [List.map_cons, List.mem_cons, not_or] at absent
      rw [inductionHypothesis absent.2, first.others other absent.1]

theorem food_subset (turns : Turns before meals after) :
    CellSet.members after.ground.food ⊆ CellSet.members before.ground.food := by
  induction turns with
  | nil => exact Finset.Subset.refl _
  | cons first _ inductionHypothesis =>
      refine inductionHypothesis.trans ?_
      rw [first.leaves]
      exact Finset.sdiff_subset

theorem meal_subset (turns : Turns before meals after) {entry : Nat × Finset Cell}
    (member : entry ∈ meals) :
    entry.2 ⊆ CellSet.members before.ground.food \ CellSet.members after.ground.food := by
  induction turns with
  | nil => simp at member
  | @cons before middle after key meal meals first rest inductionHypothesis =>
      rcases List.mem_cons.mp member with rfl | later
      · intro cell eaten
        rw [Finset.mem_sdiff]
        refine ⟨first.eats eaten, ?_⟩
        intro still
        have remaining := rest.food_subset still
        rw [first.leaves, Finset.mem_sdiff] at remaining
        exact remaining.2 eaten
      · refine (inductionHypothesis later).trans ?_
        rw [first.leaves]
        exact Finset.sdiff_subset_sdiff Finset.sdiff_subset (Finset.Subset.refl _)

theorem existsUnique_meal (turns : Turns before meals after) {cell : Cell}
    (gone : cell ∈ CellSet.members before.ground.food \ CellSet.members after.ground.food) :
    ∃! entry, entry ∈ meals ∧ cell ∈ entry.2 := by
  induction turns with
  | nil => simp at gone
  | @cons before middle after key meal meals first rest inductionHypothesis =>
      rw [Finset.mem_sdiff] at gone
      by_cases eaten : cell ∈ meal
      · refine ⟨(key, meal), ⟨List.mem_cons_self, eaten⟩, ?_⟩
        rintro entry ⟨member, again⟩
        rcases List.mem_cons.mp member with rfl | later
        · rfl
        · -- Nobody after the first can eat what the first has eaten.
          have left := (Finset.mem_sdiff.mp (rest.meal_subset later again)).1
          rw [first.leaves, Finset.mem_sdiff] at left
          exact absurd eaten left.2
      · have left : cell ∈ CellSet.members middle.ground.food := by
          rw [first.leaves, Finset.mem_sdiff]
          exact ⟨gone.1, eaten⟩
        obtain ⟨entry, ⟨member, here⟩, unique⟩ :=
          inductionHypothesis (Finset.mem_sdiff.mpr ⟨left, gone.2⟩)
        refine ⟨entry, ⟨List.mem_cons_of_mem _ member, here⟩, ?_⟩
        rintro other ⟨listed, there⟩
        rcases List.mem_cons.mp listed with rfl | later
        · exact absurd there eaten
        · exact unique other ⟨later, there⟩

theorem servings_eq (turns : Turns before meals after) :
    servings meals =
      (CellSet.members before.ground.food \ CellSet.members after.ground.food).card := by
  rw [Finset.card_sdiff_of_subset turns.food_subset]
  induction turns with
  | nil => simp
  | @cons before middle after key meal meals first rest inductionHypothesis =>
      have left := Finset.card_le_card rest.food_subset
      have eaten := Finset.card_le_card first.eats
      have between : (CellSet.members middle.ground.food).card =
          (CellSet.members before.ground.food).card - meal.card := by
        rw [first.leaves, Finset.card_sdiff_of_subset first.eats]
      rw [servings_cons, inductionHypothesis]
      omega

/-- A turn in the midst of others is taken between those before it and those after it. -/
theorem exists_turn {done left : List (Nat × Finset Cell)}
    (turns : Turns before (done ++ (key, meal) :: left) after) :
    ∃ start next, Turns before done start ∧ Turn start key meal next ∧ Turns next left after := by
  induction done generalizing before with
  | nil =>
      cases turns with
      | cons first rest => exact ⟨before, _, .nil, first, rest⟩
  | cons entry done inductionHypothesis =>
      cases turns with
      | cons first rest =>
          obtain ⟨start, next, earlier, here, later⟩ := inductionHypothesis rest
          exact ⟨start, next, .cons first earlier, here, later⟩

/--
Whoever takes a turn has been left as it was by the turns before its own, and is
left as it then is by the turns after it.
-/
theorem called_cons_eq {hungry fed : Forager} (distinct : key ∉ meals.map Prod.fst)
    (first : Turn before key meal middle) (rest : Turns middle meals after)
    (found : before.records[key]? = some hungry) (left : middle.records[key]? = some fed) :
    called before.records (key :: meals.map Prod.fst) =
        hungry :: called before.records (meals.map Prod.fst) ∧
      called after.records (key :: meals.map Prod.fst) =
        fed :: called after.records (meals.map Prod.fst) ∧
      called middle.records (meals.map Prod.fst) = called before.records (meals.map Prod.fst) := by
  refine ⟨called_cons found _, called_cons ?_ _, ?_⟩
  · rw [rest.others distinct, left]
  · apply called_congr
    intro other listed
    exact first.others other fun same => distinct (same ▸ listed)

theorem totalEnergy_called (turns : Turns before meals after) (distinct : (meals.map Prod.fst).Nodup) :
    totalEnergy (called after.records (meals.map Prod.fst)) =
      totalEnergy (called before.records (meals.map Prod.fst)) +
        before.config.energyPerFood * servings meals -
        before.config.energyPerStep * meals.length := by
  induction turns with
  | nil => simp
  | @cons before middle after key meal meals first rest inductionHypothesis =>
      obtain ⟨apart, distinct⟩ := List.nodup_cons.mp distinct
      obtain ⟨hungry, fed, found, left, energy⟩ := first.paid
      obtain ⟨earlier, later, same⟩ := called_cons_eq apart first rest found left
      rw [List.map_cons, earlier, later, totalEnergy_cons, totalEnergy_cons,
        inductionHypothesis distinct, same, energy, first.config]
      rw [servings_cons, List.length_cons]
      push_cast
      ring

end Turns

theorem Sound.called_opened [WordSource G] (sound : world.Sound)
    (cohort : meals.map Prod.fst = world.live.toList) :
    called world.opened.records (meals.map Prod.fst) = world.foragers := by
  rw [cohort, ← live_opened sound.valid, ← foragers_eq_called, foragers_opened sound.valid]

theorem called_marched (cohort : meals.map Prod.fst = world.live.toList)
    (live : after.live = world.live) :
    called after.records (meals.map Prod.fst) = after.foragers := by
  rw [cohort, ← live, ← foragers_eq_called]

theorem length_cohort (cohort : meals.map Prod.fst = world.live.toList) :
    meals.length = world.population := by
  have lengths := congrArg List.length cohort
  simpa [World.population] using lengths

/-- A sound world completes its tick, every one of the living taking its turn. -/
theorem Sound.tick_turns [WordSource G] (sound : world.Sound) :
    ∃ meals marched report after,
      meals.map Prod.fst = world.live.toList ∧ Turns world.opened meals marched ∧
      March world.config world.opened.ground world.foragers marched.ground marched.foragers ∧
      marched.Sound ∧ marched.live = world.live ∧
      world.tick = .ok report after ∧
      Ticked world marched.ground marched.foragers report after ∧ after.Sound := by
  have live : world.opened.live = world.live := live_opened sound.valid
  have listed : world.live.toList ⊆ world.opened.live.toList := by
    rw [live]
    exact List.Subset.refl _
  obtain ⟨marched, report, after, stepped, march, done, ticked, afterSound⟩ := sound.tick
  obtain ⟨meals, last, cohort, turns⟩ := sound.opened.turns listed
  obtain ⟨middle, again, standing, middleLive⟩ := sound.opened.stepAll listed
  have stepsTo := turns.stepAll
  rw [cohort, stepped] at stepsTo
  obtain ⟨-, rfl⟩ := EStateM.Result.ok.inj stepsTo
  rw [stepped] at again
  obtain ⟨-, rfl⟩ := EStateM.Result.ok.inj again
  exact ⟨meals, marched, report, after, cohort, turns, march, standing, middleLive.trans live,
    done, ticked, afterSound⟩

end World

end Forage
