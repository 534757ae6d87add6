import Forage.Proofs.Guarded

/-!
# Guarded worlds

A tick, and the stocking of a world, with a guard at everything that is drawn, edited
or entered on the way. Worlds with valid configurations are stocked as without the
guards, and a sound world completes its tick with all of them in place.
-/

namespace Forage

namespace World

variable {G : Type} {world : World G} {key : Nat}

theorem Sound.bury (sound : world.Sound) : world.bury.Sound := by
  have enrolled := sound.enrolled.bury
  constructor
  · rw [config_bury]
    exact sound.valid
  · exact enrolled
  · rw [bury_eq]
    intro cell member
    rw [Ground.food_foldl_vacate] at member
    exact sound.food cell member
  · rw [bury_eq]
    intro cell member
    rw [Ground.walls_foldl_vacate] at member
    exact sound.walls cell member
  · rw [config_bury, foragers_bury]
    intro forager listed
    exact sound.fit forager (List.mem_of_mem_filter listed)
  · rw [foragers_bury, bury_eq]
    exact sound.counts.foldl_vacate (headcount_survivors_add_fallen world.foragers)

variable [WordSource G]

theorem mem_live_breed {other : Nat} (listed : other ∈ world.live.toList) :
    other ∈ (world.breed key).live.toList := by
  unfold breed
  split
  · exact listed
  · simp [letIn, listed]

/-- One of the living may split: it is as it was but for its energy, and its young is fit. -/
theorem Sound.breed (sound : world.Sound) (listed : key ∈ world.live.toList) :
    (world.breed key).Sound := by
  obtain ⟨parent, found, -⟩ := sound.enrolled.known key listed
  have passage : Situation.Passage world.config ⟨world.ground, parent⟩
      ⟨world.ground, parent.halved⟩ ∅ (parent.energy - parent.energy / 2) := by
    apply @Situation.Passage.of_turn _ ⟨world.ground, parent⟩ Forager.halved rfl rfl id rfl
    simp only [Forager.halved]
    omega
  have halved := sound.put listed found passage
  have drawn : ({ world with
      records := world.records.insert key parent.halved
      source := (parent.split world.config world.source).2.2 } : World G).Sound :=
    halved.of_roll rfl rfl rfl rfl rfl (fun _ member => .inl member) fun _ member => .inl member
  rw [breed_eq found]
  exact drawn.letIn (Forager.fit_split sound.valid parent world.source)

end World

namespace Guarded

variable {G : Type} [WordSource G]

variable {world : World G}

/-- The world after work that has come to its end, or the fault that has stopped it. -/
def outcome : EStateM.Result Fault (World G) Unit → Except Fault (World G)
  | .ok _ world => .ok world
  | .error fault _ => .error fault

def sow : (count : Nat) → World G → Except Fault (World G)
  | 0, world => .ok world
  | count + 1, world => do
      let (cell, source) ← drawCell world.config world.source
      sow count { world with ground := world.ground.sow cell, source }

def wall : (count : Nat) → World G → Except Fault (World G)
  | 0, world => .ok world
  | count + 1, world => do
      let (cell, source) ← drawCell world.config world.source
      wall count { world with ground := world.ground.build cell, source }

/-- Lets in a first forager, whose cell is looked at as that of any other. -/
def welcome (world : World G) : Except Fault (World G) := do
  let (position, source) ← drawCell world.config world.source
  let (heading, source) ← pick Heading.clockwise source
  let (tape, source) ← drawTape world.config source
  ({ world with source } : World G).place position heading tape none

def populate : (count : Nat) → World G → Except Fault (World G)
  | 0, world => .ok world
  | count + 1, world => do populate count (← welcome world)

def stock (world : World G) : Except Fault (World G) := do
  let sown ← sow (world.config.share world.config.initialFoodPercent) world
  let walled ← wall (world.config.share world.config.initialWallPercent) sown
  populate world.config.initialPopulation.toNat walled

def reset {G : Type} [SeededSource G] (seed : Option Int) (world : World G) :
    Except Fault (World G) :=
  stock (World.empty world.config (match seed with
    | some seed => SeededSource.ofSeed seed
    | none => world.source))

def regrow (world : World G) : Except Fault (World G) :=
  match world.countdown with
  | 0 => do
      let grown ← sow world.config.regrowthRate.toNat world
      return { grown with countdown := regrowthCadence }
  | left + 1 => .ok { world with countdown := left }

def stepOne (key : Nat) (world : World G) : Except Fault (World G) :=
  match world.records[key]? with
  | none => .ok world
  | some forager => (step world.config ⟨world.ground, forager⟩).map (world.put key)

def stepAll : (keys : List Nat) → World G → Except Fault (World G)
  | [], world => .ok world
  | key :: keys, world => do stepAll keys (← stepOne key world)

/-- Lets a forager split, and its young in if it is on the grid. -/
def breed (world : World G) (key : Nat) : Except Fault (World G) :=
  match world.records[key]? with
  | none => .ok world
  | some parent => do
      let (parent, young, source) ← split world.config parent world.source
      ({ world with records := world.records.insert key parent, source } : World G).add young

def settle (cohort : Nat) (world : World G) : Except Fault (Report × World G) := do
  let survived := world.bury
  let parents := survived.parents
  let bred ← parents.foldlM breed survived
  return ({
    step := bred.step
    births := parents.length
    deaths := cohort - survived.population
    population := bred.population
    food := bred.ground.food.size }, bred)

def tick (world : World G) : Except Fault (Report × World G) := do
  let opened ← regrow { world with step := world.step + 1 }
  let marched ← stepAll world.live.toList opened
  settle world.live.toList.length marched

theorem sow_eq (valid : world.config.Valid) (count : Nat) :
    sow count world = .ok (world.sow count) := by
  induction count generalizing world with
  | zero => rfl
  | succ count inductionHypothesis =>
      simp only [sow, drawCell_eq valid, bind, Except.bind]
      exact inductionHypothesis valid

theorem wall_eq (valid : world.config.Valid) (count : Nat) :
    wall count world = .ok (world.wall count) := by
  induction count generalizing world with
  | zero => rfl
  | succ count inductionHypothesis =>
      simp only [wall, drawCell_eq valid, bind, Except.bind]
      exact inductionHypothesis valid

omit [WordSource G] in
theorem add_eq {forager : Forager} (inGrid : world.config.InGrid forager.position) :
    world.add forager = .ok (world.letIn forager) := by
  simp only [World.add, requireCell_eq inGrid]
  rfl

theorem welcome_eq (valid : world.config.Valid) :
    welcome world = outcome (World.welcome world) := by
  have inGrid := valid.inGrid_drawCell world.source
  simp only [welcome, World.welcome, drawCell_eq valid, drawHeading_eq, drawTape_eq valid, bind,
    Except.bind]
  cases world.config.drawTape (Heading.draw (world.config.drawCell world.source).2).2 with
  | error fault => rfl
  | ok taped => exact @add_eq _ { world with source := taped.2 } _ inGrid

theorem populate_eq (valid : world.config.Valid) (count : Nat) :
    populate count world = outcome (World.populate count world) := by
  induction count generalizing world with
  | zero => rfl
  | succ count inductionHypothesis =>
      simp only [populate, World.populate, welcome_eq valid]
      have config := World.config_welcome world
      cases welcomed : World.welcome world with
      | error fault after => rfl
      | ok value after =>
          rw [welcomed] at config
          exact inductionHypothesis (config ▸ valid)

theorem stock_eq (valid : world.config.Valid) : stock world = outcome (World.stock world) := by
  have sown : (world.sow (world.config.share world.config.initialFoodPercent)).config.Valid := by
    rw [World.config_sow]
    exact valid
  simp only [stock, sow_eq valid, wall_eq sown, bind, Except.bind]
  apply populate_eq
  rw [World.config_wall]
  exact sown

theorem regrow_eq (valid : world.config.Valid) : regrow world = .ok world.regrow := by
  unfold regrow World.regrow
  cases world.countdown with
  | zero =>
      simp only [sow_eq valid]
      rfl
  | succ left => rfl

omit [WordSource G] in
theorem stepOne_eq (valid : world.config.Valid) (key : Nat) :
    stepOne key world = outcome (World.stepOne key world) := by
  unfold stepOne World.stepOne
  cases world.records[key]? with
  | none => rfl
  | some forager =>
      simp only [step_eq valid]
      cases Situation.step world.config ⟨world.ground, forager⟩ with
      | error fault => rfl
      | ok situation => rfl

omit [WordSource G] in
theorem stepAll_eq (valid : world.config.Valid) (keys : List Nat) :
    stepAll keys world = outcome (World.stepAll keys world) := by
  induction keys generalizing world with
  | nil => rfl
  | cons key keys inductionHypothesis =>
      simp only [stepAll, World.stepAll, stepOne_eq valid]
      cases first : World.stepOne key world with
      | error fault after => rfl
      | ok value after => exact inductionHypothesis (World.config_stepOne first ▸ valid)

theorem breed_eq (sound : world.Sound) {key : Nat} (listed : key ∈ world.live.toList) :
    breed world key = .ok (world.breed key) := by
  obtain ⟨parent, found, -⟩ := sound.enrolled.known key listed
  have fit := sound.fit parent (mem_called.mpr ⟨key, listed, found⟩)
  have nonempty : parent.tape.opcodes ≠ [] := List.length_pos_iff.mp fit.tape.length_pos
  have inGrid := (Forager.fit_split sound.valid parent world.source).position
  simp only [breed, World.breed, found, split_eq sound.valid nonempty, bind, Except.bind]
  exact add_eq inGrid

theorem foldlM_breed (sound : world.Sound) {keys : List Nat} (listed : keys ⊆ world.live.toList) :
    keys.foldlM breed world = .ok (keys.foldl World.breed world) := by
  induction keys generalizing world with
  | nil => rfl
  | cons key keys inductionHypothesis =>
      obtain ⟨here, rest⟩ := List.cons_subset.mp listed
      rw [List.foldlM_cons, breed_eq sound here]
      apply inductionHypothesis (sound.breed here)
      intro other member
      exact World.mem_live_breed (rest member)

theorem settle_eq (sound : world.Sound) (cohort : Nat) :
    settle cohort world = .ok (world.settle cohort) := by
  have listed : world.bury.parents ⊆ world.bury.live.toList := List.filter_subset_self _
  have bred := foldlM_breed sound.bury listed
  simp only [settle, World.settle]
  rw [bred]
  rfl

theorem tick_eq (sound : world.Sound) :
    ∃ report after, world.tick = .ok report after ∧ tick world = .ok (report, after) := by
  have opened : ({ world with step := world.step + 1 } : World G).Sound :=
    sound.of_roll rfl rfl rfl rfl rfl (fun _ member => .inl member) fun _ member => .inl member
  have live : world.opened.live = world.live := World.live_opened sound.valid
  have listed : world.live.toList ⊆ world.opened.live.toList := by
    rw [live]
    exact List.Subset.refl _
  obtain ⟨marched, stepped, marchedSound, -⟩ := sound.opened.stepAll listed
  refine ⟨_, _, World.tick_of_stepAll stepped, ?_⟩
  have guarded : stepAll world.live.toList world.opened = .ok marched := by
    rw [stepAll_eq sound.opened.valid, stepped]
    rfl
  simp only [tick, regrow_eq opened.valid, bind, Except.bind]
  rw [World.opened] at guarded
  rw [guarded]
  exact settle_eq marchedSound _

end Guarded

end Forage
