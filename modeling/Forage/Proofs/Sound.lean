import Forage.Proofs.Deeds
import Forage.Proofs.Draft
import Forage.Proofs.Tick
import Forage.Random.Twister

/-!
# Sound worlds

A world is sound when its configuration is valid, its roll is in order, everything
lies on the grid, every forager has an opcode to run, and the ground counts exactly
the living. An empty world is sound and every deed keeps it so; a sound world can
always complete its tick.
-/

namespace Forage

section Young

variable {G : Type} [WordSource G] {config : Config}

theorem Tape.fit_mutate (tape : Tape) (rate : Int) (vocabulary : Vocabulary) (source : G) :
    (tape.mutate rate vocabulary source).1.Fit := by
  unfold mutate
  dsimp only
  split
  · exact fit_startingAt _ 0
  · exact fit_startingAt _ 0

theorem Forager.fit_split (valid : config.Valid) (parent : Forager) (source : G) :
    (parent.split config source).2.1.Fit config := by
  unfold split
  dsimp only
  exact ⟨valid.inGrid_drawCell source, Tape.fit_mutate _ _ _ _⟩

theorem Config.Valid.fit_brood (valid : config.Valid) (source : G) (id : Nat)
    (parents : List Forager) :
    ∀ young ∈ (config.brood source id parents).1, young.Fit config := by
  induction parents generalizing source id with
  | nil => simp [brood]
  | cons parent parents inductionHypothesis =>
      simp only [brood, List.forall_mem_cons]
      obtain ⟨position, tape⟩ := Forager.fit_split valid parent source
      exact ⟨⟨position, tape⟩, inductionHypothesis _ _⟩

theorem Config.fit_drawTape {source rest : G} {tape : Tape}
    (drawn : config.drawTape source = .ok (tape, rest)) : tape.Fit := by
  unfold drawTape at drawn
  split at drawn
  · simp only [Except.ok.injEq, Prod.mk.injEq] at drawn
    obtain ⟨rfl, -⟩ := drawn
    exact Tape.fit_startingAt _ 0
  · obtain ⟨length, -, rest⟩ := bind_eq_ok_iff.mp drawn
    simp only [pure_eq_ok_iff, Prod.mk.injEq] at rest
    obtain ⟨rfl, -⟩ := rest
    exact Tape.fit_startingAt _ 0

end Young

theorem headcount_survivors_add_fallen (stepped : List Forager) (cell : Cell) :
    headcount (survivors stepped) cell + headcount (fallen stepped) cell =
      headcount stepped cell :=
  headcount_filter_add (fun forager => forager.Alive) stepped cell

namespace Ground

theorem foldl_keeps {α : Type} (view : Ground → α) {change : Ground → Forager → Ground}
    (keeps : ∀ ground forager, view (change ground forager) = view ground)
    (foragers : List Forager) (ground : Ground) :
    view (foragers.foldl change ground) = view ground := by
  induction foragers generalizing ground with
  | nil => rfl
  | cons forager foragers inductionHypothesis =>
      rw [List.foldl_cons, inductionHypothesis, keeps]

@[simp]
theorem food_foldl_vacate (foragers : List Forager) (ground : Ground) :
    (foragers.foldl (fun ground forager => ground.vacate forager.position) ground).food =
      ground.food := by
  apply foldl_keeps Ground.food
  exact fun _ _ => food_vacate

@[simp]
theorem walls_foldl_vacate (foragers : List Forager) (ground : Ground) :
    (foragers.foldl (fun ground forager => ground.vacate forager.position) ground).walls =
      ground.walls := by
  apply foldl_keeps Ground.walls
  exact fun _ _ => walls_vacate

@[simp]
theorem food_foldl_occupy (foragers : List Forager) (ground : Ground) :
    (foragers.foldl (fun ground forager => ground.occupy forager.position) ground).food =
      ground.food := by
  apply foldl_keeps Ground.food
  exact fun _ _ => food_occupy

@[simp]
theorem walls_foldl_occupy (foragers : List Forager) (ground : Ground) :
    (foragers.foldl (fun ground forager => ground.occupy forager.position) ground).walls =
      ground.walls := by
  apply foldl_keeps Ground.walls
  exact fun _ _ => walls_occupy

end Ground

theorem Action.perform_passage {config : Config} (valid : config.Valid) {situation after : Situation}
    (action : Action) (done : action.perform config situation = .ok after) :
    ∃ eaten cost, Situation.Passage config situation after eaten cost := by
  cases action with
  | turnLeft =>
      obtain rfl := Except.ok.inj done
      exact ⟨∅, 0, .of_turn situation rfl rfl (fun fit => fit) rfl 0 (Int.sub_zero _).symm⟩
  | turnRight =>
      obtain rfl := Except.ok.inj done
      exact ⟨∅, 0, .of_turn situation rfl rfl (fun fit => fit) rfl 0 (Int.sub_zero _).symm⟩
  | move =>
      obtain rfl := Except.ok.inj done
      obtain ⟨eaten, passage⟩ := Situation.move_passage valid situation
      exact ⟨eaten, 0, passage⟩
  | step =>
      obtain ⟨eaten, passage⟩ := Situation.step_passage valid done
      exact ⟨eaten, config.energyPerStep, passage⟩
  | relocate cell => exact ⟨∅, 0, Situation.relocate_passage valid done⟩

namespace World

variable {G : Type} {world other : World G}

structure Sound (world : World G) : Prop where
  valid : world.config.Valid
  enrolled : world.Enrolled
  food : ∀ cell ∈ world.ground.food, world.config.InGrid cell
  walls : ∀ cell ∈ world.ground.walls, world.config.InGrid cell
  fit : ∀ forager ∈ world.foragers, forager.Fit world.config
  counts : world.ground.Counts world.foragers

theorem config_welcome [WordSource G] (world : World G) : (left (welcome world)).config = world.config := by
  unfold welcome
  dsimp only
  split <;> rfl

/-- What each first forager that is let in leaves true is true after all of them. -/
theorem populate_keeps [WordSource G] {Holds : World G → Prop}
    (keeps : ∀ {world}, Holds world → Holds (left (welcome world))) (holds : Holds world)
    (count : Nat) : Holds (left (populate count world)) := by
  induction count generalizing world with
  | zero => exact holds
  | succ count inductionHypothesis =>
      have first := keeps holds
      unfold populate
      cases done : welcome world with
      | ok value middle =>
          rw [done] at first
          exact inductionHypothesis first
      | error fault middle =>
          rw [done] at first
          exact first

namespace Sound

theorem empty {config : Config} (valid : config.Valid) (source : G) :
    (World.empty config source).Sound where
  valid := valid
  enrolled := .empty config source
  food := by simp [World.empty, Ground.bare]
  walls := by simp [World.empty, Ground.bare]
  fit := by simp [foragers, World.empty]
  counts := by
    constructor
    · intro cell
      simp [foragers, World.empty, Ground.bare, Ground.count]
    · intro cell stored
      simp [World.empty, Ground.bare] at stored

theorem letIn (sound : world.Sound) {forager : Forager} (fit : forager.Fit world.config) :
    (world.letIn forager).Sound where
  valid := sound.valid
  enrolled := sound.enrolled.letIn forager
  food := sound.food
  walls := sound.walls
  fit := by
    rw [sound.enrolled.foragers_letIn, List.forall_mem_append]
    exact ⟨sound.fit, List.forall_mem_singleton.mpr ⟨fit.position, fit.tape⟩⟩
  counts := by
    rw [sound.enrolled.foragers_letIn]
    exact sound.counts.occupy { forager with id := world.nextId }

/-- The same foragers stand on the same cells, and whatever is new lies on the grid. -/
theorem of_roll (sound : world.Sound) (config : other.config = world.config)
    (live : other.live = world.live) (records : other.records = world.records)
    (nextId : other.nextId = world.nextId) (crowd : other.ground.crowd = world.ground.crowd)
    (food : ∀ cell ∈ other.ground.food, cell ∈ world.ground.food ∨ world.config.InGrid cell)
    (walls : ∀ cell ∈ other.ground.walls, cell ∈ world.ground.walls ∨ world.config.InGrid cell) :
    other.Sound := by
  have foragers : other.foragers = world.foragers := by
    rw [foragers_eq_called, foragers_eq_called, live, records]
  constructor
  · rw [config]
    exact sound.valid
  · exact sound.enrolled.of_roll live records nextId
  · intro cell member
    rw [config]
    exact (food cell member).elim (sound.food cell) id
  · intro cell member
    rw [config]
    exact (walls cell member).elim (sound.walls cell) id
  · rw [foragers, config]
    exact sound.fit
  · rw [foragers]
    exact sound.counts.of_crowd crowd

section Edit

theorem changed (sound : world.Sound) {result : Except Fault (World G)}
    (kept : ∀ after, result = .ok after → after.Sound) : (world.changed result).Sound :=
  changed_keeps sound kept

theorem place (sound : world.Sound) {after : World G} {position : Cell} {heading : Heading}
    {tape : Tape} {energy : Option Int} (fit : tape.Fit)
    (placed : world.place position heading tape energy = .ok after) : after.Sound := by
  obtain ⟨goal, reached, rfl⟩ := place_eq_ok_iff.mp placed
  exact sound.letIn ⟨sound.valid.inGrid_of_normalize reached, fit⟩

theorem addFood (sound : world.Sound) {after : World G} {cell : Cell}
    (added : world.addFood cell = .ok after) : after.Sound := by
  obtain ⟨goal, reached, rfl⟩ := addFood_eq_ok_iff.mp added
  refine sound.of_roll rfl rfl rfl rfl rfl ?_ fun _ member => .inl member
  intro other member
  rcases Ground.mem_food_sow.mp member with rfl | before
  · exact .inr (sound.valid.inGrid_of_normalize reached)
  · exact .inl before

theorem addWall (sound : world.Sound) {after : World G} {cell : Cell}
    (added : world.addWall cell = .ok after) : after.Sound := by
  obtain ⟨goal, reached, rfl⟩ := addWall_eq_ok_iff.mp added
  refine sound.of_roll rfl rfl rfl rfl rfl (fun _ member => .inl member) ?_
  intro other member
  rcases Ground.mem_walls_build.mp member with rfl | before
  · exact .inr (sound.valid.inGrid_of_normalize reached)
  · exact .inl before

theorem removeFood (sound : world.Sound) (cell : Cell) : (world.removeFood cell).2.Sound := by
  refine sound.of_roll rfl rfl rfl rfl Ground.crowd_harvest ?_ ?_
  · intro other member
    have remaining : other ∈ CellSet.members (world.ground.harvest world.config cell).2.food :=
      CellSet.mem_members.mpr member
    rw [Ground.members_food_harvest, Finset.mem_sdiff, CellSet.mem_members] at remaining
    exact .inl remaining.1
  · intro other member
    rw [World.removeFood, Ground.walls_harvest] at member
    exact .inl member

theorem update (sound : world.Sound) {after : World G} {changes : List (String × Datum)}
    (updated : world.update changes = .ok after) : after.Sound := by
  obtain ⟨-, tuned, checked, rfl⟩ := update_eq_ok_iff.mp updated
  have change := Config.tuned_of_update checked
  exact {
    valid := change.valid
    enrolled := sound.enrolled.of_roll rfl rfl rfl
    food := fun cell member => change.inGrid_iff.mpr (sound.food cell member)
    walls := fun cell member => change.inGrid_iff.mpr (sound.walls cell member)
    fit := fun forager listed =>
      have fit := sound.fit forager listed
      ⟨change.inGrid_iff.mpr fit.position, fit.tape⟩
    counts := sound.counts }

end Edit

section Act

theorem put (sound : world.Sound) {key : Nat} {forager : Forager} {situation : Situation}
    {eaten : Finset Cell} {cost : Int} (listed : key ∈ world.live.toList)
    (found : world.records[key]? = some forager)
    (passage : Situation.Passage world.config ⟨world.ground, forager⟩ situation eaten cost) :
    (world.put key situation).Sound := by
  obtain ⟨before, standing, after, same, id, list, exchanged⟩ := sound.enrolled.split listed
  obtain rfl : standing = forager := Option.some.inj (same.symm.trans found)
  have foragers : (world.put key situation).foragers = before ++ situation.forager :: after :=
    exchanged situation.forager
  have fit := sound.fit
  rw [list, List.forall_mem_append, List.forall_mem_cons] at fit
  constructor
  · exact sound.valid
  · exact sound.enrolled.insert rfl rfl rfl (passage.id.trans id)
  · intro cell member
    have remaining := passage.food_subset (CellSet.mem_members.mpr member)
    exact sound.food cell (CellSet.mem_members.mp remaining)
  · intro cell member
    have standing : cell ∈ situation.ground.walls := member
    rw [passage.walls] at standing
    exact sound.walls cell standing
  · rw [foragers, List.forall_mem_append, List.forall_mem_cons]
    exact ⟨fit.1, passage.fit fit.2.1, fit.2.2⟩
  · rw [foragers]
    exact passage.counts (list ▸ sound.counts)

theorem act (sound : world.Sound) {after : World G} {key : Nat} {action : Action}
    (acted : world.act key action = .ok after) : after.Sound := by
  obtain ⟨forager, situation, listed, found, done, rfl⟩ := act_eq_ok_iff.mp acted
  obtain ⟨eaten, cost, passage⟩ := action.perform_passage sound.valid done
  exact sound.put listed found passage

theorem stepOne (sound : world.Sound) {key : Nat} (listed : key ∈ world.live.toList) :
    ∃ after, stepOne key world = .ok () after ∧ after.Sound ∧ after.live = world.live := by
  obtain ⟨forager, found, id⟩ := sound.enrolled.known key listed
  have fit := sound.fit forager (mem_called.mpr ⟨key, listed, found⟩)
  obtain ⟨situation, taken⟩ :=
    @Situation.step_eq_ok ⟨world.ground, forager⟩ world.config fit.tape
  obtain ⟨eaten, passage⟩ := Situation.step_passage sound.valid taken
  refine ⟨world.put key situation, ?_, sound.put listed found passage, rfl⟩
  simp [World.stepOne, found, taken]

/-- The living can take their steps one after the other, however far they come. -/
theorem stepAll (sound : world.Sound) {keys : List Nat} (listed : keys ⊆ world.live.toList) :
    ∃ after, stepAll keys world = .ok () after ∧ after.Sound ∧ after.live = world.live := by
  induction keys generalizing world with
  | nil => exact ⟨world, rfl, sound, rfl⟩
  | cons key keys inductionHypothesis =>
      obtain ⟨here, rest⟩ := List.cons_subset.mp listed
      obtain ⟨middle, first, middleSound, middleLive⟩ := sound.stepOne here
      obtain ⟨after, others, afterSound, afterLive⟩ :=
        inductionHypothesis middleSound (middleLive ▸ rest)
      refine ⟨after, ?_, afterSound, afterLive.trans middleLive⟩
      simp only [World.stepAll, first, others]

end Act

variable [WordSource G]

section Stock

theorem sow (sound : world.Sound) (count : Nat) : (world.sow count).Sound := by
  obtain ⟨food, source, result, -, inside⟩ := sow_eq sound.valid count
  rw [result]
  exact sound.of_roll rfl rfl rfl rfl rfl inside fun _ member => .inl member

theorem wall (sound : world.Sound) (count : Nat) : (world.wall count).Sound := by
  obtain ⟨walls, source, result, inside⟩ := wall_eq sound.valid count
  rw [result]
  exact sound.of_roll rfl rfl rfl rfl rfl (fun _ member => .inl member) inside

theorem welcome (sound : world.Sound) : (left (welcome world)).Sound := by
  have drawn (source : G) : ({ world with source } : World G).Sound :=
    sound.of_roll rfl rfl rfl rfl rfl (fun _ member => .inl member) fun _ member => .inl member
  unfold World.welcome
  dsimp only
  split
  · exact drawn _
  · next taped =>
      exact (drawn _).letIn
        ⟨sound.valid.inGrid_drawCell world.source, Config.fit_drawTape taped⟩

theorem populate (sound : world.Sound) (count : Nat) : (left (populate count world)).Sound :=
  populate_keeps welcome sound count

theorem stock (sound : world.Sound) : (left (stock world)).Sound :=
  ((sound.sow _).wall _).populate _

theorem create {config : Config} (valid : config.Valid) {source : G} {after : World G}
    (created : World.create config source = .ok after) : after.Sound := by
  have stocked := (Sound.empty valid source).stock
  unfold World.create at created
  cases done : World.stock (World.empty config source) with
  | ok value world =>
      rw [done] at created stocked
      obtain rfl := Except.ok.inj created
      exact stocked
  | error fault world => simp [done] at created

end Stock

section Tick

theorem opened (sound : world.Sound) : world.opened.Sound := by
  obtain ⟨food, source, countdown, opened⟩ := exists_opened sound.valid
  rw [opened.eq]
  exact sound.of_roll rfl rfl rfl rfl rfl opened.inside fun _ member => .inl member

theorem march (sound : world.Sound) :
    ∃ marched, World.stepAll world.live.toList world.opened = .ok () marched ∧
      March world.config world.opened.ground world.foragers marched.ground marched.foragers := by
  obtain ⟨ground, stepped, march⟩ :=
    exists_march (fun forager listed => (sound.fit forager listed).tape) world.opened.ground
  have opened := sound.opened
  have config : world.opened.config = world.config := config_opened sound.valid
  have live : world.opened.live = world.live := live_opened sound.valid
  have foragers : world.opened.foragers = world.foragers := foragers_opened sound.valid
  have onward : March world.opened.config world.opened.ground
      (called world.opened.records world.opened.live.toList) ground stepped := by
    rw [config, ← foragers_eq_called, foragers]
    exact march
  obtain ⟨records, done, rfl, -, -⟩ := stepAll_eq_ok opened.valid opened.enrolled
    (List.Subset.refl _) opened.enrolled.nodup onward
  refine ⟨{ world.opened with ground, records }, ?_, march⟩
  rw [← live]
  exact done

/-- When the dead are buried and the young are let in, a world is still sound. -/
theorem settle (sound : world.Sound) (cohort : Nat) : (world.settle cohort).2.Sound := by
  have settled := sound.enrolled.settled cohort
  have valid := sound.valid
  constructor
  · rw [settled.config]
    exact valid
  · exact settled.enrolled
  · intro cell member
    rw [settled.ground, Ground.food_foldl_occupy, Ground.food_foldl_vacate] at member
    rw [settled.config]
    exact sound.food cell member
  · intro cell member
    rw [settled.ground, Ground.walls_foldl_occupy, Ground.walls_foldl_vacate] at member
    rw [settled.config]
    exact sound.walls cell member
  · rw [settled.foragers, settled.config, List.forall_mem_append, List.forall_mem_map]
    constructor
    · intro forager listed
      have fit := sound.fit forager (List.mem_of_mem_filter listed)
      exact ⟨by simpa using fit.position, by simpa using fit.tape⟩
    · exact valid.fit_brood _ _ _
  · have buried := sound.counts.foldl_vacate (headcount_survivors_add_fallen world.foragers)
    rw [settled.ground, settled.foragers]
    refine (buried.foldl_occupy _).congr fun cell => ?_
    rw [headcount_append, headcount_append, headcount_map (Forager.position_spent world.config)]

theorem tick (sound : world.Sound) :
    ∃ marched report after,
      World.stepAll world.live.toList world.opened = .ok () marched ∧
      March world.config world.opened.ground world.foragers marched.ground marched.foragers ∧
      world.tick = .ok report after ∧
      Ticked world marched.ground marched.foragers report after ∧ after.Sound := by
  obtain ⟨marched, stepped, march⟩ := sound.march
  obtain ⟨report, after, done, ticked⟩ := tick_eq_ok sound.valid sound.enrolled march
  refine ⟨marched, report, after, stepped, march, done, ticked, ?_⟩
  have cohort : world.live.toList ⊆ world.opened.live.toList := by
    rw [live_opened sound.valid]
    exact List.Subset.refl _
  obtain ⟨last, taken, kept, -⟩ := sound.opened.stepAll cohort
  obtain ⟨-, rfl⟩ := EStateM.Result.ok.inj (done.symm.trans (tick_of_stepAll taken))
  exact kept.settle _

end Tick

end Sound

variable [SeededSource G]

theorem Sound.reset (sound : world.Sound) (seed : Option Int) :
    (left (World.reset seed world)).Sound :=
  (Sound.empty sound.valid _).stock

theorem Sound.perform (sound : world.Sound) (deed : Deed) : (world.perform deed).Sound := by
  cases deed with
  | tick =>
      obtain ⟨marched, report, after, -, -, done, -, kept⟩ := sound.tick
      rw [World.perform, done]
      exact kept
  | place position heading opcodes pointer energy =>
      exact sound.changed fun _ => sound.place (Tape.fit_startingAt opcodes pointer)
  | addFood cell => exact sound.changed fun _ => sound.addFood
  | addWall cell => exact sound.changed fun _ => sound.addWall
  | removeFood cell => exact sound.removeFood cell
  | update changes => exact sound.changed fun _ => sound.update
  | reset seed => exact sound.reset seed
  | act key action => exact sound.changed fun _ => sound.act

theorem Reachable.sound (reachable : world.Reachable) : world.Sound := by
  induction reachable with
  | empty valid source => exact .empty valid source
  | create valid source created => exact .create valid created
  | perform deed _ inductionHypothesis => exact inductionHypothesis.perform deed

theorem Reachable.foldl (reachable : world.Reachable) (deeds : List Deed) :
    (deeds.foldl World.perform world).Reachable := by
  induction deeds generalizing world with
  | nil => exact reachable
  | cons deed deeds inductionHypothesis => exact inductionHypothesis (reachable.perform deed)

/-- An example: two foragers on one cell, food before one of them, and nothing that grows. -/
def company : World Twister :=
  [Deed.update [(Parameter.regrowthRate.name, .whole 0)],
    .place ⟨0, 0⟩ .up [.move] 0 (some 3),
    .place ⟨100, 0⟩ .down [.move] 0 (some 5),
    .addFood ⟨0, 1⟩].foldl perform (World.empty Config.default (SeededSource.ofSeed 0))

theorem reachable_company : company.Reachable :=
  (Reachable.empty Config.valid_default _).foldl _

end World

end Forage
