import Forage.Proofs.Numbers
import Forage.Proofs.Script
import Forage.Proofs.Turns

/-!
# What is left to chance

Where food grows, and where the young are born and with which tapes, is all that a tick leaves
to chance; no forager draws anything by what it does. So two worlds that stand at the same
place of their sources have the same fortune in their next tick, however different they are
otherwise, if they draw within the same bounds and those who split in them have the same opcodes.
-/

namespace Forage

variable {G : Type}

/-- Two configurations that agree in all that is drawn by in a tick. -/
structure Config.DrawsLike (config other : Config) : Prop where
  width : config.width = other.width
  height : config.height = other.height
  regrowthRate : config.regrowthRate = other.regrowthRate
  mutationRate : config.mutationRate = other.mutationRate
  vocabulary : config.vocabulary = other.vocabulary

/-- Two foragers that were given the same by chance; their energies may be different. -/
structure Forager.Twins (young other : Forager) : Prop where
  position : young.position = other.position
  heading : young.heading = other.heading
  tape : young.tape = other.tape

section Draws

variable [WordSource G]

/-- Cells that are drawn one after the other, and the source after them. -/
def Config.drawCells (config : Config) : (count : Nat) → G → List Cell × G
  | 0, source => ([], source)
  | count + 1, source =>
      let (cell, source) := config.drawCell source
      let (cells, source) := config.drawCells count source
      (cell :: cells, source)

theorem Tape.mutate_congr {tape other : Tape} (same : tape.opcodes = other.opcodes) (rate : Int)
    (vocabulary : Vocabulary) (source : G) :
    tape.mutate rate vocabulary source = other.mutate rate vocabulary source := by
  unfold mutate rewound edited length
  rw [same]

namespace Config.DrawsLike

variable {config other : Config}

theorem drawCell (alike : config.DrawsLike other) (source : G) :
    config.drawCell source = other.drawCell source := by
  unfold Config.drawCell
  rw [alike.width, alike.height]

theorem drawCells (alike : config.DrawsLike other) (count : Nat) (source : G) :
    config.drawCells count source = other.drawCells count source := by
  induction count generalizing source with
  | zero => rfl
  | succ count inductionHypothesis =>
      simp only [Config.drawCells, alike.drawCell, inductionHypothesis]

/-- Parents with the same opcodes have twins, and leave the same of the source. -/
theorem split (alike : config.DrawsLike other) {parent stranger : Forager}
    (same : parent.tape.opcodes = stranger.tape.opcodes) (source : G) :
    (parent.split config source).2.1.Twins (stranger.split other source).2.1 ∧
      (parent.split config source).2.2 = (stranger.split other source).2.2 := by
  unfold Forager.split
  rw [alike.drawCell, alike.mutationRate, alike.vocabulary]
  simp only [Tape.mutate_congr same]
  exact ⟨⟨rfl, rfl, rfl⟩, trivial⟩

theorem brood (alike : config.DrawsLike other) {parents strangers : List Forager}
    (same : parents.map (fun parent => parent.tape.opcodes) =
      strangers.map fun stranger => stranger.tape.opcodes) (source : G) (id otherId : Nat) :
    List.Forall₂ Forager.Twins (config.brood source id parents).1
        (other.brood source otherId strangers).1 ∧
      (config.brood source id parents).2 = (other.brood source otherId strangers).2 := by
  induction parents generalizing strangers source id otherId with
  | nil =>
      obtain rfl := List.map_eq_nil_iff.mp same.symm
      exact ⟨.nil, rfl⟩
  | cons parent parents inductionHypothesis =>
      obtain ⟨stranger, strangers, rfl, first, rest⟩ := List.map_eq_cons_iff.mp same.symm
      obtain ⟨twins, sources⟩ := alike.split first.symm source
      obtain ⟨others, left⟩ := inductionHypothesis rest.symm
        (parent.split config source).2.2 (id + 1) (otherId + 1)
      simp only [Config.brood, ← sources]
      exact ⟨.cons ⟨twins.position, twins.heading, twins.tape⟩ others, left⟩

end Config.DrawsLike

end Draws

/-- Whether a deed may draw from the source of a world: only a tick and a new stocking may. -/
def Deed.draws : Deed → Bool
  | tick => true
  | reset _ => true
  | _ => false

namespace World

variable {world other after otherAfter : World G}

/-- Two worlds with the same chances in their next tick, whatever else is different in them. -/
structure Alike (world other : World G) : Prop where
  config : world.config.DrawsLike other.config
  source : world.source = other.source
  countdown : world.countdown = other.countdown

/-- Those who have come into a world since an earlier state of it. -/
def newcomers (world after : World G) : List Forager :=
  after.foragers.filter fun forager => world.nextId ≤ forager.id

theorem source_stepOne (key : Nat) (world : World G) :
    (left (stepOne key world)).source = world.source := by
  unfold stepOne
  split
  · rfl
  · split <;> rfl

/-- What each step leaves true is true after all of them, whether they come to their end or not. -/
theorem left_stepAll_keeps (Holds : World G → Prop)
    (keeps : ∀ key world, Holds world → Holds (left (stepOne key world))) (holds : Holds world)
    (keys : List Nat) : Holds (left (stepAll keys world)) := by
  induction keys generalizing world with
  | nil => exact holds
  | cons key keys inductionHypothesis =>
      have first := keeps key world holds
      unfold stepAll
      cases taken : stepOne key world with
      | ok value middle =>
          rw [taken] at first
          exact inductionHypothesis first
      | error fault middle =>
          rw [taken] at first
          exact first

theorem source_stepAll (keys : List Nat) (world : World G) :
    (left (stepAll keys world)).source = world.source := by
  apply left_stepAll_keeps fun after => after.source = world.source
  · intro key middle same
    exact (source_stepOne key middle).trans same
  · rfl

/-- Neither has anything been drawn since then nor has time passed. -/
structure Quiet (world after : World G) : Prop where
  source : after.source = world.source
  step : after.step = world.step
  countdown : after.countdown = world.countdown
  valid : world.config.Valid → after.config.Valid

/-- What is done to a world by hand is quiet, and so is what a forager is told to do. -/
theorem quiet_perform [SeededSource G] (world : World G) {deed : Deed}
    (quiet : deed.draws = false) : Quiet world (world.perform deed) := by
  have changed {result : Except Fault (World G)}
      (kept : ∀ after, result = .ok after → Quiet world after) :
      Quiet world (world.changed result) :=
    changed_keeps ⟨rfl, rfl, rfl, id⟩ kept
  cases deed with
  | tick | reset seed => cases quiet
  | place position heading opcodes pointer energy =>
      apply changed
      intro after placed
      obtain ⟨goal, -, rfl⟩ := place_eq_ok_iff.mp placed
      exact ⟨rfl, rfl, rfl, id⟩
  | addFood cell =>
      apply changed
      intro after added
      obtain ⟨goal, -, rfl⟩ := addFood_eq_ok_iff.mp added
      exact ⟨rfl, rfl, rfl, id⟩
  | addWall cell =>
      apply changed
      intro after added
      obtain ⟨goal, -, rfl⟩ := addWall_eq_ok_iff.mp added
      exact ⟨rfl, rfl, rfl, id⟩
  | removeFood cell => exact ⟨rfl, rfl, rfl, id⟩
  | update changes =>
      apply changed
      intro after updated
      obtain ⟨-, tuned, checked, rfl⟩ := update_eq_ok_iff.mp updated
      exact ⟨rfl, rfl, rfl, fun _ => (Config.tuned_of_update checked).valid⟩
  | act key action =>
      apply changed
      intro after acted
      obtain ⟨forager, situation, -, -, -, rfl⟩ := act_eq_ok_iff.mp acted
      exact ⟨rfl, rfl, rfl, id⟩

theorem source_perform [SeededSource G] (world : World G) {deed : Deed} (quiet : deed.draws = false) :
    (world.perform deed).source = world.source :=
  (quiet_perform world quiet).source

theorem source_foldl_perform [SeededSource G] (world : World G) {deeds : List Deed}
    (quiet : deeds.all (!Deed.draws ·) = true) :
    (deeds.foldl perform world).source = world.source := by
  induction deeds generalizing world with
  | nil => rfl
  | cons deed deeds inductionHypothesis =>
      obtain ⟨first, rest⟩ := Bool.and_eq_true_iff.mp quiet
      rw [List.foldl_cons, inductionHypothesis _ rest,
        source_perform world (Bool.not_eq_true' _ ▸ first)]

section Draws

variable [WordSource G]

/-- The cells on which food grows in the next tick, and the source after they are drawn. -/
def sprouts (world : World G) : List Cell × G :=
  if world.countdown = 0 then world.config.drawCells world.config.regrowthRate.toNat world.source
  else ([], world.source)

/-- The opcodes of those who split in the next tick, in the order in which they came. -/
def lineages (world : World G) : List (List Opcode) :=
  (world.config.parents (left (stepAll world.live.toList world.opened)).foragers).map
    fun parent => parent.tape.opcodes

theorem Alike.sprouts (alike : Alike world other) : world.sprouts = other.sprouts := by
  unfold World.sprouts
  rw [alike.countdown, alike.source, alike.config.regrowthRate, alike.config.drawCells]

theorem sow_eq_drawCells (count : Nat) (world : World G) :
    world.sow count =
      { world with
        ground := (world.config.drawCells count world.source).1.foldl Ground.sow world.ground
        source := (world.config.drawCells count world.source).2 } := by
  induction count generalizing world with
  | zero => rfl
  | succ count inductionHypothesis =>
      simp only [sow, inductionHypothesis]
      rfl

/-- Food grows on the cells that are drawn for it, and nothing else is drawn by then. -/
theorem opened_eq_sprouts (world : World G) :
    world.opened.ground = world.sprouts.1.foldl Ground.sow world.ground ∧
      world.opened.source = world.sprouts.2 := by
  unfold sprouts
  cases counted : world.countdown with
  | zero =>
      rw [opened_of_due counted, sow_eq_drawCells]
      exact ⟨rfl, rfl⟩
  | succ waiting =>
      rw [opened_of_waiting counted]
      exact ⟨rfl, rfl⟩

theorem Ticked.newcomers_eq (sound : world.Sound) {ground : Ground} {stepped : List Forager}
    {report : Report} (ids : stepped.map Forager.id = world.ids)
    (ticked : Ticked world ground stepped report after) :
    world.newcomers after =
      (world.config.brood world.opened.source world.nextId (world.config.parents stepped)).1 := by
  have older : ∀ forager ∈ (survivors stepped).map (Forager.spent world.config),
      ¬ (world.nextId : Int) ≤ forager.id := by
    intro forager listed
    obtain ⟨survivor, member, rfl⟩ := List.mem_map.mp listed
    have known : survivor.id ∈ world.ids :=
      ids ▸ List.mem_map_of_mem (List.mem_of_mem_filter member)
    have fresh := sound.enrolled.fresh_ids _ known
    rw [Forager.id_spent]
    omega
  have younger : ∀ forager ∈ (world.config.brood world.opened.source world.nextId
      (world.config.parents stepped)).1, (world.nextId : Int) ≤ forager.id := by
    intro forager listed
    have numbered := List.mem_map_of_mem (f := Forager.id) listed
    rw [Config.map_id_brood] at numbered
    obtain ⟨number, range, same⟩ := List.mem_map.mp numbered
    rw [← same]
    exact Int.ofNat_le.mpr (List.mem_range'_1.mp range).1
  rw [newcomers, ticked.foragers, List.filter_append,
    List.filter_eq_nil_iff.mpr (by simpa using older),
    List.filter_eq_self.mpr (by simpa using younger), List.nil_append]

theorem Sound.exists_newcomers (sound : world.Sound) :
    ∃ report after parents, world.tick = .ok report after ∧
      parents.map (fun parent => parent.tape.opcodes) = world.lineages ∧
      world.newcomers after = (world.config.brood world.sprouts.2 world.nextId parents).1 ∧
      after.source = (world.config.brood world.sprouts.2 world.nextId parents).2 := by
  obtain ⟨meals, marched, report, after, cohort, turns, march, -, -, done, ticked, -⟩ :=
    sound.tick_turns
  have stepped : World.stepAll world.live.toList world.opened = .ok () marched :=
    cohort ▸ turns.stepAll
  have newcomers := ticked.newcomers_eq sound (march.map_id sound.valid)
  have source := ticked.source
  rw [(opened_eq_sprouts world).2] at newcomers source
  refine ⟨report, after, world.config.parents marched.foragers, done, ?_, newcomers, source⟩
  rw [lineages, stepped]
  rfl

end Draws

section Fortunes

variable [SeededSource G]

/-- What chance has given to two worlds in a tick. -/
structure Fortune (world other after otherAfter : World G) : Prop where
  source : after.source = otherAfter.source
  /-- Food has grown on the same cells, and lay where it lay before. -/
  sprouts : world.sprouts = other.sprouts ∧
    world.opened.ground = world.sprouts.1.foldl Ground.sow world.ground ∧
    other.opened.ground = world.sprouts.1.foldl Ground.sow other.ground
  /-- The young are on the same cells, face the same way and have the same tapes. -/
  twins : List.Forall₂ Forager.Twins (world.newcomers after) (other.newcomers otherAfter)
  born : (world.newcomers after).length = world.lineages.length
  /-- Without food to grow and young to be born nothing is drawn. -/
  idle : world.countdown ≠ 0 → world.lineages = [] → after.source = world.source
  /-- Nobody draws anything by its steps, nor does anything but a tick or a new stocking. -/
  drawless : ∀ start : World G, (∀ keys, (left (stepAll keys start)).source = start.source) ∧
    ∀ deed : Deed, deed.draws = false → (start.perform deed).source = start.source

theorem Sound.exists_fortune (sound : world.Sound) (otherSound : other.Sound)
    (alike : Alike world other) (lineages : world.lineages = other.lineages) :
    ∃ report after otherReport otherAfter, world.tick = .ok report after ∧
      other.tick = .ok otherReport otherAfter ∧ Fortune world other after otherAfter := by
  obtain ⟨report, after, parents, done, opcodes, newcomers, source⟩ := sound.exists_newcomers
  obtain ⟨otherReport, otherAfter, strangers, otherDone, otherOpcodes, otherNewcomers, otherSource⟩ :=
    otherSound.exists_newcomers
  have same : parents.map (fun parent => parent.tape.opcodes) =
      strangers.map fun stranger => stranger.tape.opcodes := by
    rw [opcodes, otherOpcodes, lineages]
  have sprouts := alike.sprouts
  obtain ⟨twins, sources⟩ :=
    alike.config.brood same world.sprouts.2 world.nextId other.nextId
  refine ⟨report, after, otherReport, otherAfter, done, otherDone, ?_⟩
  constructor
  · rw [source, sources, sprouts, otherSource]
  · refine ⟨sprouts, (opened_eq_sprouts world).1, ?_⟩
    rw [sprouts]
    exact (opened_eq_sprouts other).1
  · rw [newcomers, otherNewcomers, ← sprouts]
    exact twins
  · rw [newcomers, ← opcodes, Config.length_brood, List.length_map]
  · intro waiting childless
    obtain rfl := List.map_eq_nil_iff.mp (opcodes.trans childless)
    rw [source, World.sprouts, if_neg waiting]
    rfl
  · intro start
    exact ⟨fun keys => source_stepAll keys start, fun deed => source_perform start⟩

/--
Two worlds that can be reached and have the same chances complete their next ticks. If those who
split have the same opcodes, the same is drawn in both ticks, and it is drawn for the same purpose.
-/
theorem Reachable.same_draws (reachable : world.Reachable)
    (otherReachable : other.Reachable) (alike : Alike world other)
    (lineages : world.lineages = other.lineages) :
    ∃ report after otherReport otherAfter, world.tick = .ok report after ∧
      other.tick = .ok otherReport otherAfter ∧ Fortune world other after otherAfter :=
  reachable.sound.exists_fortune otherReachable.sound alike lineages

end Fortunes

/-- An example: a single forager that is about to split, on open ground. -/
def meadow : World Script :=
  [Deed.update [(Parameter.regrowthRate.name, .whole 2)],
    .place ⟨0, 0⟩ .up [.sleep, .skip] 0 (some 300)].foldl perform
      (World.empty Config.default (SeededSource.ofSeed 7))

/-- An example: a closed world with food and a wall, in which one forager starves and one splits. -/
def moor : World Script :=
  [Deed.update [(Parameter.regrowthRate.name, .whole 2),
      (Parameter.reproductionThreshold.name, .whole 40)],
    .addFood ⟨9, 8⟩, .addWall ⟨5, 5⟩, .place ⟨3, 3⟩ .left [.ifWall] 0 (some 1),
    .place ⟨9, 9⟩ .down [.sleep, .skip] 1 (some 77)].foldl perform
      (World.empty { Config.default with wrapX := .truth false, initialEnergy := 7 }
        (SeededSource.ofSeed 7))

theorem reachable_meadow : meadow.Reachable :=
  (Reachable.empty Config.valid_default _).foldl _

theorem reachable_moor : moor.Reachable :=
  (Reachable.empty ⟨fun parameter => by cases parameter <;> decide, rfl⟩ _).foldl _

theorem alike_meadow : Alike meadow moor where
  config := by constructor <;> decide +kernel
  source := by
    have first : meadow.source = SeededSource.ofSeed 7 := source_foldl_perform _ rfl
    have second : moor.source = SeededSource.ofSeed 7 := source_foldl_perform _ rfl
    rw [first, second]
  countdown := by decide +kernel

theorem same_draws_meadow :
    meadow.lineages = [[.sleep, .skip]] ∧ moor.lineages = [[.sleep, .skip]] ∧
      meadow.population = 1 ∧ moor.population = 2 ∧
      ∃ report after otherReport otherAfter, meadow.tick = .ok report after ∧
        moor.tick = .ok otherReport otherAfter ∧ Fortune meadow moor after otherAfter := by
  have lineages : meadow.lineages = [[.sleep, .skip]] := by decide +kernel
  have otherLineages : moor.lineages = [[.sleep, .skip]] := by decide +kernel
  exact ⟨lineages, otherLineages, by decide +kernel, by decide +kernel,
    Reachable.same_draws reachable_meadow reachable_moor alike_meadow
      (lineages.trans otherLineages.symm)⟩

end World

end Forage
