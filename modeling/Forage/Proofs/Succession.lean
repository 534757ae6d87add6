import Forage.Proofs.Balance
import Forage.Proofs.Ledger
import Forage.Proofs.Numbers
import Forage.Proofs.OwnTapes
import Forage.Proofs.Script

/-!
# Who comes after a tick

In a tick each of the living acts once, where those before it have left the world, unless it
shares its tape with another of them. Whoever has energy left then stays, in the old order, and
whoever has more than the threshold leaves one of the young. The young follow in the order of
their parents, each on a cell and with a heading that were drawn for it, and none of them has
acted yet.
-/

namespace Forage

namespace Situation

variable {config : Config} {situation after : Situation}

theorem tape_move (situation : Situation) :
    (situation.move config).2.forager.tape = situation.forager.tape := by
  unfold move
  cases situation.ahead config with
  | none => rfl
  | some goal =>
      dsimp only
      split <;> rfl

theorem tape_perform (opcode : Opcode) (situation : Situation) :
    (situation.perform config opcode).2.forager.tape = situation.forager.tape := by
  cases opcode with
  | doubleMove => exact (tape_move _).trans (tape_move _)
  | move => exact tape_move _
  | left | right | ifEntity | ifFood | ifWall | skip | skip2 | sleep => rfl

theorem sense_le_one {beyond : Nat} (few : beyond ≤ 1) (asked : Cell → Bool)
    (situation : Situation) : situation.sense config beyond asked ≤ 1 := by
  unfold sense
  cases situation.ahead config with
  | none => exact few
  | some cell =>
      dsimp only
      split <;> omega

theorem skipped_perform_le (opcode : Opcode) (situation : Situation) :
    (situation.perform config opcode).1 ≤ 2 := by
  cases opcode with
  | ifEntity | ifFood | ifWall => exact Nat.le_succ_of_le (sense_le_one (by decide) _ situation)
  | doubleMove | move | left | right | sleep => exact Nat.zero_le 2
  | skip => exact Nat.le_succ 1
  | skip2 => exact Nat.le_refl 2

/-- A step runs the opcode under the pointer, and the pointer goes on as that opcode says. -/
theorem exists_opcode_of_step (done : situation.step config = .ok after) :
    ∃ opcode, situation.forager.tape.current? = some opcode ∧
      after.forager.tape =
        situation.forager.tape.advance (situation.perform config opcode).1 := by
  obtain ⟨opcode, middle, executed, rfl⟩ := step_eq_ok_iff.mp done
  unfold execute at executed
  cases current : situation.forager.tape.current? with
  | none => simp [current] at executed
  | some found =>
      simp only [current, Except.ok.injEq, Prod.mk.injEq] at executed
      obtain ⟨-, rfl⟩ := executed
      refine ⟨found, rfl, ?_⟩
      rw [← tape_perform found situation]
      rfl

end Situation

section Young

variable {G : Type} [WordSource G] {config : Config}

theorem Forager.energy_spent {forager : Forager} (alive : forager.Alive) :
    (forager.spent config).energy =
      if config.reproductionThreshold < forager.energy then forager.energy / 2
      else forager.energy := by
  unfold spent Fertile
  by_cases rich : config.reproductionThreshold < forager.energy <;> simp [alive, rich, halved]

/-- The young of a parent that has taken its step, as it is drawn from a source. -/
structure Forager.Born (config : Config) (source : G) (id : Nat) (parent young : Forager) : Prop where
  id : young.id = id
  /-- Parent and young have half of the energy each, without the odd unit. -/
  energy : young.energy = parent.energy / 2 ∧ (parent.spent config).energy = parent.energy / 2
  position : young.position = (config.drawCell source).1
  inGrid : config.InGrid young.position
  heading : young.heading = (Heading.draw (config.drawCell source).2).1
  tape : young.tape =
    (parent.tape.mutate config.mutationRate config.vocabulary
      (Heading.draw (config.drawCell source).2).2).1
  /-- It has not acted yet. -/
  pointer : young.tape.pointer = 0

theorem Forager.born_split (valid : config.Valid) {parent : Forager} (fertile : parent.Fertile config)
    (source : G) (id : Nat) :
    Born config source id parent { (parent.split config source).2.1 with id := id } := by
  have inGrid := (fit_split valid parent source).position
  unfold split at inGrid ⊢
  constructor
  · rfl
  · rw [Forager.spent, if_pos fertile, Forager.halved]
    exact ⟨rfl, rfl⟩
  · rfl
  · exact inGrid
  · rfl
  · rfl
  · exact Tape.pointer_mutate _ _ _ _

/-- Every one of the young is born from what the births before it have left of the source. -/
theorem Config.getElem?_brood (source : G) (id : Nat) (parents : List Forager) (place : Nat) :
    (config.brood source id parents).1[place]? = parents[place]?.map fun parent =>
      { (parent.split config (config.brood source id (parents.take place)).2).2.1 with
        id := (id + place : Nat) } := by
  induction parents generalizing source id place with
  | nil => rfl
  | cons parent parents inductionHypothesis =>
      cases place with
      | zero => rfl
      | succ place =>
          simp only [brood, List.getElem?_cons_succ, List.take_succ_cons, inductionHypothesis,
            Nat.add_assoc, Nat.add_comm 1 place]

end Young

namespace World

variable {G : Type} {world start next marched after : World G} {key : Nat}
  {meal : Finset Cell} {report : Report}

/-- What it is to take steps one after the other. -/
abbrev Steps (G : Type) : Type := List Nat → World G → World G → Prop

/-- The steps of foragers with tapes of their own. -/
def ownSteps : Steps G := fun keys world after => stepAll keys world = .ok () after

/--
One of the living takes its turn where those before it have left the world, and is neither
touched by them nor by those after it.
-/
structure Acts (steps : Steps G) (world start : World G) (key : Nat) (next marched : World G)
    (rested tired : Forager) (skipped : Nat) : Prop where
  taken : steps [key] start next
  before : world.records[key]? = some rested ∧ start.records[key]? = some rested
  after : next.records[key]? = some tired ∧ marched.records[key]? = some tired
  ran : ∃ opcode, rested.tape.current? = some opcode ∧
    (Situation.perform world.config opcode ⟨start.ground, rested⟩).1 = skipped
  few : skipped ≤ 2
  id : tired.id = rested.id
  opcodes : tired.tape.opcodes = rested.tape.opcodes
  pointer : tired.tape.pointer = (rested.tape.pointer + 1 + skipped) % rested.tape.opcodes.length

theorem Turn.acts (valid : world.config.Valid) (turn : Turn start key meal next)
    (config : start.config = world.config) (unchanged : start.records[key]? = world.records[key]?)
    (kept : marched.records[key]? = next.records[key]?) :
    ∃ rested tired skipped, Acts ownSteps world start key next marched rested tired skipped := by
  obtain ⟨rested, tired, found, later, -⟩ := turn.paid
  have taken := turn.taken
  cases moved : Situation.step start.config ⟨start.ground, rested⟩ with
  | error fault => simp [World.stepOne, found, moved] at taken
  | ok situation =>
      simp only [World.stepOne, found, moved] at taken
      obtain ⟨-, rfl⟩ := EStateM.Result.ok.inj taken
      obtain rfl : situation.forager = tired := by simpa [World.put] using later
      rw [config] at moved
      obtain ⟨opcode, current, tape⟩ := Situation.exists_opcode_of_step moved
      obtain ⟨eaten, passage⟩ := Situation.step_passage valid moved
      have alone : stepAll [key] start = .ok () (start.put key situation) := by
        simp only [stepAll, turn.taken]
      refine ⟨rested, situation.forager, _, alone, ⟨unchanged ▸ found, found⟩,
        ⟨later, kept.trans later⟩, ⟨opcode, current, rfl⟩, Situation.skipped_perform_le _ _,
        passage.id, passage.opcodes, ?_⟩
      rw [tape, Tape.advance, Tape.length]

section Accounts

variable [WordSource G]

/-- What a tick makes of the living, when its cohort has marched and the young are born. -/
structure Succession (steps : Steps G) (world marched : World G) (young : List Forager)
    (report : Report) (after : World G) : Prop where
  /-- Nobody is listed twice. -/
  once : world.live.toList.Nodup
  /-- Each of the living acts where those before it have left the world. -/
  acts : ∀ done key left, world.live.toList = done ++ key :: left →
    ∃ start next rested tired skipped, steps done world.opened start ∧
      Acts steps world start key next marched rested tired skipped ∧ steps left next marched
  cohort : marched.foragers.map Forager.id = world.foragers.map Forager.id
  /-- Survivors come first, in their order, and are halved if they have split. -/
  foragers : after.foragers =
    (survivors marched.foragers).map (Forager.spent world.config) ++ young
  live : after.live.toList.map Int.ofNat = after.foragers.map Forager.id
  stays : ∀ key ∈ world.live.toList, ∀ tired, marched.records[key]? = some tired →
    0 < tired.energy → key ∈ after.live.toList ∧
      ∃ survivor, after.records[key]? = some survivor ∧ survivor.id = tired.id ∧
        survivor.tape = tired.tape ∧ survivor.energy =
          if world.config.reproductionThreshold < tired.energy then tired.energy / 2 else tired.energy
  /-- There is one of the young for each survivor above the threshold. -/
  born : young.length = (world.config.parents marched.foragers).length ∧
    ∀ place parent, (world.config.parents marched.foragers)[place]? = some parent →
      ∃ child, young[place]? = some child ∧
        Forager.Born world.config
          (world.config.brood world.opened.source world.nextId
            ((world.config.parents marched.foragers).take place)).2
          (world.nextId + place) parent child
  source : after.source =
    (world.config.brood world.opened.source world.nextId (world.config.parents marched.foragers)).2
  walls : after.ground.walls = world.ground.walls
  step : after.step = world.step + 1 ∧ report.step = after.step
  births : report.births = young.length
  deaths : report.deaths = world.population - (survivors marched.foragers).length ∧
    (survivors marched.foragers).length ≤ world.population
  population : report.population = after.population ∧
    (after.population : Int) = world.population + report.births - report.deaths

theorem Turns.acts {meals : List (Nat × Finset Cell)} {done left : List Nat} (sound : world.Sound)
    (turns : Turns world.opened meals marched) (cohort : meals.map Prod.fst = world.live.toList)
    (cut : world.live.toList = done ++ key :: left) :
    ∃ start next rested tired skipped, ownSteps done world.opened start ∧
      Acts ownSteps world start key next marched rested tired skipped ∧
      ownSteps left next marched := by
  have distinct : (done ++ key :: left).Nodup := cut ▸ sound.enrolled.nodup
  rw [cut] at cohort
  obtain ⟨eaten, others, rfl, rfl, rest⟩ := List.map_eq_append_iff.mp cohort
  obtain ⟨⟨_, meal⟩, later, rfl, rfl, rfl⟩ := List.map_eq_cons_iff.mp rest
  obtain ⟨start, next, earlier, turn, onward⟩ := turns.exists_turn
  obtain ⟨-, notLater, apart⟩ := List.nodup_append.mp distinct
  have unchanged := earlier.others fun listed => apart _ listed _ List.mem_cons_self rfl
  rw [records_opened sound.valid] at unchanged
  have config := earlier.config.trans (config_opened sound.valid)
  have kept := onward.others (List.nodup_cons.mp notLater).1
  obtain ⟨rested, tired, skipped, acts⟩ := turn.acts sound.valid config unchanged kept
  exact ⟨start, next, rested, tired, skipped, earlier.stepAll, acts, onward.stepAll⟩

theorem Ticked.walls (valid : world.config.Valid)
    (march : March world.config world.opened.ground world.foragers marched.ground marched.foragers)
    (ticked : Ticked world marched.ground marched.foragers report after) :
    after.ground.walls = world.ground.walls := by
  obtain ⟨food, source, countdown, opened⟩ := exists_opened valid
  rw [ticked.ground, Ground.walls_foldl_occupy, Ground.walls_foldl_vacate, march.walls valid,
    opened.eq]

theorem Sound.born_brood (sound : world.Sound) (stepped : List Forager) (place : Nat)
    {parent : Forager} (found : (world.config.parents stepped)[place]? = some parent) :
    ∃ child, (world.config.brood world.opened.source world.nextId
        (world.config.parents stepped)).1[place]? = some child ∧
      Forager.Born world.config
        (world.config.brood world.opened.source world.nextId
          ((world.config.parents stepped).take place)).2
        (world.nextId + place) parent child := by
  have fertile : parent.Fertile world.config := by
    have listed := List.mem_of_getElem? found
    simpa [Config.parents] using (List.mem_filter.mp listed).2
  rw [Config.getElem?_brood, found]
  exact ⟨_, rfl, Forager.born_split sound.valid fertile _ _⟩

theorem Sound.exists_succession (sound : world.Sound) :
    ∃ marched young report after, World.stepAll world.live.toList world.opened = .ok () marched ∧
      world.tick = .ok report after ∧ Succession ownSteps world marched young report after := by
  obtain ⟨meals, marched, report, after, cohort, turns, march, standing, live, done, ticked, -⟩ :=
    sound.tick_turns
  have balance := Balance.of_tick done
  have ids := march.map_id sound.valid
  have fewer : (survivors marched.foragers).length ≤ world.population := by
    have all := congrArg List.length ids
    rw [List.length_map, List.length_map, sound.enrolled.length_foragers] at all
    exact all ▸ List.length_filter_le _ _
  refine ⟨marched, _, report, after, cohort ▸ turns.stepAll, done, {
    once := sound.enrolled.nodup
    acts := fun done key left cut => turns.acts sound cohort cut
    cohort := ids
    foragers := ticked.foragers
    live := ticked.enrolled.map_id_foragers.symm
    stays := ?_
    born := ⟨Config.length_brood _ _ _ _, fun place parent => sound.born_brood _ place⟩
    source := ticked.source
    walls := ticked.walls sound.valid march
    step := ⟨balance.step, balance.reported.1⟩
    births := ?_
    deaths := ⟨?_, fewer⟩
    population := ⟨balance.reported.2.1, ?_⟩ }⟩
  · intro key listed tired found alive
    obtain ⟨still, record⟩ := ticked.survivor standing.enrolled (live ▸ listed) found alive
    exact ⟨still, _, record, Forager.id_spent _ _, Forager.tape_spent _ _,
      Forager.energy_spent alive⟩
  · rw [ticked.report, Config.length_brood]
  · rw [ticked.report]
  · have counted := balance.population
    omega

end Accounts

end World

namespace Shared

variable {G : Type} {shared : Shared G} {keys others : List Nat}
  {world middle after other : World G} {key : Nat}

/-- The steps of foragers some of which may carry one tape. -/
def steps (shared : Shared G) : World.Steps G := fun keys world after =>
  stepAll keys { shared with world } = .ok () { shared with world := after }

theorem steps_append (first : shared.steps keys world middle)
    (second : shared.steps others middle after) : shared.steps (keys ++ others) world after :=
  (stepAll_append first others).trans second

theorem steps_unique (first : shared.steps keys world after)
    (second : shared.steps keys world other) : after = other := by
  have same := first.symm.trans second
  simpa using same

/-- Where none of the living shares its tape with another, they take their steps as if nobody did. -/
theorem Own.exists_steps (own : shared.Own shared.world.live.toList) (alike : world.SameLiving other)
    (living : world.live = shared.world.live) (listed : keys ⊆ shared.world.live.toList)
    (taken : World.stepAll keys world = .ok () after) :
    ∃ afterToo, shared.steps keys other afterToo ∧ after.SameLiving afterToo ∧
      after.live = shared.world.live := by
  have ownToo : ({ shared with world := other } : Shared G).Own other.live.toList := by
    rw [alike.live, living]
    exact own
  obtain ⟨afterToo, takenToo, alikeToo, kept⟩ :=
    exists_stepAll_of_own ownToo alike (living ▸ listed) taken
  exact ⟨afterToo, takenToo, alikeToo, kept.trans living⟩

variable [WordSource G] {marched marchedToo : World G} {done rest : List Nat}

/-- Each of the living acts where those before it have left the world, as if nobody shared a tape. -/
theorem Own.exists_acts (own : shared.Own shared.world.live.toList)
    (opened : shared.world.opened.live = shared.world.live)
    (taken : shared.steps shared.world.live.toList shared.world.opened marchedToo)
    (cut : shared.world.live.toList = done ++ key :: rest)
    (plain : ∃ start next rested tired skipped,
      World.ownSteps done shared.world.opened start ∧
      World.Acts World.ownSteps shared.world start key next marched rested tired skipped ∧
      World.ownSteps rest next marched) :
    ∃ start next rested tired skipped, shared.steps done shared.world.opened start ∧
      World.Acts shared.steps shared.world start key next marchedToo rested tired skipped ∧
      shared.steps rest next marchedToo := by
  obtain ⟨start, next, rested, tired, skipped, earlier, acts, later⟩ := plain
  have listed : done ++ key :: rest ⊆ shared.world.live.toList := cut ▸ List.Subset.refl _
  obtain ⟨doneListed, onward⟩ := List.append_subset.mp listed
  obtain ⟨here, restListed⟩ := List.cons_subset.mp onward
  obtain ⟨startToo, earlierToo, startAlike, startLive⟩ :=
    own.exists_steps (.refl _) opened doneListed earlier
  obtain ⟨nextToo, turnToo, nextAlike, nextLive⟩ :=
    own.exists_steps startAlike startLive (List.cons_subset.mpr ⟨here, List.nil_subset _⟩) acts.taken
  obtain ⟨lastToo, laterToo, lastAlike, lastLive⟩ :=
    own.exists_steps nextAlike nextLive restListed later
  have whole := steps_append earlierToo (steps_append turnToo laterToo)
  rw [List.singleton_append, ← cut] at whole
  obtain rfl := steps_unique whole taken
  refine ⟨startToo, nextToo, rested, tired, skipped, earlierToo, {
    taken := turnToo
    before := ⟨acts.before.1, ?_⟩
    after := ⟨?_, ?_⟩
    ran := ?_
    few := acts.few
    id := acts.id
    opcodes := acts.opcodes
    pointer := acts.pointer }, laterToo⟩
  · rw [startAlike.records key (startLive ▸ here)]
    exact acts.before.2
  · rw [nextAlike.records key (nextLive ▸ here)]
    exact acts.after.1
  · rw [lastAlike.records key (lastLive ▸ here)]
    exact acts.after.2
  · rw [startAlike.ground]
    exact acts.ran

/-- Where none of the living shares its tape with another, each of them acts once in a tick. -/
theorem Sound.exists_succession (sound : shared.Sound)
    (own : shared.Own shared.world.live.toList) :
    ∃ marched young report after,
      shared.steps shared.world.live.toList shared.world.opened marched ∧
      shared.tick = .ok report { shared with world := after } ∧
      World.Succession shared.steps shared.world marched young report after := by
  obtain ⟨marched, young, report, after, taken, done, plain⟩ := sound.world.exists_succession
  have live := World.live_opened sound.world.valid
  obtain ⟨marchedToo, takenToo, alike, kept⟩ :=
    own.exists_steps (.refl _) live (List.Subset.refl _) taken
  obtain ⟨same, settled⟩ := alike.settle shared.world.live.toList.length
  obtain ⟨rfl, rfl⟩ := EStateM.Result.ok.inj (done.symm.trans (World.tick_of_stepAll taken))
  have ticked := @tick_of_stepAll G shared _ { shared with world := marchedToo } takenToo
  refine ⟨marchedToo, young, _, _, takenToo, ticked, ?_⟩
  rw [same]
  have foragers := alike.foragers
  constructor
  · exact plain.once
  · exact fun done key left cut => own.exists_acts live takenToo cut (plain.acts done key left cut)
  · rw [foragers]
    exact plain.cohort
  · rw [foragers, settled.foragers]
    exact plain.foragers
  · rw [settled.live, settled.foragers]
    exact plain.live
  · intro key listed tired found alive
    rw [alike.records key (kept ▸ listed)] at found
    obtain ⟨still, survivor, record, facts⟩ := plain.stays key listed tired found alive
    rw [settled.live]
    exact ⟨still, survivor, (settled.records key still).trans record, facts⟩
  · rw [foragers]
    exact plain.born
  · rw [foragers, settled.source]
    exact plain.source
  · rw [settled.ground]
    exact plain.walls
  · rw [settled.step]
    exact plain.step
  · exact plain.births
  · rw [foragers]
    exact plain.deaths
  · rw [World.population, settled.live]
    exact plain.population

/--
In every world that can be reached in which none of the living shares its tape with another, the
next tick comes to its end. Each of the living has acted once in it and none of the young has;
those who had energy left are there still, and after them come the young, one for each of those
who had more than the threshold.
-/
theorem Reachable.tick_acts_once {G : Type} [SeededSource G] {shared : Shared G}
    (reachable : shared.Reachable) (own : shared.Own shared.world.live.toList) :
    ∃ marched young report after,
      shared.steps shared.world.live.toList shared.world.opened marched ∧
      shared.tick = .ok report { shared with world := after } ∧
      World.Succession shared.steps shared.world marched young report after :=
  reachable.sound.exists_succession own

/--
An example: the second forager has outlived the first, whose tape it carries. Of those who came
after them one is about to starve, and two are about to split.
-/
def nursery : Shared Script :=
  [Deed.plain (.update [(Parameter.regrowthRate.name, .whole 0)]),
    .plain (.place ⟨0, 0⟩ .up [.sleep] 0 (some 1)),
    .join 0 ⟨5, 5⟩ .down (some 40),
    .plain .tick,
    .plain (.place ⟨0, 0⟩ .up [.sleep] 0 (some 1)),
    .plain (.place ⟨0, 0⟩ .left [.skip2, .move, .ifEntity] 1 (some 300)),
    .plain (.place ⟨99, 0⟩ .right [.ifEntity, .sleep] 1 (some 301))].foldl perform
      (ofWorld (World.empty Config.default (SeededSource.ofSeed 0)))

theorem reachable_nursery : nursery.Reachable :=
  (Reachable.empty Config.valid_default _).foldl _

theorem tick_acts_once_nursery :
    nursery.Reachable ∧ nursery.origin 1 = 0 ∧ nursery.Own nursery.world.live.toList ∧
      (left nursery.tick).world.foragers.map Forager.energy = [38, 149, 150, 149, 150] ∧
      ∃ marched young report after, nursery.tick = .ok report { nursery with world := after } ∧
        World.Succession nursery.steps nursery.world marched young report after := by
  have own : nursery.Own nursery.world.live.toList := by
    unfold Own
    decide +kernel
  obtain ⟨marched, young, report, after, -, done, succession⟩ :=
    Reachable.tick_acts_once reachable_nursery own
  exact ⟨reachable_nursery, by decide +kernel, own, by decide +kernel, marched, young, report,
    after, done, succession⟩

def soloist : Forager :=
  ⟨Forager.outsider, 50, ⟨10, 10⟩, .up, .ofList [.move, .left, .right]⟩

/-- An example: one forager that was let in twice. -/
def encore : World Script :=
  ((World.empty Config.default (SeededSource.ofSeed 0)).letIn soloist).letInAgain 0 soloist

/-- Where two carry one tape, none of them acts just once: the pointer moves for both at each step. -/
theorem not_succession_duet :
    ¬ ∃ marched young report after,
      duet.steps duet.world.live.toList duet.world.opened marched ∧
      duet.tick = .ok report { duet with world := after } ∧
      World.Succession duet.steps duet.world marched young report after := by
  rintro ⟨marched, young, report, after, taken, -, succession⟩
  have cut : duet.world.live.toList = [] ++ 0 :: [1] := by decide +kernel
  obtain ⟨start, next, rested, tired, skipped, -, acts, -⟩ := succession.acts [] 0 [1] cut
  obtain ⟨opcode, current, skips⟩ := acts.ran
  have tape : duet.world.records[0]?.map Forager.tape =
      some (Tape.ofList [.move, .left, .right]) := by decide +kernel
  rw [acts.before.1] at tape
  obtain tape : rested.tape = Tape.ofList [.move, .left, .right] := Option.some.inj tape
  rw [tape] at current
  obtain rfl : Opcode.move = opcode := Option.some.inj current
  obtain rfl : 0 = skipped := skips
  have once : tired.tape.pointer = 1 := by
    rw [acts.pointer, tape]
    rfl
  have twice : (left (stepAll duet.world.live.toList duet.opened)).world.records[0]?.map
      (·.tape.pointer) = some 2 := by decide +kernel
  have last : stepAll duet.world.live.toList duet.opened = .ok () { duet with world := marched } :=
    taken
  rw [last] at twice
  simp [left, acts.after.2, once] at twice

/--
Two that carry one tape find its pointer moved twice by a tick, though a move skips nothing, and so
does a forager that is listed twice.
-/
theorem pointer_moves_twice :
    duet.Reachable ∧ duet.world.foragers.map (·.tape.pointer) = [0, 0] ∧
      (left duet.tick).world.foragers.map (·.tape.pointer) = [2, 2] ∧
      (¬ ∃ marched young report after,
        duet.steps duet.world.live.toList duet.world.opened marched ∧
        duet.tick = .ok report { duet with world := after } ∧
        World.Succession duet.steps duet.world marched young report after) ∧
      (World.empty Config.default (SeededSource.ofSeed 0)).add soloist >>=
        (fun world => world.addAgain 0 soloist) = .ok encore ∧
      encore.foragers.map (·.tape.pointer) = [0, 0] ∧
      (World.left encore.tick).foragers.map (·.tape.pointer) = [2, 2] :=
  ⟨reachable_duet, by decide +kernel, by decide +kernel, not_succession_duet, rfl, by decide +kernel,
    by decide +kernel⟩

end Shared

end Forage
