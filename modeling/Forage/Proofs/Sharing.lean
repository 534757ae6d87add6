import Forage.Proofs.Script
import Forage.Proofs.Sound
import Forage.World.Shared

/-!
# Worlds whose foragers may share tapes

Whatever is done to such a world, it stays sound, and those who carry one tape carry it in one
state. A tick of it always comes to its end.
-/

namespace Forage

namespace World

variable {G : Type} {world : World G}

/-- The living stay sound if their tapes change, as long as all of them have an opcode to run. -/
theorem Sound.map_tape (sound : world.Sound) {change : Nat → Forager → Forager}
    (tapes : ∀ key forager, ∃ tape, change key forager = { forager with tape } ∧
      (forager.tape.Fit → tape.Fit)) :
    ({ world with records := world.records.map change } : World G).Sound := by
  have records (key : Nat) : (world.records.map change)[key]? = world.records[key]?.map (change key) :=
    Std.ExtTreeMap.getElem?_map
  have position (key : Nat) (forager : Forager) : (change key forager).position = forager.position := by
    obtain ⟨tape, same, -⟩ := tapes key forager
    rw [same]
  have foragers : ({ world with records := world.records.map change } : World G).foragers =
      world.foragers.map fun forager => change forager.id.toNat forager := by
    rw [foragers_eq_called, foragers_eq_called, called, called, List.map_filterMap]
    apply List.filterMap_congr
    intro key listed
    obtain ⟨forager, found, id⟩ := sound.enrolled.known key listed
    simp [records, found, id]
  constructor
  · exact sound.valid
  · refine ⟨sound.enrolled.ascending, sound.enrolled.fresh, ?_⟩
    intro key listed
    obtain ⟨forager, found, id⟩ := sound.enrolled.known key listed
    obtain ⟨tape, same, -⟩ := tapes key forager
    refine ⟨change key forager, ?_, ?_⟩
    · simp [records, found]
    · rw [same]
      exact id
  · exact sound.food
  · exact sound.walls
  · rw [foragers, List.forall_mem_map]
    intro forager listed
    obtain ⟨tape, same, fit⟩ := tapes forager.id.toNat forager
    rw [same]
    exact ⟨(sound.fit forager listed).position, fit (sound.fit forager listed).tape⟩
  · rw [foragers]
    exact sound.counts.congr fun cell =>
      headcount_map (fun forager => position forager.id.toNat forager) world.foragers cell

end World

namespace World

variable {G : Type} {world other : World G} {origin : Nat → Nat} {key : Nat}
  {forager young : Forager}

/--
Everyone on record has an opcode to run, and those whose tapes have one origin carry them in one
state. An origin is never younger than who has it, and whoever is yet to come has none but itself.
-/
structure Tied (origin : Nat → Nat) (world : World G) : Prop where
  numbered : ∀ {key : Nat} {forager : Forager}, world.records[key]? = some forager →
    key < world.nextId
  fit : ∀ {key : Nat} {forager : Forager}, world.records[key]? = some forager → forager.tape.Fit
  agree : ∀ {key other : Nat} {forager another : Forager}, world.records[key]? = some forager →
    world.records[other]? = some another → origin key = origin other →
    forager.tape = another.tape
  older : ∀ key < world.nextId, origin key < world.nextId
  newer : ∀ key, world.nextId ≤ key → origin key = key

/-- Whoever is on record when a newcomer has come is the newcomer, or was there before. -/
theorem known_of_letIn (found : (world.letIn young).records[key]? = some forager) :
    key = world.nextId ∧ forager.tape = young.tape ∨ world.records[key]? = some forager := by
  simp only [World.letIn, Std.ExtTreeMap.getElem?_insert, Std.LawfulEqCmp.compare_eq_iff_eq] at found
  split at found
  · next same =>
    obtain rfl := Option.some.inj found
    exact .inl ⟨same.symm, rfl⟩
  · exact .inr found

namespace Tied

theorem of_records (tied : world.Tied origin) (records : other.records = world.records)
    (nextId : other.nextId = world.nextId) : other.Tied origin := by
  constructor
  · rw [records, nextId]
    exact tied.numbered
  · rw [records]
    exact tied.fit
  · rw [records]
    exact tied.agree
  · rw [nextId]
    exact tied.older
  · rw [nextId]
    exact tied.newer

theorem empty (config : Config) (source : G) : (World.empty config source).Tied id where
  numbered found := by simp [World.empty] at found
  fit found := by simp [World.empty] at found
  agree found := by simp [World.empty] at found
  older _ before := before
  newer _ _ := rfl

/-- A newcomer is known to no one, unless it carries what those of its origin carry. -/
theorem letIn_of_agree {changed : Nat → Nat} (tied : world.Tied origin) (fit : young.tape.Fit)
    (before : ∀ key < world.nextId, changed key = origin key)
    (here : changed world.nextId ≤ world.nextId)
    (beyond : ∀ key, world.nextId < key → changed key = key)
    (agree : ∀ {other : Nat} {another : Forager}, world.records[other]? = some another →
      changed world.nextId = origin other → young.tape = another.tape) :
    (world.letIn young).Tied changed := by
  have nextId : (world.letIn young).nextId = world.nextId + 1 := rfl
  constructor
  · intro key forager found
    rw [nextId]
    rcases known_of_letIn found with ⟨rfl, -⟩ | known
    · exact Nat.lt_succ_self _
    · exact Nat.lt_succ_of_lt (tied.numbered known)
  · intro key forager found
    rcases known_of_letIn found with ⟨-, tape⟩ | known
    · exact tape ▸ fit
    · exact tied.fit known
  · intro key other forager another found foundToo same
    rcases known_of_letIn found with ⟨rfl, tape⟩ | known
    · rcases known_of_letIn foundToo with ⟨-, tapeToo⟩ | knownToo
      · exact tape.trans tapeToo.symm
      · rw [before other (tied.numbered knownToo)] at same
        exact tape.trans (agree knownToo same)
    · rw [before key (tied.numbered known)] at same
      rcases known_of_letIn foundToo with ⟨rfl, tapeToo⟩ | knownToo
      · exact (tapeToo.trans (agree known same.symm)).symm
      · rw [before other (tied.numbered knownToo)] at same
        exact tied.agree known knownToo same
  · intro key earlier
    rw [nextId] at earlier ⊢
    rcases Nat.lt_or_eq_of_le (Nat.le_of_lt_succ earlier) with earlier | rfl
    · rw [before key earlier]
      exact Nat.lt_succ_of_lt (tied.older key earlier)
    · exact Nat.lt_succ_of_le here
  · intro key later
    rw [nextId] at later
    exact beyond key later

theorem letIn (tied : world.Tied origin) (fit : young.tape.Fit) : (world.letIn young).Tied origin := by
  have own : origin world.nextId = world.nextId := tied.newer _ (Nat.le_refl _)
  refine tied.letIn_of_agree fit (fun _ _ => rfl) (Nat.le_of_eq own)
    (fun key later => tied.newer key (Nat.le_of_lt later)) ?_
  intro other another found same
  have earlier := tied.older other (tied.numbered found)
  omega

theorem insert (tied : world.Tied origin) (found : world.records[key]? = some forager)
    (nextId : other.nextId = world.nextId)
    (records : other.records = world.records.insert key young) (tape : young.tape = forager.tape) :
    other.Tied origin := by
  have record {listed : Nat} {record : Forager} (held : other.records[listed]? = some record) :
      ∃ earlier, world.records[listed]? = some earlier ∧ record.tape = earlier.tape := by
    rw [records, Std.ExtTreeMap.getElem?_insert] at held
    split at held
    · next same =>
      obtain rfl := Std.LawfulEqCmp.eq_of_compare same
      obtain rfl := Option.some.inj held
      exact ⟨forager, found, tape⟩
    · exact ⟨record, held, rfl⟩
  constructor
  · intro listed _ held
    obtain ⟨earlier, held, -⟩ := record held
    rw [nextId]
    exact tied.numbered held
  · intro listed _ held
    obtain ⟨earlier, held, same⟩ := record held
    rw [same]
    exact tied.fit held
  · intro first second _ _ held heldToo same
    obtain ⟨earlier, held, sameTape⟩ := record held
    obtain ⟨another, heldToo, sameTapeToo⟩ := record heldToo
    rw [sameTape, sameTapeToo]
    exact tied.agree held heldToo same
  · rw [nextId]
    exact tied.older
  · rw [nextId]
    exact tied.newer

variable [WordSource G]

theorem breed (tied : world.Tied origin) (valid : world.config.Valid) (key : Nat) :
    (world.breed key).Tied origin := by
  cases found : world.records[key]? with
  | none =>
      simp only [World.breed, found]
      exact tied
  | some parent =>
      rw [breed_eq found]
      apply Tied.letIn
      · exact tied.insert found rfl rfl rfl
      · exact (Forager.fit_split valid parent world.source).tape

theorem foldl_breed (tied : world.Tied origin) (valid : world.config.Valid) (keys : List Nat) :
    (keys.foldl World.breed world).Tied origin := by
  induction keys generalizing world with
  | nil => exact tied
  | cons key keys inductionHypothesis =>
      have still : (world.breed key).config.Valid := (config_breed key world).symm ▸ valid
      exact inductionHypothesis (tied.breed valid key) still

theorem settle (tied : world.Tied origin) (valid : world.config.Valid) (cohort : Nat) :
    (world.settle cohort).2.Tied origin := by
  have buried : world.bury.Tied origin := by
    rw [bury_eq]
    exact tied.of_records rfl rfl
  have still : world.bury.config.Valid := (config_bury world).symm ▸ valid
  exact buried.foldl_breed still _

theorem welcome (tied : world.Tied origin) : (left (World.welcome world)).Tied origin := by
  unfold World.welcome
  dsimp only
  split
  · exact tied.of_records rfl rfl
  · next taped =>
    have fit := Config.fit_drawTape taped
    exact Tied.letIn (tied.of_records rfl rfl) fit

theorem stock {config : Config} (valid : config.Valid) (source : G) :
    (left (World.stock (World.empty config source))).Tied id := by
  obtain ⟨food, walls, rest, stocked⟩ := exists_stock_eq valid source
  rw [stocked]
  apply populate_keeps welcome
  exact (Tied.empty config source).of_records rfl rfl

end Tied

end World

namespace Shared

/-- What may be done to a world whose foragers may share tapes. -/
inductive Deed where
  /-- What may be done to any world; a newcomer has a tape of its own. -/
  | plain (deed : Forage.Deed)
  | join (carrier : Nat) (position : Cell) (heading : Heading) (energy : Option Int)

variable {G : Type}

/-- The world that work leaves behind, whether it comes to its end or not. -/
def left {α : Type} : EStateM.Result Fault (Shared G) α → Shared G
  | .ok _ shared => shared
  | .error _ shared => shared

/-- The world after a change, or as it was if the change has failed. -/
def changed (shared : Shared G) : Except Fault (Shared G) → Shared G
  | .ok after => after
  | .error _ => shared

/-- Lets one of the living act, and shows its tape to all who carry it. -/
def act (shared : Shared G) (key : Nat) (action : Action) : Except Fault (Shared G) :=
  (shared.world.act key action).map fun world => { shared with world }.spread key

/-- The world after a deed. -/
def perform [SeededSource G] (shared : Shared G) : Deed → Shared G
  | .plain .tick => left shared.tick
  | .plain (.reset seed) => .ofWorld (World.left (World.reset seed shared.world))
  | .plain (.act key action) => shared.changed (shared.act key action)
  | .plain deed => { shared with world := shared.world.perform deed }
  | .join carrier position heading energy =>
      shared.changed (shared.join carrier position heading energy)

/-- The worlds that deeds can lead to, beginning with an empty or a stocked one. -/
inductive Reachable [SeededSource G] : Shared G → Prop where
  | empty {config} (valid : config.Valid) (source : G) :
      Reachable (.ofWorld (World.empty config source))
  | create {config} (valid : config.Valid) (source : G) {world} :
      World.create config source = .ok world → Reachable (.ofWorld world)
  | perform {shared} (deed : Deed) : Reachable shared → Reachable (shared.perform deed)

variable {shared : Shared G} {key other : Nat} {forager : Forager}

theorem origin_ofWorld (world : World G) : (ofWorld world).origin = id :=
  funext fun _ => Std.ExtTreeMap.getD_empty

/-- None of some foragers carries a tape together with another of them. -/
def Own (shared : Shared G) (keys : List Nat) : Prop :=
  (keys.map shared.origin).Nodup

/-- A forager that carries a tape in the state in which it is shown. -/
def shown (shared : Shared G) (key : Nat) (tape : Tape) (other : Nat) (record : Forager) : Forager :=
  if shared.origin other = shared.origin key then { record with tape } else record

theorem tape_shown (shared : Shared G) (key : Nat) (tape : Tape) (other : Nat) (record : Forager) :
    (shared.shown key tape other record).tape =
      if shared.origin other = shared.origin key then tape else record.tape := by
  unfold shown
  split <;> rfl

theorem spread_eq (found : shared.world.records[key]? = some forager) :
    shared.spread key =
      { shared with
        world := { shared.world with
          records := shared.world.records.map (shared.shown key forager.tape) } } := by
  simp only [spread, found]
  rfl

theorem getElem?_records_spread (found : shared.world.records[key]? = some forager) (other : Nat) :
    (shared.spread key).world.records[other]? =
      shared.world.records[other]?.map (shared.shown key forager.tape other) := by
  rw [spread_eq found, Std.ExtTreeMap.getElem?_map]

/-- One of the living is where a step has brought it, and its tape is shown to all who carry it. -/
def exchange (shared : Shared G) (key : Nat) (situation : Situation) : Shared G :=
  ({ shared with world := shared.world.put key situation } : Shared G).spread key

theorem exchange_eq (shared : Shared G) (key : Nat) (situation : Situation) :
    shared.exchange key situation =
      { shared with
        world := { shared.world with
          ground := situation.ground
          records := (shared.world.records.insert key situation.forager).map
            (shared.shown key situation.forager.tape) } } := by
  have here : (shared.world.put key situation).records[key]? = some situation.forager :=
    Std.ExtTreeMap.getElem?_insert_self
  exact @spread_eq G { shared with world := shared.world.put key situation } key _ here

theorem config_exchange (shared : Shared G) (key : Nat) (situation : Situation) :
    (shared.exchange key situation).world.config = shared.world.config := by
  rw [exchange_eq]

theorem ground_exchange (shared : Shared G) (key : Nat) (situation : Situation) :
    (shared.exchange key situation).world.ground = situation.ground := by
  rw [exchange_eq]

theorem live_exchange (shared : Shared G) (key : Nat) (situation : Situation) :
    (shared.exchange key situation).world.live = shared.world.live := by
  rw [exchange_eq]

theorem getElem?_records_exchange (shared : Shared G) (key : Nat) (situation : Situation)
    (other : Nat) :
    (shared.exchange key situation).world.records[other]? =
      if key = other then some situation.forager
      else shared.world.records[other]?.map (shared.shown key situation.forager.tape other) := by
  rw [exchange_eq, Std.ExtTreeMap.getElem?_map, Std.ExtTreeMap.getElem?_insert]
  simp only [Std.LawfulEqCmp.compare_eq_iff_eq]
  split
  · next same =>
    subst same
    simp [shown]
  · rfl

theorem origin_exchange (shared : Shared G) (key : Nat) (situation : Situation) :
    (shared.exchange key situation).origin = shared.origin := by
  rw [exchange_eq]
  rfl

theorem exists_of_records_exchange {situation : Situation} {record : Forager}
    (found : shared.world.records[key]? = some forager)
    (held : (shared.exchange key situation).world.records[other]? = some record) :
    ∃ earlier, shared.world.records[other]? = some earlier ∧
      record.tape = if shared.origin other = shared.origin key then situation.forager.tape
        else earlier.tape := by
  rw [getElem?_records_exchange] at held
  split at held
  · next same =>
    subst same
    obtain rfl := Option.some.inj held
    exact ⟨forager, found, (if_pos rfl).symm⟩
  · obtain ⟨before, known, rfl⟩ := Option.map_eq_some_iff.mp held
    exact ⟨before, known, tape_shown shared key situation.forager.tape other before⟩

/-- All who carry a tape see where its pointer was moved to, so they still carry one state of it. -/
theorem tied_exchange {situation : Situation} (tied : shared.world.Tied shared.origin)
    (found : shared.world.records[key]? = some forager) (fit : situation.forager.tape.Fit) :
    (shared.exchange key situation).world.Tied (shared.exchange key situation).origin := by
  have nextId : (shared.exchange key situation).world.nextId = shared.world.nextId := by
    rw [exchange_eq]
  rw [origin_exchange]
  constructor
  · intro other _ held
    obtain ⟨earlier, held, -⟩ := exists_of_records_exchange found held
    exact nextId.symm ▸ tied.numbered held
  · intro other _ held
    obtain ⟨earlier, held, tape⟩ := exists_of_records_exchange found held
    rw [tape]
    split
    · exact fit
    · exact tied.fit held
  · intro one another _ _ held heldToo same
    obtain ⟨earlier, held, tape⟩ := exists_of_records_exchange found held
    obtain ⟨other, heldToo, tapeToo⟩ := exists_of_records_exchange found heldToo
    rw [tape, tapeToo, same]
    split
    · rfl
    · exact tied.agree held heldToo same
  · exact nextId.symm ▸ tied.older
  · exact nextId.symm ▸ tied.newer

theorem stepOne_of_step {situation : Situation} (found : shared.world.records[key]? = some forager)
    (done : Situation.step shared.world.config ⟨shared.world.ground, forager⟩ = .ok situation) :
    stepOne key shared = .ok () (shared.exchange key situation) := by
  simp only [stepOne, World.stepOne, found, done, exchange]

theorem live_spread (shared : Shared G) (key : Nat) :
    (shared.spread key).world.live = shared.world.live := by
  unfold spread
  split <;> rfl

theorem ties_spread (shared : Shared G) (key : Nat) : (shared.spread key).ties = shared.ties := by
  unfold spread
  split <;> rfl

theorem origin_spread (shared : Shared G) (key : Nat) : (shared.spread key).origin = shared.origin := by
  funext other
  rw [origin, origin, ties_spread]

/-- A world is in order, and so are the tapes that are carried in it. -/
structure Sound (shared : Shared G) : Prop where
  world : shared.world.Sound
  tied : shared.world.Tied shared.origin

namespace Sound

theorem spread (sound : shared.world.Sound) (listed : key ∈ shared.world.live.toList) :
    (shared.spread key).world.Sound := by
  obtain ⟨forager, found, -⟩ := sound.enrolled.known key listed
  have fit := sound.fit forager (mem_called.mpr ⟨key, listed, found⟩)
  rw [spread_eq found]
  apply sound.map_tape
  intro other record
  unfold shown
  split
  · exact ⟨forager.tape, rfl, fun _ => fit.tape⟩
  · exact ⟨record.tape, rfl, id⟩

theorem exchange (sound : shared.Sound) {situation : Situation} {eaten : Finset Cell} {cost : Int}
    (listed : key ∈ shared.world.live.toList) (found : shared.world.records[key]? = some forager)
    (passage : Situation.Passage shared.world.config ⟨shared.world.ground, forager⟩ situation eaten
      cost) :
    (shared.exchange key situation).Sound := by
  have put := sound.world.put listed found passage
  have here : (shared.world.put key situation).records[key]? = some situation.forager :=
    Std.ExtTreeMap.getElem?_insert_self
  have fit := (put.fit situation.forager (mem_called.mpr ⟨key, listed, here⟩)).tape
  exact ⟨spread put listed, tied_exchange sound.tied found fit⟩

theorem exists_exchange (sound : shared.Sound) (listed : key ∈ shared.world.live.toList) :
    ∃ forager situation, shared.world.records[key]? = some forager ∧
      forager.Fit shared.world.config ∧
      Situation.step shared.world.config ⟨shared.world.ground, forager⟩ = .ok situation ∧
      (shared.exchange key situation).Sound := by
  obtain ⟨forager, found, -⟩ := sound.world.enrolled.known key listed
  have fit := sound.world.fit forager (mem_called.mpr ⟨key, listed, found⟩)
  obtain ⟨situation, done⟩ :=
    @Situation.step_eq_ok ⟨shared.world.ground, forager⟩ shared.world.config fit.tape
  obtain ⟨eaten, passage⟩ := Situation.step_passage sound.world.valid done
  exact ⟨forager, situation, found, fit, done, sound.exchange listed found passage⟩

theorem stepOne (sound : shared.Sound) (listed : key ∈ shared.world.live.toList) :
    ∃ after, stepOne key shared = .ok () after ∧ after.Sound ∧
      after.world.live = shared.world.live ∧ after.ties = shared.ties := by
  obtain ⟨forager, situation, found, -, done, kept⟩ := sound.exists_exchange listed
  exact ⟨_, stepOne_of_step found done, kept, live_exchange _ key situation, ties_spread _ key⟩

/-- The living can take their steps one after the other, however far they come. -/
theorem stepAll (sound : shared.Sound) {keys : List Nat}
    (listed : keys ⊆ shared.world.live.toList) :
    ∃ after, stepAll keys shared = .ok () after ∧ after.Sound ∧
      after.world.live = shared.world.live ∧ after.ties = shared.ties := by
  induction keys generalizing shared with
  | nil => exact ⟨shared, rfl, sound, rfl, rfl⟩
  | cons key keys inductionHypothesis =>
      obtain ⟨here, rest⟩ := List.cons_subset.mp listed
      obtain ⟨middle, first, middleSound, live, ties⟩ := sound.stepOne here
      obtain ⟨after, others, afterSound, afterLive, afterTies⟩ :=
        inductionHypothesis middleSound (live ▸ rest)
      refine ⟨after, ?_, afterSound, afterLive.trans live, afterTies.trans ties⟩
      simp only [Shared.stepAll, first, others]

theorem changed (sound : shared.Sound) {result : Except Fault (Shared G)}
    (kept : ∀ after, result = .ok after → after.Sound) : (shared.changed result).Sound := by
  cases result with
  | ok after => exact kept after rfl
  | error fault => exact sound

theorem act (sound : shared.Sound) {action : Action} {after : Shared G}
    (acted : shared.act key action = .ok after) : after.Sound := by
  obtain ⟨world, done, rfl⟩ := map_eq_ok_iff.mp acted
  obtain ⟨forager, situation, listed, found, performed, rfl⟩ := World.act_eq_ok_iff.mp done
  obtain ⟨eaten, cost, passage⟩ := action.perform_passage sound.world.valid performed
  exact sound.exchange listed found passage

/-- Whoever is let in with the tape of another carries what all of that origin carry. -/
theorem join (sound : shared.Sound) {position : Cell} {heading : Heading} {energy : Option Int}
    {after : Shared G} (joined : shared.join key position heading energy = .ok after) :
    after.Sound := by
  unfold Shared.join at joined
  cases found : shared.world.records[key]? with
  | none => simp [found] at joined
  | some forager =>
      simp only [found, bind_eq_ok_iff, pure_eq_ok_iff] at joined
      obtain ⟨world, placed, rfl⟩ := joined
      have fit := sound.tied.fit found
      refine ⟨sound.world.place fit placed, ?_⟩
      obtain ⟨goal, -, rfl⟩ := World.place_eq_ok_iff.mp placed
      have origin (other : Nat) :
          (⟨shared.world, shared.ties.insert shared.world.nextId (shared.origin key)⟩ :
            Shared G).origin other =
          if shared.world.nextId = other then shared.origin key else shared.origin other := by
        simp [Shared.origin, Std.ExtTreeMap.getD_insert]
      have here := origin shared.world.nextId
      rw [if_pos rfl] at here
      apply World.Tied.letIn_of_agree sound.tied
      · exact fit
      · intro other earlier
        exact (origin other).trans (if_neg (Nat.ne_of_gt earlier))
      · exact here.trans_le (Nat.le_of_lt (sound.tied.older key (sound.tied.numbered found)))
      · intro other later
        exact ((origin other).trans (if_neg (Nat.ne_of_lt later))).trans
          (sound.tied.newer other (Nat.le_of_lt later))
      · intro other another held same
        have tape := sound.tied.agree found held (here.symm.trans same)
        exact tape

end Sound

section Source

variable [WordSource G]

/-- The world when its cohort begins to step. -/
def opened (shared : Shared G) : Shared G :=
  { shared with world := shared.world.opened }

theorem Sound.opened (sound : shared.Sound) : shared.opened.Sound := by
  refine ⟨sound.world.opened, ?_⟩
  obtain ⟨food, source, countdown, opened⟩ := World.exists_opened sound.world.valid
  rw [Shared.opened, opened.eq]
  exact sound.tied.of_records rfl rfl

theorem tick_of_stepAll {last : Shared G}
    (marched : stepAll shared.world.live.toList shared.opened = .ok () last) :
    shared.tick = .ok (last.world.settle shared.world.live.toList.length).1
      { last with world := (last.world.settle shared.world.live.toList.length).2 } := by
  unfold opened World.opened at marched
  simp only [tick, marched]

theorem Sound.tick (sound : shared.Sound) :
    ∃ last report after, Shared.stepAll shared.world.live.toList shared.opened = .ok () last ∧
      shared.tick = .ok report after ∧ after.Sound ∧ after.ties = shared.ties := by
  have cohort : shared.world.live.toList ⊆ shared.opened.world.live.toList := by
    rw [Shared.opened, World.live_opened sound.world.valid]
    exact List.Subset.refl _
  obtain ⟨last, marched, kept, -, ties⟩ := sound.opened.stepAll cohort
  have world := kept.world.settle shared.world.live.toList.length
  have tied := kept.tied.settle kept.world.valid shared.world.live.toList.length
  exact ⟨last, _, _, marched, tick_of_stepAll marched, ⟨world, tied⟩, ties⟩

theorem Sound.ofStocked {config : Config} (valid : config.Valid) (source : G) :
    (ofWorld (World.left (World.stock (World.empty config source)))).Sound := by
  refine ⟨(World.Sound.empty valid source).stock, ?_⟩
  rw [origin_ofWorld]
  exact World.Tied.stock valid source

end Source

variable [SeededSource G]

theorem Sound.perform (sound : shared.Sound) (deed : Deed) : (shared.perform deed).Sound := by
  cases deed with
  | join carrier position heading energy => exact sound.changed fun _ => sound.join
  | plain deed =>
      cases deed with
      | tick =>
          obtain ⟨last, report, after, -, done, kept, -⟩ := sound.tick
          rw [Shared.perform, done]
          exact kept
      | reset seed => exact .ofStocked sound.world.valid _
      | act key action => exact sound.changed fun _ => sound.act
      | place position heading opcodes pointer energy =>
          refine ⟨sound.world.perform (.place position heading opcodes pointer energy), ?_⟩
          refine World.changed_keeps sound.tied fun after placed => ?_
          obtain ⟨goal, -, rfl⟩ := World.place_eq_ok_iff.mp placed
          exact sound.tied.letIn (Tape.fit_startingAt opcodes pointer)
      | addFood cell =>
          refine ⟨sound.world.perform (.addFood cell), ?_⟩
          refine World.changed_keeps sound.tied fun after added => ?_
          obtain ⟨goal, -, rfl⟩ := World.addFood_eq_ok_iff.mp added
          exact sound.tied.of_records rfl rfl
      | addWall cell =>
          refine ⟨sound.world.perform (.addWall cell), ?_⟩
          refine World.changed_keeps sound.tied fun after added => ?_
          obtain ⟨goal, -, rfl⟩ := World.addWall_eq_ok_iff.mp added
          exact sound.tied.of_records rfl rfl
      | removeFood cell => exact ⟨sound.world.removeFood cell, sound.tied.of_records rfl rfl⟩
      | update changes =>
          refine ⟨sound.world.perform (.update changes), ?_⟩
          refine World.changed_keeps sound.tied fun after updated => ?_
          obtain ⟨-, tuned, -, rfl⟩ := World.update_eq_ok_iff.mp updated
          exact sound.tied.of_records rfl rfl

theorem Reachable.sound (reachable : shared.Reachable) : shared.Sound := by
  induction reachable with
  | @empty config valid source =>
      refine ⟨.empty valid source, ?_⟩
      rw [origin_ofWorld]
      exact .empty config source
  | @create config valid source world created =>
      have stocked := Sound.ofStocked valid source
      unfold World.create at created
      cases done : World.stock (World.empty config source) with
      | ok value world =>
          rw [done] at created stocked
          obtain rfl := Except.ok.inj created
          exact stocked
      | error fault world => simp [done] at created
  | perform deed _ inductionHypothesis => exact inductionHypothesis.perform deed

theorem Reachable.foldl (reachable : shared.Reachable) (deeds : List Deed) :
    (deeds.foldl Shared.perform shared).Reachable := by
  induction deeds generalizing shared with
  | nil => exact reachable
  | cons deed deeds inductionHypothesis => exact inductionHypothesis (reachable.perform deed)

/-- Foragers whose tapes have one origin carry them in one state, whatever was done to them. -/
theorem Reachable.tape_eq (reachable : shared.Reachable) {another : Forager}
    (found : shared.world.records[key]? = some forager)
    (foundToo : shared.world.records[other]? = some another)
    (same : shared.origin key = shared.origin other) : forager.tape = another.tape :=
  reachable.sound.tied.agree found foundToo same

/-- An example: two foragers that carry one tape. -/
def duet : Shared Script :=
  [Deed.plain (.place ⟨10, 10⟩ .up [.move, .left, .right] 0 (some 50)),
    .join 0 ⟨50, 50⟩ .up (some 50)].foldl perform
      (ofWorld (World.empty Config.default (SeededSource.ofSeed 0)))

theorem reachable_duet : duet.Reachable :=
  (Reachable.empty Config.valid_default _).foldl _

end Shared

end Forage
