import Forage.Proofs.Founders
import Mathlib.Logic.Function.Basic

/-!
# Pedigrees

A pedigree tells of a world how many births lie between each of its foragers and a first
one, and how many ticks have passed since the world was last made anew. What a tick does to
one forager is a step and, for a survivor with enough energy, a split; so what holds of
everyone and is kept by those two holds of everyone after the tick.
-/

namespace Forage

variable {G : Type}

/-- A world with the descent of its foragers. -/
structure Pedigree (G : Type) where
  world : World G
  /-- The births between a first forager and the one that has the number. -/
  generation : Nat → Nat
  /-- The ticks since the world was last made anew. -/
  ticks : Nat

namespace World

/-- Nobody is listed twice, and the next number is that of nobody. -/
structure Orderly (world : World G) : Prop where
  nodup : world.live.toList.Nodup
  fresh : ∀ key ∈ world.live.toList, key < world.nextId

theorem Enrolled.orderly {world : World G} (enrolled : world.Enrolled) : world.Orderly :=
  ⟨enrolled.nodup, enrolled.fresh⟩

theorem Orderly.notMem_live {world : World G} (orderly : world.Orderly) :
    world.nextId ∉ world.live.toList :=
  fun living => Nat.lt_irrefl _ (orderly.fresh _ living)

theorem Orderly.of_roll {world after : World G} (orderly : world.Orderly)
    (live : after.live = world.live) (nextId : after.nextId = world.nextId) : after.Orderly := by
  constructor
  · rw [live]
    exact orderly.nodup
  · rw [live, nextId]
    exact orderly.fresh

theorem mem_live_bury {world : World G} {key : Nat} :
    key ∈ world.bury.live.toList ↔ key ∈ world.live.toList ∧ world.isAlive key := by
  rw [bury_eq]
  simp

theorem records_bury (world : World G) : world.bury.records = world.records := by
  rw [bury_eq]

theorem Orderly.bury {world : World G} (orderly : world.Orderly) : world.bury.Orderly := by
  constructor
  · rw [bury_eq]
    simpa using orderly.nodup.filter _
  · intro key listed
    rw [nextId_bury]
    exact orderly.fresh key (mem_live_bury.mp listed).1

/-- What has changed when some of the living have taken their steps. -/
structure Stepped (world after : World G) (keys : List Nat) : Prop where
  config : after.config = world.config
  live : after.live = world.live
  nextId : after.nextId = world.nextId
  absent : ∀ key ∉ keys, after.records[key]? = world.records[key]?
  taken : ∀ key ∈ keys, ∀ forager, after.records[key]? = some forager →
    ∃ before ground situation, world.records[key]? = some before ∧
      Situation.step world.config ⟨ground, before⟩ = .ok situation ∧ forager = situation.forager

theorem stepped_stepOne {world after : World G} {key : Nat}
    (done : stepOne key world = .ok () after) : Stepped world after [key] := by
  unfold stepOne at done
  cases found : world.records[key]? with
  | none =>
      rw [found] at done
      obtain ⟨-, rfl⟩ := EStateM.Result.ok.inj done
      refine ⟨rfl, rfl, rfl, fun _ _ => rfl, ?_⟩
      intro other listed forager known
      rw [List.mem_singleton.mp listed, found] at known
      cases known
  | some before =>
      simp only [found] at done
      cases result : Situation.step world.config ⟨world.ground, before⟩ with
      | error fault => simp [result] at done
      | ok situation =>
          simp only [result] at done
          obtain ⟨-, rfl⟩ := EStateM.Result.ok.inj done
          refine ⟨rfl, rfl, rfl, ?_, ?_⟩
          · intro other apart
            have notKey : key ≠ other := fun same => apart (List.mem_singleton.mpr same.symm)
            simp [put, Std.ExtTreeMap.getElem?_insert, notKey]
          · intro other listed forager known
            obtain rfl := List.mem_singleton.mp listed
            have stored : some situation.forager = some forager := by
              rw [← known]
              exact Std.ExtTreeMap.getElem?_insert_self.symm
            exact ⟨before, world.ground, situation, found, result, (Option.some.inj stored).symm⟩

theorem stepped_stepAll {keys : List Nat} {world after : World G} (distinct : keys.Nodup)
    (done : stepAll keys world = .ok () after) : Stepped world after keys := by
  induction keys generalizing world with
  | nil =>
      obtain ⟨-, rfl⟩ := EStateM.Result.ok.inj done
      exact ⟨rfl, rfl, rfl, fun _ _ => rfl, fun _ listed => absurd listed List.not_mem_nil⟩
  | cons key keys inductionHypothesis =>
      obtain ⟨apart, distinct⟩ := List.nodup_cons.mp distinct
      unfold stepAll at done
      cases result : stepOne key world with
      | error fault middle => simp [result] at done
      | ok value middle =>
          simp only [result] at done
          have first := stepped_stepOne result
          have rest := inductionHypothesis distinct done
          constructor
          · exact rest.config.trans first.config
          · exact rest.live.trans first.live
          · exact rest.nextId.trans first.nextId
          · intro other absent
            obtain ⟨notKey, notIn⟩ := not_or.mp (mt List.mem_cons.mpr absent)
            rw [rest.absent other notIn]
            exact first.absent other fun listed => notKey (List.mem_singleton.mp listed)
          · intro other listed forager known
            rcases List.mem_cons.mp listed with rfl | later
            · rw [rest.absent other apart] at known
              exact first.taken other (List.mem_singleton.mpr rfl) forager known
            · have notKey : other ∉ [key] := fun same =>
                apart (List.mem_singleton.mp same ▸ later)
              obtain ⟨before, ground, situation, found, taken, same⟩ :=
                rest.taken other later forager known
              rw [first.absent other notKey] at found
              rw [first.config] at taken
              exact ⟨before, ground, situation, found, taken, same⟩

section Breed

variable [WordSource G] {world : World G} {key : Nat} {parent : Forager}

theorem breed_of_unknown (unknown : world.records[key]? = none) : world.breed key = world := by
  simp [breed, unknown]

theorem live_breed (found : world.records[key]? = some parent) :
    (world.breed key).live.toList = world.live.toList ++ [world.nextId] := by
  rw [breed_eq found]
  exact Array.toList_push

theorem newborn_breed (found : world.records[key]? = some parent) :
    (world.breed key).records[world.nextId]? =
      some { (parent.split world.config world.source).2.1 with id := world.nextId } := by
  rw [breed_eq found]
  exact Std.ExtTreeMap.getElem?_insert_self

theorem Orderly.breed (orderly : world.Orderly) (found : world.records[key]? = some parent) :
    (world.breed key).Orderly := by
  have nextId : (world.breed key).nextId = world.nextId + 1 := by
    rw [breed_eq found]
    rfl
  constructor
  · rw [live_breed found, List.nodup_append]
    refine ⟨orderly.nodup, List.nodup_singleton _, ?_⟩
    intro other living next listed same
    rw [List.mem_singleton.mp listed] at same
    exact orderly.notMem_live (same ▸ living)
  · rw [live_breed found, nextId]
    intro other living
    rcases List.mem_append.mp living with before | last
    · exact Nat.lt_succ_of_lt (orderly.fresh other before)
    · exact List.mem_singleton.mp last ▸ Nat.lt_succ_self _

end Breed

end World

namespace Pedigree

def begin (world : World G) : Pedigree G :=
  ⟨world, fun _ => 0, 0⟩

/-- Something holds of each of the living and its generation. -/
def Each (holds : Nat → Forager → Prop) (pedigree : Pedigree G) : Prop :=
  ∀ key ∈ pedigree.world.live.toList, ∀ forager, pedigree.world.records[key]? = some forager →
    holds (pedigree.generation key) forager

/-- What holds of everyone in a world holds of each of the living in its pedigree. -/
theorem each_iff {pedigree : Pedigree G} {holds : Forager → Prop} :
    pedigree.Each (fun _ => holds) ↔ ∀ forager ∈ pedigree.world.foragers, holds forager := by
  constructor
  · intro each forager listed
    obtain ⟨key, living, known⟩ := mem_called.mp listed
    exact each key living forager known
  · intro all key living forager known
    exact all forager (mem_called.mpr ⟨key, living, known⟩)

variable [WordSource G]

/-- Lets a forager split; its young is of the next generation. -/
def breed (pedigree : Pedigree G) (key : Nat) : Pedigree G :=
  { pedigree with
    world := pedigree.world.breed key
    generation := Function.update pedigree.generation pedigree.world.nextId
      (pedigree.generation key + 1) }

/-- The pedigree after a tick. -/
def tick (pedigree : Pedigree G) : Pedigree G :=
  match World.stepAll pedigree.world.live.toList pedigree.world.opened with
  | .error _ world => { pedigree with world, ticks := pedigree.ticks + 1 }
  | .ok _ world =>
      world.bury.parents.foldl breed
        { pedigree with world := world.bury, ticks := pedigree.ticks + 1 }

theorem world_foldl_breed (keys : List Nat) (pedigree : Pedigree G) :
    (keys.foldl breed pedigree).world = keys.foldl World.breed pedigree.world := by
  induction keys generalizing pedigree with
  | nil => rfl
  | cons key keys inductionHypothesis => exact inductionHypothesis _

theorem ticks_foldl_breed (keys : List Nat) (pedigree : Pedigree G) :
    (keys.foldl breed pedigree).ticks = pedigree.ticks := by
  induction keys generalizing pedigree with
  | nil => rfl
  | cons key keys inductionHypothesis => exact inductionHypothesis _

theorem world_tick (pedigree : Pedigree G) : pedigree.tick.world = World.left pedigree.world.tick := by
  unfold tick
  cases marched : World.stepAll pedigree.world.live.toList pedigree.world.opened with
  | error fault world =>
      have failed : pedigree.world.tick = .error fault world := by
        unfold World.opened at marched
        simp only [World.tick, marched]
      rw [failed]
      rfl
  | ok value world =>
      rw [World.tick_of_stepAll marched, world_foldl_breed]
      rfl

theorem ticks_tick (pedigree : Pedigree G) : pedigree.tick.ticks = pedigree.ticks + 1 := by
  unfold tick
  split
  · rfl
  · exact ticks_foldl_breed _ _

section Breed

variable {pedigree : Pedigree G} {holds : Nat → Forager → Prop} {key : Nat} {keys : List Nat}

/--
While some keys are still to split, a statement holds of everyone else, and will hold of both
halves of theirs.
-/
structure Due (holds : Nat → Forager → Prop) (keys : List Nat) (pedigree : Pedigree G) : Prop where
  stay : ∀ key ∈ pedigree.world.live.toList, key ∉ keys → ∀ forager,
    pedigree.world.records[key]? = some forager → holds (pedigree.generation key) forager
  split : ∀ key ∈ keys, ∀ forager, pedigree.world.records[key]? = some forager →
    holds (pedigree.generation key) forager.halved ∧ ∀ source id,
      holds (pedigree.generation key + 1)
        { (forager.split pedigree.world.config (source : G)).2.1 with id }

/-- Nobody who is in the world changes generation when another forager comes in. -/
theorem generation_breed (orderly : pedigree.world.Orderly) {other : Nat}
    (living : other ∈ pedigree.world.live.toList) :
    (pedigree.breed key).generation other = pedigree.generation other :=
  Function.update_of_ne (Nat.ne_of_lt (orderly.fresh other living)) _ _

theorem Due.breed_of_unknown (due : Due holds (key :: keys) pedigree)
    (orderly : pedigree.world.Orderly) (listed : keys ⊆ pedigree.world.live.toList)
    (found : pedigree.world.records[key]? = none) : Due holds keys (pedigree.breed key) := by
  have same : (pedigree.breed key).world = pedigree.world := World.breed_of_unknown found
  constructor
  · rw [same]
    intro other living notIn forager known
    rw [generation_breed orderly living]
    apply due.stay other living _ forager known
    rw [List.mem_cons, not_or]
    refine ⟨?_, notIn⟩
    rintro rfl
    simp [found] at known
  · rw [same]
    intro other later forager known
    rw [generation_breed orderly (listed later)]
    exact due.split other (List.mem_cons_of_mem _ later) forager known

theorem Due.breed_of_known (due : Due holds (key :: keys) pedigree)
    (orderly : pedigree.world.Orderly) (apart : key ∉ keys)
    (listed : keys ⊆ pedigree.world.live.toList) {parent : Forager}
    (found : pedigree.world.records[key]? = some parent) : Due holds keys (pedigree.breed key) := by
  obtain ⟨halved, young⟩ := due.split key List.mem_cons_self parent found
  constructor
  · rw [breed, World.live_breed found]
    intro other living notIn forager known
    rcases List.mem_append.mp living with before | last
    · rw [World.records_breed orderly.notMem_live found before] at known
      change holds ((pedigree.breed key).generation other) forager
      rw [generation_breed orderly before]
      by_cases same : key = other
      · subst same
        rw [if_pos rfl] at known
        exact Option.some.inj known ▸ halved
      · rw [if_neg same] at known
        apply due.stay other before _ forager known
        rw [List.mem_cons, not_or]
        exact ⟨Ne.symm same, notIn⟩
    · obtain rfl := List.mem_singleton.mp last
      rw [World.newborn_breed found] at known
      have generation : (pedigree.breed key).generation pedigree.world.nextId =
          pedigree.generation key + 1 := Function.update_self _ _ _
      change holds ((pedigree.breed key).generation _) forager
      rw [generation, ← Option.some.inj known]
      exact young _ _
  · intro other later forager known
    have notKey : key ≠ other := fun same => apart (same ▸ later)
    rw [breed, World.records_breed orderly.notMem_live found (listed later), if_neg notKey] at known
    rw [generation_breed orderly (listed later), breed, World.config_breed]
    exact due.split other (List.mem_cons_of_mem _ later) forager known

/-- What holds of those who stay, of those who split and of the young holds of everyone. -/
theorem each_foldl_breed (orderly : pedigree.world.Orderly) (distinct : keys.Nodup)
    (listed : keys ⊆ pedigree.world.live.toList) (due : Due holds keys pedigree) :
    (keys.foldl breed pedigree).Each holds := by
  induction keys generalizing pedigree with
  | nil => exact fun key living => due.stay key living List.not_mem_nil
  | cons key keys inductionHypothesis =>
      obtain ⟨-, rest⟩ := List.cons_subset.mp listed
      obtain ⟨apart, distinct⟩ := List.nodup_cons.mp distinct
      rw [List.foldl_cons]
      cases found : pedigree.world.records[key]? with
      | none =>
          have same : (pedigree.breed key).world = pedigree.world := World.breed_of_unknown found
          exact inductionHypothesis (same ▸ orderly) distinct (same ▸ rest)
            (due.breed_of_unknown orderly rest found)
      | some parent =>
          have live : (pedigree.breed key).world.live.toList =
              pedigree.world.live.toList ++ [pedigree.world.nextId] := World.live_breed found
          apply inductionHypothesis (orderly.breed found) distinct
          · rw [live]
            exact fun other later => List.mem_append_left _ (rest later)
          · exact due.breed_of_known orderly apart rest found

end Breed

/--
What is kept through a tick: what holds before it, what holds when the step has been taken,
and what holds after it of those who stay, of those who split and of their young.
-/
structure Rears (G : Type) [WordSource G] (config : Config) (before stepped after : Nat → Forager → Prop) :
    Prop where
  step : ∀ {generation ground forager situation}, before generation forager →
    Situation.step config ⟨ground, forager⟩ = .ok situation → stepped generation situation.forager
  stay : ∀ {generation forager}, stepped generation forager → forager.Alive →
    ¬forager.Fertile config → after generation forager
  halve : ∀ {generation forager}, stepped generation forager → forager.Fertile config →
    after generation forager.halved
  bear : ∀ {generation forager}, stepped generation forager → forager.Fertile config →
    ∀ (source : G) id, after (generation + 1) { (forager.split config source).2.1 with id }

theorem Rears.each_tick {pedigree : Pedigree G} {before stepped after : Nat → Forager → Prop}
    (rears : Rears G pedigree.world.config before stepped after) (valid : pedigree.world.config.Valid)
    (orderly : pedigree.world.Orderly) (each : pedigree.Each before) {report : Report}
    {next : World G} (done : pedigree.world.tick = .ok report next) : pedigree.tick.Each after := by
  obtain ⟨marched, march, -⟩ := World.exists_stepAll_of_tick done
  obtain ⟨food, source, countdown, opened⟩ := World.exists_opened valid
  have steps := World.stepped_stepAll orderly.nodup march
  have config : marched.config = pedigree.world.config := by rw [steps.config, opened.eq]
  have live : marched.live = pedigree.world.live := by rw [steps.live, opened.eq]
  have nextId : marched.nextId = pedigree.world.nextId := by rw [steps.nextId, opened.eq]
  have still : marched.Orderly := orderly.of_roll live nextId
  have stood {key : Nat} (listed : key ∈ marched.live.toList) {forager : Forager}
      (known : marched.records[key]? = some forager) :
      stepped (pedigree.generation key) forager := by
    rw [live] at listed
    obtain ⟨earlier, ground, situation, found, taken, rfl⟩ := steps.taken key listed forager known
    rw [World.config_opened valid] at taken
    rw [World.records_opened valid] at found
    exact rears.step (each key listed earlier found) taken
  have fertile {key : Nat} {forager : Forager} (known : marched.bury.records[key]? = some forager) :
      marched.bury.isFertile key = decide (forager.Fertile pedigree.world.config) := by
    rw [World.isFertile_eq known, World.config_bury, config]
  unfold tick
  rw [march]
  apply each_foldl_breed
  · exact still.bury
  · exact still.bury.nodup.filter _
  · exact List.filter_subset_self _
  · constructor
    · intro key listed other forager known
      obtain ⟨stays, lives⟩ := World.mem_live_bury.mp listed
      have infertile : ¬forager.Fertile pedigree.world.config := by
        intro enough
        apply other
        rw [World.parents, List.mem_filter, fertile known]
        exact ⟨listed, decide_eq_true enough⟩
      rw [World.records_bury] at known
      apply rears.stay (stood stays known) _ infertile
      simpa [World.isAlive, known] using lives
    · intro key parent forager known
      rw [World.parents, List.mem_filter, fertile known] at parent
      obtain ⟨listed, enough⟩ := parent
      have enough := of_decide_eq_true enough
      rw [World.records_bury] at known
      have ready := stood (World.mem_live_bury.mp listed).1 known
      rw [World.config_bury, config]
      exact ⟨rears.halve ready enough, fun source id => rears.bear ready enough source id⟩

end Pedigree

/-- What is done to a world without letting a forager in by hand or telling one what to do. -/
def Deed.Upkeep : Deed → Prop
  | .place .. => False
  | .act .. => False
  | _ => True

namespace World

/-- Everyone in the world stays as it is, and the configuration is changed at most where it is tunable. -/
structure Kept (world after : World G) : Prop where
  live : after.live = world.live
  records : after.records = world.records
  step : after.step = world.step
  tuned : world.config.Tuned after.config

variable {world : World G}

theorem Kept.of_config {after : World G} (valid : world.config.Valid) (live : after.live = world.live)
    (records : after.records = world.records) (step : after.step = world.step)
    (config : after.config = world.config) : Kept world after where
  live := live
  records := records
  step := step
  tuned := by
    rw [config]
    exact valid.tuned_self

theorem Kept.foragers {after : World G} (kept : Kept world after) : after.foragers = world.foragers := by
  rw [foragers_eq_called, foragers_eq_called, kept.live, kept.records]

theorem kept_changed (valid : world.config.Valid) {result : Except Fault (World G)}
    (kept : ∀ after, result = .ok after → Kept world after) : Kept world (world.changed result) :=
  changed_keeps (.of_config valid rfl rfl rfl rfl) kept

/-- Upkeep keeps everyone as it is, except for ticks and for making the world anew. -/
theorem kept_perform [SeededSource G] (valid : world.config.Valid) {deed : Deed} (upkeep : deed.Upkeep)
    (still : deed ≠ .tick) (stays : ∀ seed, deed ≠ .reset seed) : Kept world (world.perform deed) := by
  cases deed with
  | tick => exact absurd rfl still
  | reset seed => exact absurd rfl (stays seed)
  | place => exact False.elim upkeep
  | act => exact False.elim upkeep
  | addFood cell =>
      apply kept_changed valid
      intro after added
      obtain ⟨goal, -, rfl⟩ := addFood_eq_ok_iff.mp added
      exact .of_config valid rfl rfl rfl rfl
  | addWall cell =>
      apply kept_changed valid
      intro after added
      obtain ⟨goal, -, rfl⟩ := addWall_eq_ok_iff.mp added
      exact .of_config valid rfl rfl rfl rfl
  | removeFood cell => exact .of_config valid rfl rfl rfl rfl
  | update changes =>
      apply kept_changed valid
      intro after updated
      obtain ⟨-, tuned, checked, rfl⟩ := update_eq_ok_iff.mp updated
      exact ⟨rfl, rfl, rfl, Config.tuned_of_update checked⟩

end World

namespace Pedigree

variable [SeededSource G]

/-- The pedigree after a deed; it begins anew where the world does. -/
def perform (pedigree : Pedigree G) : Deed → Pedigree G
  | .tick => pedigree.tick
  | .reset seed => begin (pedigree.world.perform (.reset seed))
  | deed => { pedigree with world := pedigree.world.perform deed }

/-- The pedigrees of worlds that come of the upkeep of one that was stocked. -/
inductive Raised (config : Config) : Pedigree G → Prop where
  | create (valid : config.Valid) (source : G) {world} :
      World.create config source = .ok world → Raised config (begin world)
  | perform {pedigree} {deed : Deed} (upkeep : deed.Upkeep) :
      Raised config pedigree → Raised config (pedigree.perform deed)

theorem world_perform (pedigree : Pedigree G) (deed : Deed) :
    (pedigree.perform deed).world = pedigree.world.perform deed := by
  cases deed with
  | tick => exact pedigree.world_tick
  | _ => rfl

theorem Raised.reachable {config : Config} {pedigree : Pedigree G} (raised : Raised config pedigree) :
    pedigree.world.Reachable := by
  induction raised with
  | create valid source created => exact .create valid source created
  | @perform pedigree deed _ _ inductionHypothesis =>
      rw [world_perform]
      exact inductionHypothesis.perform deed

end Pedigree

/-- A twister whose words are all zero, so that every draw takes the first choice. -/
def Twister.still : Twister :=
  ⟨Array.replicate size 0, 0⟩

end Forage
