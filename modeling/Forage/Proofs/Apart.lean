import Forage.Proofs.Motion
import Forage.Proofs.OwnTapes
import Mathlib.Data.List.Perm.Basic

/-!
# Foragers out of each other's reach

What a forager does depends on its tape and on the cells of its reach alone, and it changes no
others. So foragers whose reaches have no cell in common, and who carry no tape together, may take
their steps in any order.
-/

namespace Forage

namespace Situation

variable {config : Config} {ground other : Ground} {forager first second : Forager}
  {after afterFirst afterSecond : Situation}

/--
A forager takes the same step on another ground, if that is like the first within its reach.
Within its reach it leaves there what it would have left, and beyond it what was there.
-/
theorem step_of_alike (valid : config.Valid) (inGrid : config.InGrid forager.position)
    (alike : ∀ cell ∈ forager.reach config, other.spot cell = ground.spot cell)
    (done : Situation.step config ⟨ground, forager⟩ = .ok after) :
    ∃ left, Situation.step config ⟨other, forager⟩ = .ok ⟨left, after.forager⟩ ∧
      ∀ cell, left.spot cell =
        if cell ∈ forager.reach config then after.ground.spot cell else other.spot cell := by
  have onGrid (cell : Cell) : cell ∈ forager.reach config → config.InGrid cell :=
    Forager.inGrid_of_mem_reach valid inGrid
  have copied : Copied .still (↑(forager.reach config)) ⟨ground, forager⟩ ⟨other, forager⟩ :=
    ⟨rfl, Ground.copied_iff.mpr alike⟩
  obtain ⟨⟨left, tired⟩, otherDone, same, within⟩ :=
    copied.step valid (Motion.faithful_still onGrid) (fun _ member => member) done
  obtain rfl : tired = after.forager := same
  refine ⟨left, otherDone, fun cell => ?_⟩
  split
  · next member => exact Ground.copied_iff.mp within cell member
  · next beyond => exact spot_step valid inGrid otherDone beyond

/-- Two foragers out of each other's reach may take their steps one way round or the other. -/
theorem step_comm (valid : config.Valid) (firstInGrid : config.InGrid first.position)
    (secondInGrid : config.InGrid second.position)
    (apart : Disjoint (first.reach config) (second.reach config))
    (firstDone : Situation.step config ⟨ground, first⟩ = .ok afterFirst)
    (secondDone : Situation.step config ⟨ground, second⟩ = .ok afterSecond) :
    ∃ left, Situation.step config ⟨afterFirst.ground, second⟩ = .ok ⟨left, afterSecond.forager⟩ ∧
      Situation.step config ⟨afterSecond.ground, first⟩ = .ok ⟨left, afterFirst.forager⟩ := by
  have beyondFirst {cell : Cell} : cell ∉ first.reach config →
      afterFirst.ground.spot cell = ground.spot cell :=
    @spot_step config ⟨ground, first⟩ afterFirst cell valid firstInGrid firstDone
  have beyondSecond {cell : Cell} : cell ∉ second.reach config →
      afterSecond.ground.spot cell = ground.spot cell :=
    @spot_step config ⟨ground, second⟩ afterSecond cell valid secondInGrid secondDone
  obtain ⟨left, secondLast, leftSpot⟩ := step_of_alike valid secondInGrid
    (fun cell member => beyondFirst (Finset.disjoint_right.mp apart member)) secondDone
  obtain ⟨right, firstLast, rightSpot⟩ := step_of_alike valid firstInGrid
    (fun cell member => beyondSecond (Finset.disjoint_left.mp apart member)) firstDone
  have same : left = right := by
    apply Ground.ext_spot
    intro cell
    rw [leftSpot, rightSpot]
    split_ifs with inSecond inFirst inFirst
    · exact absurd inSecond (Finset.disjoint_left.mp apart inFirst)
    · rfl
    · rfl
    · rw [beyondFirst inFirst, beyondSecond inSecond]
  exact ⟨left, secondLast, same ▸ firstLast⟩

end Situation

namespace World

variable {G : Type} {world : World G} {forager : Forager} {first second key : Nat}
  {keys order : List Nat}

/-- The cells a forager of the records may come to in one step. -/
def reach (world : World G) (key : Nat) : Finset Cell :=
  (world.records[key]?.map (Forager.reach world.config)).getD ∅

/-- The foragers of a list are out of each other's reach. -/
def Apart (world : World G) (keys : List Nat) : Prop :=
  keys.Pairwise fun key other => Disjoint (world.reach key) (world.reach other)

theorem reach_of_record (found : world.records[key]? = some forager) :
    world.reach key = forager.reach world.config := by
  rw [reach, found, Option.map_some, Option.getD_some]

theorem Apart.perm (apart : world.Apart keys) (same : keys.Perm order) : world.Apart order :=
  (same.pairwise_iff fun disjoint => disjoint.symm).mp apart

end World

namespace Shared

variable {G : Type} {shared : Shared G} {first second key : Nat} {keys order : List Nat}

theorem reach_exchange {situation : Situation} (distinct : key ≠ second) :
    (shared.exchange key situation).world.reach second = shared.world.reach second := by
  unfold World.reach
  rw [getElem?_records_exchange, if_neg distinct, config_exchange, Option.map_map]
  congr 2
  funext forager
  unfold shown
  dsimp only [Function.comp]
  split <;> rfl

theorem apart_exchange {situation : Situation} (apart : shared.world.Apart keys)
    (left : key ∉ keys) : (shared.exchange key situation).world.Apart keys := by
  refine apart.imp_of_mem fun {one other} oneListed otherListed disjoint => ?_
  rwa [reach_exchange (ne_of_mem_of_not_mem oneListed left).symm,
    reach_exchange (ne_of_mem_of_not_mem otherListed left).symm]

theorem shown_exchange (shared : Shared G) (key : Nat) (situation : Situation) :
    (shared.exchange key situation).shown = shared.shown := by
  funext shown tape other record
  unfold Shared.shown
  rw [origin_exchange]

theorem shown_self {record : Forager} {tape : Tape}
    (distinct : shared.origin first ≠ shared.origin second) :
    shared.shown second tape first record = record :=
  if_neg distinct

theorem shown_comm (distinct : shared.origin first ≠ shared.origin second) (one two : Tape)
    (record : Forager) :
    shared.shown second two key (shared.shown first one key record) =
      shared.shown first one key (shared.shown second two key record) := by
  unfold shown
  by_cases isFirst : shared.origin key = shared.origin first
  · have notSecond : shared.origin key ≠ shared.origin second := isFirst ▸ distinct
    rw [if_pos isFirst, if_neg notSecond, if_neg notSecond, if_pos isFirst]
  · rw [if_neg isFirst, if_neg isFirst]

theorem exchange_comm {one two : Situation} (left : Ground)
    (distinct : shared.origin first ≠ shared.origin second) :
    (shared.exchange first one).exchange second ⟨left, two.forager⟩ =
      (shared.exchange second two).exchange first ⟨left, one.forager⟩ := by
  have apart : first ≠ second := fun same => distinct (congrArg shared.origin same)
  have records :
      ((shared.exchange first one).exchange second ⟨left, two.forager⟩).world.records =
        ((shared.exchange second two).exchange first ⟨left, one.forager⟩).world.records := by
    apply Std.ExtTreeMap.ext_getElem?
    intro key
    simp only [getElem?_records_exchange, shown_exchange]
    by_cases isFirst : first = key
    · subst isFirst
      rw [if_pos rfl, if_pos rfl, if_neg apart.symm, Option.map_some, shown_self distinct]
    · rw [if_neg isFirst, if_neg isFirst]
      by_cases isSecond : second = key
      · subst isSecond
        rw [if_pos rfl, if_pos rfl, Option.map_some, shown_self distinct.symm]
      · rw [if_neg isSecond, if_neg isSecond, Option.map_map, Option.map_map]
        congr 1
        funext record
        exact shown_comm distinct one.forager.tape two.forager.tape record
  simp only [exchange_eq] at records ⊢
  rw [records]

theorem stepAll_cons {middle : Shared G} (taken : stepOne key shared = .ok () middle)
    (keys : List Nat) : stepAll (key :: keys) shared = stepAll keys middle := by
  simp only [stepAll, taken]

theorem getElem?_records_exchange_of_ne {situation : Situation} {forager : Forager}
    (distinct : shared.origin first ≠ shared.origin second)
    (found : shared.world.records[second]? = some forager) :
    (shared.exchange first situation).world.records[second]? = some forager := by
  have apart : first ≠ second := fun same => distinct (congrArg shared.origin same)
  rw [getElem?_records_exchange, if_neg apart, found, Option.map_some, shown_self distinct.symm]

/-- Two of the living that are out of each other's reach may change places in the order. -/
theorem Sound.stepAll_swap (sound : shared.Sound) (firstListed : first ∈ shared.world.live.toList)
    (secondListed : second ∈ shared.world.live.toList)
    (apart : Disjoint (shared.world.reach first) (shared.world.reach second))
    (distinct : shared.origin first ≠ shared.origin second) (keys : List Nat) :
    Shared.stepAll (first :: second :: keys) shared =
      Shared.stepAll (second :: first :: keys) shared := by
  obtain ⟨one, afterOne, oneFound, oneFit, oneDone, -⟩ := sound.exists_exchange firstListed
  obtain ⟨two, afterTwo, twoFound, twoFit, twoDone, -⟩ := sound.exists_exchange secondListed
  rw [World.reach_of_record oneFound, World.reach_of_record twoFound] at apart
  obtain ⟨left, twoLast, oneLast⟩ :=
    Situation.step_comm sound.world.valid oneFit.position twoFit.position apart oneDone twoDone
  have twoStays : (shared.exchange first afterOne).world.records[second]? = some two :=
    getElem?_records_exchange_of_ne distinct twoFound
  have oneStays : (shared.exchange second afterTwo).world.records[first]? = some one :=
    getElem?_records_exchange_of_ne distinct.symm oneFound
  rw [← ground_exchange shared first, ← config_exchange shared first afterOne] at twoLast
  rw [← ground_exchange shared second, ← config_exchange shared second afterTwo] at oneLast
  rw [stepAll_cons (stepOne_of_step oneFound oneDone),
    stepAll_cons (stepOne_of_step twoStays twoLast),
    stepAll_cons (stepOne_of_step twoFound twoDone),
    stepAll_cons (stepOne_of_step oneStays oneLast), exchange_comm left distinct]

/-- The order of a list of foragers out of each other's reach makes no difference. -/
theorem Sound.stepAll_perm (same : keys.Perm order) (sound : shared.Sound)
    (listed : keys ⊆ shared.world.live.toList) (apart : shared.world.Apart keys)
    (own : shared.Own keys) : Shared.stepAll keys shared = Shared.stepAll order shared := by
  induction same generalizing shared with
  | nil => rfl
  | @cons key keys order same inductionHypothesis =>
      obtain ⟨here, rest⟩ := List.cons_subset.mp listed
      obtain ⟨-, restApart⟩ := List.pairwise_cons.mp apart
      obtain ⟨alone, restOwn⟩ := List.nodup_cons.mp own
      have absent : key ∉ keys := fun again => alone (List.mem_map_of_mem again)
      obtain ⟨forager, situation, found, -, done, middleSound⟩ := sound.exists_exchange here
      have taken := stepOne_of_step found done
      rw [stepAll_cons taken, stepAll_cons taken]
      apply inductionHypothesis middleSound
      · rw [live_exchange]
        exact rest
      · exact apart_exchange restApart absent
      · rw [Own, origin_exchange]
        exact restOwn
  | swap first second keys =>
      obtain ⟨secondListed, others⟩ := List.cons_subset.mp listed
      obtain ⟨disjoint, -⟩ := List.pairwise_cons.mp apart
      have distinct := (List.pairwise_cons.mp own).1 _ List.mem_cons_self
      exact sound.stepAll_swap secondListed (List.cons_subset.mp others).1
        (disjoint first List.mem_cons_self) distinct keys
  | trans same onward firstHypothesis secondHypothesis =>
      have ownOnward : shared.Own _ := (same.map shared.origin).nodup_iff.mp own
      have listedOnward := List.Subset.trans same.symm.subset listed
      exact (firstHypothesis sound listed apart own).trans
        (secondHypothesis sound listedOnward (apart.perm same) ownOnward)

/--
In every world that can be reached, those of the living that are out of each other's reach and
share no tape may take their steps in any order, and leave the same world.
-/
theorem Reachable.stepAll_eq_of_perm [SeededSource G] (reachable : shared.Reachable)
    (listed : keys ⊆ shared.world.live.toList) (apart : shared.world.Apart keys)
    (own : shared.Own keys) (same : keys.Perm order) :
    ∃ after, stepAll keys shared = .ok () after ∧ stepAll order shared = .ok () after := by
  have sound := reachable.sound
  obtain ⟨after, done, -⟩ := sound.stepAll listed
  exact ⟨after, done, (sound.stepAll_perm same listed apart own).symm.trans done⟩

/-- The company when the second of them has gone down, out of the reach of the first. -/
def parted : World Twister :=
  World.company.perform (.act 1 .step)

theorem reachable_parted : parted.Reachable :=
  World.reachable_company.perform _

/-- An example: somebody far away carries the tape of one of those that have parted. -/
def trio : Shared Twister :=
  (ofWorld parted).perform (.join 0 ⟨50, 50⟩ .left none)

theorem stepAll_eq_of_perm_trio :
    trio.Reachable ∧ trio.origin 2 = trio.origin 0 ∧ [0, 1] ⊆ trio.world.live.toList ∧
      trio.world.Apart [0, 1] ∧ trio.Own [0, 1] ∧ [0, 1].Perm [1, 0] ∧
      ∃ after, stepAll [0, 1] trio = .ok () after ∧ stepAll [1, 0] trio = .ok () after := by
  have reachable : trio.Reachable := (Reachable.of_world reachable_parted).perform _
  have listed : [0, 1] ⊆ trio.world.live.toList := by decide +kernel
  have apart : trio.world.Apart [0, 1] := by
    unfold World.Apart
    decide +kernel
  have own : trio.Own [0, 1] := by
    unfold Own
    decide +kernel
  have swapped : [0, 1].Perm [1, 0] := .swap 1 0 []
  exact ⟨reachable, by decide +kernel, listed, apart, own, swapped,
    Reachable.stepAll_eq_of_perm reachable listed apart own swapped⟩

def walker : Forager :=
  ⟨Forager.outsider, 50, ⟨0, 0⟩, .right, .ofList [.doubleMove]⟩

def grazer : Forager :=
  ⟨Forager.outsider, 50, ⟨5, 0⟩, .left, .ofList [.move]⟩

/-- An example: one forager that was let in twice, and one out of its reach with food before it. -/
def pasture : World Script :=
  let empty := World.empty Config.default (SeededSource.ofSeed 0)
  let walked := ((empty.letIn walker).letInAgain 0 walker).letIn grazer
  { walked with ground := walked.ground.sow ⟨4, 0⟩ }

/--
Two that carry one tape may be out of each other's reach, and still it matters who goes first. So
it does where one is listed twice, who comes into the reach of another with its first step.
-/
theorem order_matters_duet :
    duet.Reachable ∧ [0, 1] ⊆ duet.world.live.toList ∧ duet.world.Apart [0, 1] ∧
      (left (stepAll [0, 1] duet)).world.foragers.map Forager.position = [⟨10, 9⟩, ⟨50, 50⟩] ∧
      (left (stepAll [1, 0] duet)).world.foragers.map Forager.position = [⟨10, 10⟩, ⟨50, 49⟩] ∧
      ((((World.empty Config.default (SeededSource.ofSeed 0)).add walker >>=
        (fun world => world.addAgain 0 walker)) >>= (fun world => world.add grazer)) >>=
        (fun world => world.addFood ⟨4, 0⟩)) = .ok pasture ∧
      pasture.live.toList = [0, 0, 2] ∧ pasture.Apart [0, 2] ∧
      (World.left (World.stepAll [0, 0, 2] pasture)).foragers.map Forager.energy = [58, 58, 49] ∧
      (World.left (World.stepAll [2, 0, 0] pasture)).foragers.map Forager.energy = [48, 48, 59] := by
  have apart : duet.world.Apart [0, 1] := by
    unfold World.Apart
    decide +kernel
  have apartToo : pasture.Apart [0, 2] := by
    unfold World.Apart
    decide +kernel
  exact ⟨reachable_duet, by decide +kernel, apart, by decide +kernel, by decide +kernel, rfl,
    by decide +kernel, apartToo, by decide +kernel, by decide +kernel⟩

end Shared

end Forage
