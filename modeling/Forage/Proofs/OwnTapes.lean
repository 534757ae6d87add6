import Forage.Proofs.Sharing

/-!
# Where nobody shares a tape

While none of the living shares its tape with another, they take their steps as they do in a world
in which nobody shares anything, and only the dead may show a difference. Where every newcomer is
given a tape of its own there is none at all.
-/

namespace Forage

namespace World

variable {G : Type} {world other after : World G} {key : Nat}

/-- Two worlds are the same to the living if they differ in the records of the dead at most. -/
structure SameLiving (world other : World G) : Prop where
  same : other = { world with records := other.records }
  records : ∀ key ∈ world.live.toList, other.records[key]? = world.records[key]?

namespace SameLiving

theorem refl (world : World G) : world.SameLiving world :=
  ⟨rfl, fun _ _ => rfl⟩

theorem live (alike : world.SameLiving other) : other.live = world.live := by
  rw [alike.same]

theorem ground (alike : world.SameLiving other) : other.ground = world.ground := by
  rw [alike.same]

theorem config (alike : world.SameLiving other) : other.config = world.config := by
  rw [alike.same]

theorem step (alike : world.SameLiving other) : other.step = world.step := by
  rw [alike.same]

theorem source (alike : world.SameLiving other) : other.source = world.source := by
  rw [alike.same]

theorem trans (first : world.SameLiving other) (second : other.SameLiving after) :
    world.SameLiving after where
  same := by
    rw [second.same, first.same]
  records key listed :=
    (second.records key (first.live ▸ listed)).trans (first.records key listed)

theorem foragers (alike : world.SameLiving other) : other.foragers = world.foragers := by
  rw [foragers_eq_called, foragers_eq_called, alike.live]
  exact called_congr alike.records

theorem put (alike : world.SameLiving other) (key : Nat) (situation : Situation) :
    (world.put key situation).SameLiving (other.put key situation) where
  same := by
    rw [alike.same]
    rfl
  records listed living := by
    simp only [World.put, Std.ExtTreeMap.getElem?_insert]
    split
    · rfl
    · exact alike.records listed living

theorem stepOne (alike : world.SameLiving other) (listed : key ∈ world.live.toList)
    (taken : World.stepOne key world = .ok () after) :
    ∃ afterToo, World.stepOne key other = .ok () afterToo ∧ after.SameLiving afterToo ∧
      after.live = world.live := by
  have found := alike.records key listed
  unfold World.stepOne at taken ⊢
  rw [found, alike.ground, alike.config]
  cases record : world.records[key]? with
  | none =>
      rw [record] at taken
      obtain ⟨-, rfl⟩ := EStateM.Result.ok.inj taken
      exact ⟨other, rfl, alike, rfl⟩
  | some forager =>
      simp only [record] at taken ⊢
      cases done : Situation.step world.config ⟨world.ground, forager⟩ with
      | error fault => simp [done] at taken
      | ok situation =>
          simp only [done] at taken ⊢
          obtain ⟨-, rfl⟩ := EStateM.Result.ok.inj taken
          exact ⟨_, rfl, alike.put key situation, rfl⟩

theorem bury (alike : world.SameLiving other) : world.bury.SameLiving other.bury := by
  have alive : ∀ key ∈ world.live.toList, other.isAlive key = world.isAlive key :=
    fun key listed => by rw [isAlive, isAlive, alike.records key listed]
  have living : other.live.filter other.isAlive = world.live.filter world.isAlive := by
    apply Array.ext'
    rw [alike.live, Array.toList_filter, Array.toList_filter]
    exact List.filter_congr alive
  constructor
  · rw [bury_eq, bury_eq, living, alike.foragers]
    rw [alike.same]
  · intro key listed
    rw [bury_eq] at listed
    rw [bury_eq, bury_eq]
    refine alike.records key ?_
    rw [Array.toList_filter] at listed
    exact List.mem_of_mem_filter listed

theorem parents (alike : world.SameLiving other) : other.parents = world.parents := by
  rw [World.parents, World.parents, alike.live]
  apply List.filter_congr
  intro key listed
  rw [isFertile, isFertile, alike.records key listed, alike.config]

variable [WordSource G]

theorem breed (alike : world.SameLiving other) (listed : key ∈ world.live.toList) :
    (world.breed key).SameLiving (other.breed key) := by
  have found := alike.records key listed
  cases record : world.records[key]? with
  | none =>
      rw [record] at found
      simp only [World.breed, found, record]
      exact alike
  | some parent =>
      rw [record] at found
      rw [breed_eq record, breed_eq found, alike.config, alike.source]
      have nextId : other.nextId = world.nextId := by rw [alike.same]
      constructor
      · rw [alike.same]
        rfl
      · intro another living
        simp only [letIn, Array.toList_push, List.mem_append, List.mem_singleton] at living
        simp only [letIn, nextId, Std.ExtTreeMap.getElem?_insert]
        split
        · rfl
        · split
          · rfl
          · next new _ =>
            refine alike.records another (living.resolve_right fun same => new ?_)
            rw [same]
            exact Std.ReflCmp.compare_self

theorem foldl_breed (alike : world.SameLiving other) {keys : List Nat}
    (listed : keys ⊆ world.live.toList) :
    (keys.foldl World.breed world).SameLiving (keys.foldl World.breed other) := by
  induction keys generalizing world other with
  | nil => exact alike
  | cons key keys inductionHypothesis =>
      obtain ⟨here, rest⟩ := List.cons_subset.mp listed
      have kept : world.live.toList ⊆ (world.breed key).live.toList := by
        unfold World.breed
        split <;> simp [letIn]
      exact inductionHypothesis (alike.breed here) (List.Subset.trans rest kept)

theorem settle (alike : world.SameLiving other) (cohort : Nat) :
    (other.settle cohort).1 = (world.settle cohort).1 ∧
      (world.settle cohort).2.SameLiving (other.settle cohort).2 := by
  have listed : world.bury.parents ⊆ world.bury.live.toList := List.filter_subset_self _
  have parents := alike.bury.parents
  have bred : (world.bury.parents.foldl World.breed world.bury).SameLiving
      (other.bury.parents.foldl World.breed other.bury) := by
    rw [parents]
    exact alike.bury.foldl_breed listed
  refine ⟨?_, bred⟩
  simp only [World.settle, population, bred.step, bred.ground, bred.live, alike.bury.live]
  rw [parents]

end SameLiving

end World

namespace Shared

variable {G : Type} {shared : Shared G} {world last : World G} {key : Nat} {keys : List Nat}

/-- Where none of the living shares its tape with another, the dead see it at most. -/
theorem alike_spread (own : shared.Own shared.world.live.toList)
    (listed : key ∈ shared.world.live.toList) :
    shared.world.SameLiving (shared.spread key).world := by
  cases found : shared.world.records[key]? with
  | none =>
      simp only [spread, found]
      exact .refl _
  | some forager =>
      constructor
      · rw [spread_eq found]
      · intro other living
        rw [getElem?_records_spread found]
        unfold shown
        split
        · next same =>
          obtain rfl : other = key := List.inj_on_of_nodup_map own living listed same
          rw [found]
          rfl
        · exact Option.map_id'

/-- Those who share no tape with one of the living take their steps as if nobody did. -/
theorem exists_stepAll_of_own (own : shared.Own shared.world.live.toList)
    (alike : world.SameLiving shared.world) (listed : keys ⊆ world.live.toList)
    (taken : World.stepAll keys world = .ok () last) :
    ∃ lastToo, stepAll keys shared = .ok () { shared with world := lastToo } ∧
      last.SameLiving lastToo ∧ last.live = world.live := by
  induction keys generalizing world shared with
  | nil =>
      obtain ⟨-, rfl⟩ := EStateM.Result.ok.inj taken
      exact ⟨shared.world, rfl, alike, rfl⟩
  | cons key keys inductionHypothesis =>
      obtain ⟨here, rest⟩ := List.cons_subset.mp listed
      unfold World.stepAll at taken
      split at taken
      · next middle first =>
        obtain ⟨stepped, firstToo, alikeToo, live⟩ := alike.stepOne here first
        let next : Shared G := { shared with world := stepped }
        have sameLive : next.world.live = shared.world.live := by
          rw [alike.live, ← live]
          exact alikeToo.live
        have ownToo : next.Own next.world.live.toList := by
          rw [sameLive]
          exact own
        have living : key ∈ next.world.live.toList := by
          rw [sameLive, alike.live]
          exact here
        have onward := alikeToo.trans (alike_spread ownToo living)
        have ties : (next.spread key).ties = shared.ties := ties_spread next key
        have ownLast : (next.spread key).Own (next.spread key).world.live.toList := by
          rw [live_spread, Own, origin_spread]
          exact ownToo
        obtain ⟨lastToo, others, alikeLast, liveLast⟩ :=
          inductionHypothesis ownLast onward (live ▸ rest) taken
        refine ⟨lastToo, ?_, alikeLast, liveLast.trans live⟩
        simp only [stepAll, stepOne, firstToo]
        rw [ties] at others
        exact others
      · simp at taken

theorem stepAll_append {middle : Shared G} (taken : stepAll keys shared = .ok () middle)
    (others : List Nat) : stepAll (keys ++ others) shared = stepAll others middle := by
  induction keys generalizing shared with
  | nil =>
      obtain ⟨-, rfl⟩ := EStateM.Result.ok.inj taken
      rfl
  | cons key keys inductionHypothesis =>
      simp only [stepAll] at taken
      split at taken
      · next later first =>
        simp only [List.cons_append, stepAll, first]
        exact inductionHypothesis taken
      · simp at taken

/-- What comes of work on a world in which every forager has a tape of its own. -/
def lifted {α : Type} : EStateM.Result Fault (World G) α → EStateM.Result Fault (Shared G) α
  | .ok value world => .ok value (ofWorld world)
  | .error fault world => .error fault (ofWorld world)

theorem spread_ofWorld (key : Nat) (world : World G) :
    (ofWorld world).spread key = ofWorld world := by
  cases found : world.records[key]? with
  | none => simp only [spread, ofWorld, found]
  | some forager =>
      have records : world.records.map ((ofWorld world).shown key forager.tape) = world.records := by
        apply Std.ExtTreeMap.ext_getElem?
        intro other
        rw [Std.ExtTreeMap.getElem?_map]
        unfold shown
        rw [origin_ofWorld]
        split
        · next same =>
          obtain rfl : other = key := same
          rw [found]
          rfl
        · exact Option.map_id'
      have here : (ofWorld world).world.records[key]? = some forager := found
      rw [spread_eq here]
      exact congrArg (fun records => ofWorld { world with records }) records

theorem stepAll_ofWorld (keys : List Nat) (world : World G) :
    stepAll keys (ofWorld world) = lifted (World.stepAll keys world) := by
  induction keys generalizing world with
  | nil => rfl
  | cons key keys inductionHypothesis =>
      cases taken : World.stepOne key world with
      | ok value after =>
          have first : stepOne key (ofWorld world) = .ok () (ofWorld after) := by
            rw [stepOne, show (ofWorld world).world = world from rfl, taken]
            exact congrArg (EStateM.Result.ok ()) (spread_ofWorld key after)
          simp only [stepAll, World.stepAll, first, taken]
          exact inductionHypothesis after
      | error fault after =>
          simp only [stepAll, World.stepAll, stepOne, ofWorld, taken]
          rfl

theorem tick_ofWorld [WordSource G] (world : World G) :
    tick (ofWorld world) = lifted world.tick := by
  have marched := stepAll_ofWorld world.live.toList world.opened
  unfold World.opened at marched
  unfold World.tick
  simp only [tick, show (ofWorld world).world = world from rfl]
  rw [show (⟨_, (ofWorld world).ties⟩ : Shared G) = ofWorld _ from rfl, marched]
  cases World.stepAll world.live.toList ({ world with step := world.step + 1 } : World G).regrow with
  | ok value last => rfl
  | error fault last => rfl

/-- While every newcomer has a tape of its own, nothing is different from other worlds. -/
theorem perform_ofWorld [SeededSource G] (world : World G) (deed : Forage.Deed) :
    (ofWorld world).perform (.plain deed) = ofWorld (world.perform deed) := by
  cases deed with
  | tick =>
      simp only [perform, World.perform, tick_ofWorld]
      cases world.tick <;> rfl
  | act key action =>
      simp only [perform, World.perform, act, show (ofWorld world).world = world from rfl]
      cases world.act key action with
      | ok after => exact spread_ofWorld key after
      | error fault => rfl
  | reset seed => rfl
  | place position heading opcodes pointer energy => rfl
  | addFood cell => rfl
  | addWall cell => rfl
  | removeFood cell => rfl
  | update changes => rfl

theorem Reachable.of_world [SeededSource G] (reachable : world.Reachable) :
    (ofWorld world).Reachable := by
  induction reachable with
  | empty valid source => exact .empty valid source
  | create valid source created => exact .create valid source created
  | perform deed _ inductionHypothesis =>
      rw [← perform_ofWorld]
      exact inductionHypothesis.perform (.plain deed)

end Shared

end Forage
