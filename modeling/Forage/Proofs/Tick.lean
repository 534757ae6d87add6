import Forage.Proofs.March
import Forage.Proofs.Roll
import Forage.Proofs.Stocking

/-!
# A tick told on lists

A tick works through numbers and records. Here it is told on the list of the
living alone: food grows, the cohort marches, the dead are struck off, and the
young of those who split are added at the end.
-/

namespace Forage

namespace Forager

/-- A survivor with more energy than the threshold. -/
def Fertile (config : Config) (forager : Forager) : Prop :=
  forager.Alive ∧ config.reproductionThreshold < forager.energy

instance (config : Config) (forager : Forager) : Decidable (forager.Fertile config) :=
  inferInstanceAs (Decidable (_ ∧ _))

theorem decide_fertile (config : Config) (forager : Forager) :
    decide (forager.Fertile config) =
      (decide forager.Alive && decide (config.reproductionThreshold < forager.energy)) :=
  Bool.decide_and _ _

/-- A forager that has given half of its energy away. -/
def halved (forager : Forager) : Forager :=
  { forager with energy := forager.energy / 2 }

/-- A survivor as it is when the tick is over. -/
def spent (config : Config) (forager : Forager) : Forager :=
  if forager.Fertile config then forager.halved else forager

@[simp]
theorem id_spent (config : Config) (forager : Forager) : (forager.spent config).id = forager.id := by
  unfold spent
  split <;> rfl

@[simp]
theorem position_spent (config : Config) (forager : Forager) :
    (forager.spent config).position = forager.position := by
  unfold spent
  split <;> rfl

@[simp]
theorem tape_spent (config : Config) (forager : Forager) :
    (forager.spent config).tape = forager.tape := by
  unfold spent
  split <;> rfl

end Forager

/-- Those of a cohort who live on. -/
def survivors (stepped : List Forager) : List Forager :=
  stepped.filter fun forager => forager.Alive

/-- Those of a cohort who do not. -/
def fallen (stepped : List Forager) : List Forager :=
  stepped.filter fun forager => !decide forager.Alive

namespace Config

variable {G : Type} [WordSource G]

/-- Those of a cohort who split. -/
def parents (config : Config) (stepped : List Forager) : List Forager :=
  stepped.filter fun forager => forager.Fertile config

/-- The young of some parents, numbered from a number on, and the source after their births. -/
def brood (config : Config) : G → (id : Nat) → List Forager → List Forager × G
  | source, _, [] => ([], source)
  | source, id, parent :: parents =>
      let (_, young, source) := parent.split config source
      let (others, source) := brood config source (id + 1) parents
      ({ young with id } :: others, source)

end Config

namespace World

variable {G : Type} {world : World G} {key : Nat}

section Bury

theorem called_filter (records : Std.ExtTreeMap Nat Forager) (keys : List Nat)
    (choose : Option Forager → Bool) :
    called records (keys.filter fun key => choose records[key]?) =
      (called records keys).filter fun forager => choose (some forager) := by
  simp only [called]
  induction keys with
  | nil => rfl
  | cons key keys inductionHypothesis =>
      cases found : records[key]? with
      | none => by_cases chosen : choose none <;> simp [found, chosen, inductionHypothesis]
      | some forager =>
          by_cases chosen : choose (some forager) <;> simp [found, chosen, inductionHypothesis]

theorem foldl_depart (keys : List Nat) (world : World G) :
    keys.foldl depart world =
      { world with
        ground := (called world.records keys).foldl
          (fun ground forager => ground.vacate forager.position) world.ground } := by
  induction keys generalizing world with
  | nil => rfl
  | cons key keys inductionHypothesis =>
      rw [List.foldl_cons, inductionHypothesis]
      simp only [depart]
      cases found : world.records[key]? with
      | none => simp [called, found]
      | some forager => simp [called, found]

theorem bury_eq (world : World G) :
    world.bury =
      { world with
        ground := (fallen world.foragers).foldl
          (fun ground forager => ground.vacate forager.position) world.ground
        live := world.live.filter world.isAlive } := by
  have dead : called world.records (world.live.toList.filter fun key => !world.isAlive key) =
      fallen world.foragers :=
    called_filter _ _ fun record => !record.any fun forager => decide forager.Alive
  simp only [bury, foldl_depart, dead]

@[simp]
theorem config_bury (world : World G) : world.bury.config = world.config := by rw [bury_eq]

@[simp]
theorem step_bury (world : World G) : world.bury.step = world.step := by rw [bury_eq]

@[simp]
theorem countdown_bury (world : World G) : world.bury.countdown = world.countdown := by
  rw [bury_eq]

@[simp]
theorem source_bury (world : World G) : world.bury.source = world.source := by rw [bury_eq]

@[simp]
theorem nextId_bury (world : World G) : world.bury.nextId = world.nextId := by rw [bury_eq]

theorem foragers_bury (world : World G) :
    world.bury.foragers = survivors world.foragers := by
  have alive := called_filter world.records world.live.toList fun record =>
    record.any fun forager => decide forager.Alive
  rw [bury_eq, foragers_eq_called, foragers_eq_called, Array.toList_filter]
  exact alive

theorem Enrolled.bury (enrolled : world.Enrolled) : world.bury.Enrolled := by
  rw [bury_eq]
  constructor
  · simpa using enrolled.ascending.filter _
  · intro key listed
    exact enrolled.fresh key (by simp at listed; simpa using listed.1)
  · intro key listed
    exact enrolled.known key (by simp at listed; simpa using listed.1)

end Bury

section Step

theorem config_stepOne {key : Nat} (done : stepOne key world = .ok () after) :
    after.config = world.config := by
  unfold stepOne at done
  split at done
  · obtain ⟨-, rfl⟩ := EStateM.Result.ok.inj done
    rfl
  · split at done
    · obtain ⟨-, rfl⟩ := EStateM.Result.ok.inj done
      rfl
    · simp at done

theorem stepAll_eq_ok (valid : world.config.Valid) (enrolled : world.Enrolled) {keys : List Nat}
    (listed : keys ⊆ world.live.toList) (distinct : keys.Nodup) {ground : Ground}
    {stepped : List Forager}
    (march : March world.config world.ground (called world.records keys) ground stepped) :
    ∃ records, stepAll keys world = .ok () { world with ground, records } ∧
      called records keys = stepped ∧
      (∀ key ∉ keys, records[key]? = world.records[key]?) ∧
      ({ world with ground, records } : World G).Enrolled := by
  induction keys generalizing world ground stepped with
  | nil =>
      cases march
      exact ⟨world.records, rfl, rfl, fun _ _ => rfl, enrolled⟩
  | cons key keys inductionHypothesis =>
      obtain ⟨here, rest⟩ := List.cons_subset.mp listed
      obtain ⟨apart, distinct⟩ := List.nodup_cons.mp distinct
      obtain ⟨forager, found, id⟩ := enrolled.known key here
      rw [called_cons found] at march
      cases march with
      | @cons _ _ _ _ stepped situation taken march =>
          obtain ⟨eaten, passage⟩ := Situation.step_passage valid taken
          have sameId : situation.forager.id = key := passage.id.trans id
          have changed : (world.put key situation).Enrolled :=
            enrolled.insert rfl rfl rfl sameId
          have march : March (world.put key situation).config (world.put key situation).ground
              (called (world.put key situation).records keys) ground stepped := by
            simpa only [put, called_insert_of_notMem apart] using march
          obtain ⟨records, done, called_eq, others, enrolled⟩ :=
            @inductionHypothesis (world.put key situation) valid changed rest distinct _ _ march
          have first : records[key]? = some situation.forager := by
            rw [others key apart]
            exact Std.ExtTreeMap.getElem?_insert_self
          refine ⟨records, ?_, ?_, ?_, enrolled⟩
          · simp only [stepAll, stepOne, found, taken]
            exact done
          · rw [called_cons first, called_eq]
          · intro other absent
            have notIn : other ∉ keys := fun listed => absent (List.mem_cons_of_mem _ listed)
            have notKey : key ≠ other := fun same => absent (same ▸ List.mem_cons_self)
            rw [others other notIn]
            simp [put, Std.ExtTreeMap.getElem?_insert, notKey]

end Step

variable [WordSource G]

section Breed

theorem config_breed (key : Nat) (world : World G) : (world.breed key).config = world.config := by
  unfold breed
  split <;> rfl

theorem breed_eq {parent : Forager} (found : world.records[key]? = some parent) :
    world.breed key =
      ({ world with
        records := world.records.insert key parent.halved
        source := (parent.split world.config world.source).2.2 } : World G).letIn
        (parent.split world.config world.source).2.1 := by
  simp only [breed, found]
  rfl

theorem records_breed (newest : world.nextId ∉ world.live.toList) {parent : Forager}
    (found : world.records[key]? = some parent) {other : Nat} (listed : other ∈ world.live.toList) :
    (world.breed key).records[other]? =
      if key = other then some parent.halved else world.records[other]? := by
  have older : world.nextId ≠ other := fun same => newest (same ▸ listed)
  rw [breed_eq found]
  simp [letIn, Std.ExtTreeMap.getElem?_insert, older]

theorem Enrolled.breed (enrolled : world.Enrolled) (listed : key ∈ world.live.toList) :
    (world.breed key).Enrolled := by
  obtain ⟨parent, found, id⟩ := enrolled.known key listed
  rw [breed_eq found]
  have changed : Enrolled
      { world with
        records := world.records.insert key parent.halved
        source := (parent.split world.config world.source).2.2 } :=
    enrolled.insert rfl rfl rfl (show parent.halved.id = key from id)
  exact changed.letIn _

/-- What comes of letting the foragers with some numbers split. -/
structure Bred (world after : World G) (keys : List Nat) (births : List Forager × G) : Prop where
  config : after.config = world.config
  step : after.step = world.step
  countdown : after.countdown = world.countdown
  source : after.source = births.2
  nextId : after.nextId = world.nextId + keys.length
  ground : after.ground =
    births.1.foldl (fun ground forager => ground.occupy forager.position) world.ground
  foragers : after.foragers =
    (world.live.toList.filterMap fun key =>
      if key ∈ keys then world.records[key]?.map Forager.halved else world.records[key]?) ++ births.1
  enrolled : after.Enrolled

theorem foldl_breed (enrolled : world.Enrolled) {keys : List Nat}
    (listed : keys ⊆ world.live.toList) (distinct : keys.Nodup) :
    Bred world (keys.foldl breed world) keys
      (world.config.brood world.source world.nextId (called world.records keys)) := by
  induction keys generalizing world with
  | nil =>
      constructor <;> simp [Config.brood, enrolled, foragers_eq_called, called]
  | cons key keys inductionHypothesis =>
      obtain ⟨here, rest⟩ := List.cons_subset.mp listed
      obtain ⟨apart, distinct⟩ := List.nodup_cons.mp distinct
      obtain ⟨parent, found, id⟩ := enrolled.known key here
      have live : (world.breed key).live.toList = world.live.toList ++ [world.nextId] := by
        rw [breed_eq found]
        simp [letIn]
      have newest : world.nextId ∉ world.live.toList := fun living =>
        Nat.lt_irrefl _ (enrolled.fresh _ living)
      have newborn : world.nextId ∉ keys := fun member => newest (rest member)
      have unchanged : called (world.breed key).records keys = called world.records keys := by
        apply called_congr
        intro other member
        have notKey : key ≠ other := fun same => apart (same ▸ member)
        rw [records_breed newest found (rest member), if_neg notKey]
      have others := inductionHypothesis (enrolled.breed here)
        (fun other member => live ▸ List.mem_append_left _ (rest member)) distinct
      have next : ((world.breed key).live.toList.filterMap fun other =>
          if other ∈ keys then (world.breed key).records[other]?.map Forager.halved
          else (world.breed key).records[other]?) =
          (world.live.toList.filterMap fun other =>
            if other ∈ key :: keys then world.records[other]?.map Forager.halved
            else world.records[other]?) ++
            [{ (parent.split world.config world.source).2.1 with id := world.nextId }] := by
        rw [live, List.filterMap_append]
        congr 1
        · apply List.filterMap_congr
          intro other member
          rw [records_breed newest found member]
          by_cases same : key = other
          · subst same
            simp [apart, found]
          · simp [same, Ne.symm same]
        · rw [breed_eq found]
          simp [newborn, letIn]
      have foragers := others.foragers
      rw [next, unchanged] at foragers
      rw [unchanged, breed_eq found] at others
      rw [List.foldl_cons, called_cons found, breed_eq found]
      constructor
      · exact others.config
      · exact others.step
      · exact others.countdown
      · exact others.source
      · rw [others.nextId, List.length_cons]
        simp only [letIn]
        omega
      · exact others.ground
      · rw [← breed_eq found, foragers, List.append_assoc, breed_eq found]
        rfl
      · exact others.enrolled

end Breed

section Settle

omit [WordSource G]

theorem isFertile_eq {forager : Forager} (found : world.records[key]? = some forager) :
    world.isFertile key = decide (forager.Fertile world.config) := by
  simp [isFertile, found, Forager.decide_fertile]

theorem called_parents (world : World G) :
    called world.records world.parents = world.config.parents world.foragers := by
  have fertile := called_filter world.records world.live.toList fun record =>
    record.any fun forager =>
      forager.Alive && decide (world.config.reproductionThreshold < forager.energy)
  refine fertile.trans (List.filter_congr ?_)
  simp [Forager.decide_fertile]

theorem Enrolled.length_parents (enrolled : world.Enrolled) :
    world.parents.length = (world.config.parents world.foragers).length := by
  have listed : world.parents ⊆ world.live.toList := List.filter_subset_self _
  have := congrArg List.length (enrolled.map_id_called listed)
  rw [called_parents] at this
  simpa using this.symm

theorem filterMap_halved (world : World G) :
    (world.live.toList.filterMap fun key =>
      if key ∈ world.parents then world.records[key]?.map Forager.halved
      else world.records[key]?) = world.foragers.map (Forager.spent world.config) := by
  rw [foragers_eq_called, called, List.map_filterMap]
  apply List.filterMap_congr
  intro key listed
  cases found : world.records[key]? with
  | none => simp
  | some forager =>
      simp only [World.parents, List.mem_filter, listed, true_and, isFertile_eq found,
        decide_eq_true_eq, Option.map_some, Forager.spent]
      split <;> rfl

end Settle

theorem parents_survivors (config : Config) (stepped : List Forager) :
    config.parents (survivors stepped) = config.parents stepped := by
  rw [Config.parents, Config.parents, survivors, List.filter_filter]
  apply List.filter_congr
  intro forager _
  rw [Forager.decide_fertile]
  cases decide forager.Alive <;> simp

/-- What comes of burying the dead of a world and letting the survivors split. -/
structure Settled (last : World G) (cohort : Nat) (report : Report) (after : World G) : Prop where
  config : after.config = last.config
  step : after.step = last.step
  countdown : after.countdown = last.countdown
  source : after.source =
    (last.config.brood last.source last.nextId (last.config.parents last.foragers)).2
  nextId : after.nextId = last.nextId + (last.config.parents last.foragers).length
  ground : after.ground =
    (last.config.brood last.source last.nextId (last.config.parents last.foragers)).1.foldl
      (fun ground forager => ground.occupy forager.position)
      ((fallen last.foragers).foldl (fun ground forager => ground.vacate forager.position)
        last.ground)
  foragers : after.foragers =
    (survivors last.foragers).map (Forager.spent last.config) ++
      (last.config.brood last.source last.nextId (last.config.parents last.foragers)).1
  enrolled : after.Enrolled
  report : report =
    { step := last.step
      births := (last.config.parents last.foragers).length
      deaths := cohort - (survivors last.foragers).length
      population := after.population
      food := after.ground.food.size }

theorem Enrolled.settled {last : World G} (enrolled : last.Enrolled) (cohort : Nat) :
    Settled last cohort (last.settle cohort).1 (last.settle cohort).2 := by
  have left : last.bury.foragers = survivors last.foragers := foragers_bury last
  have survived : last.bury.Enrolled := enrolled.bury
  have bred : Bred last.bury (last.bury.parents.foldl World.breed last.bury) last.bury.parents _ :=
    foldl_breed survived (List.filter_subset_self _) (survived.nodup.filter _)
  have sameParents : last.bury.config.parents (survivors last.foragers) =
      last.config.parents last.foragers := by
    rw [parents_survivors, config_bury]
  have parents : called last.bury.records last.bury.parents =
      last.config.parents last.foragers := by
    rw [called_parents, left, sameParents]
  have count : last.bury.parents.length = (last.config.parents last.foragers).length := by
    rw [survived.length_parents, left, sameParents]
  have buried : last.bury.ground = (fallen last.foragers).foldl
      (fun ground forager => ground.vacate forager.position) last.ground := by
    rw [bury_eq]
  have population : last.bury.population = (survivors last.foragers).length := by
    rw [← survived.length_foragers, left]
  rw [parents, config_bury, source_bury, nextId_bury] at bred
  constructor
  · exact bred.config.trans (config_bury last)
  · exact bred.step.trans (step_bury last)
  · exact bred.countdown.trans (countdown_bury last)
  · exact bred.source
  · rw [← count, ← nextId_bury last]
    exact bred.nextId
  · rw [← buried]
    exact bred.ground
  · have foragers := bred.foragers
    rw [filterMap_halved, left, config_bury] at foragers
    exact foragers
  · exact bred.enrolled
  · simp only [settle, count, population, bred.step, step_bury]

/-- What a tick comes to when its cohort has marched to its end. -/
structure Ticked (world : World G) (ground : Ground) (stepped : List Forager) (report : Report)
    (after : World G) : Prop where
  config : after.config = world.config
  step : after.step = world.step + 1
  countdown : after.countdown = world.opened.countdown
  source : after.source =
    (world.config.brood world.opened.source world.nextId (world.config.parents stepped)).2
  nextId : after.nextId = world.nextId + (world.config.parents stepped).length
  ground : after.ground =
    (world.config.brood world.opened.source world.nextId (world.config.parents stepped)).1.foldl
      (fun ground forager => ground.occupy forager.position)
      ((fallen stepped).foldl (fun ground forager => ground.vacate forager.position) ground)
  foragers : after.foragers =
    (survivors stepped).map (Forager.spent world.config) ++
      (world.config.brood world.opened.source world.nextId (world.config.parents stepped)).1
  enrolled : after.Enrolled
  report : report =
    { step := world.step + 1
      births := (world.config.parents stepped).length
      deaths := world.population - (survivors stepped).length
      population := after.population
      food := after.ground.food.size }

theorem tick_of_stepAll {last : World G}
    (marched : stepAll world.live.toList world.opened = .ok () last) :
    world.tick = .ok (last.settle world.live.toList.length).1
      (last.settle world.live.toList.length).2 := by
  unfold opened at marched
  simp only [tick, marched]

theorem exists_stepAll_of_tick {report : Report} {after : World G}
    (done : world.tick = .ok report after) :
    ∃ last, stepAll world.live.toList world.opened = .ok () last ∧
      last.settle world.live.toList.length = (report, after) := by
  unfold opened
  unfold tick at done
  cases marched : stepAll world.live.toList ({ world with step := world.step + 1 } : World G).regrow with
  | error fault last => simp [marched] at done
  | ok value last =>
      simp only [marched] at done
      obtain ⟨rfl, rfl⟩ := EStateM.Result.ok.inj done
      exact ⟨last, rfl, rfl⟩

theorem tick_eq_ok (valid : world.config.Valid) (enrolled : world.Enrolled) {ground : Ground}
    {stepped : List Forager}
    (march : March world.config world.opened.ground world.foragers ground stepped) :
    ∃ report after, world.tick = .ok report after ∧ Ticked world ground stepped report after := by
  obtain ⟨food, source, countdown, opened⟩ := exists_opened valid
  let start : World G :=
    { world with
      ground := { world.ground with food }
      source
      countdown
      step := world.step + 1 }
  have eq : world.opened = start := opened.eq
  rw [eq] at march
  obtain ⟨records, marched, foragers, -, steppedEnrolled⟩ :=
    @stepAll_eq_ok _ start valid (enrolled.of_roll rfl rfl rfl) world.live.toList
      (List.Subset.refl _) enrolled.nodup _ _ march
  let last : World G := { start with ground, records }
  have same : last.foragers = stepped := foragers
  have settled : Settled last world.live.toList.length _ _ := steppedEnrolled.settled _
  have taken : stepAll world.live.toList world.opened = .ok () last := by
    rw [eq]
    exact marched
  refine ⟨_, _, tick_of_stepAll taken, ?_⟩
  constructor
  · exact settled.config
  · exact settled.step
  · rw [settled.countdown, eq]
  · rw [settled.source, eq, same]
  · rw [settled.nextId, same]
  · rw [settled.ground, eq, same]
  · rw [settled.foragers, eq, same]
  · exact settled.enrolled
  · rw [settled.report, same]
    rfl

end World

end Forage
