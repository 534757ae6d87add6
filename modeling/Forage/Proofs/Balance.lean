import Forage.Proofs.Tick
import Forage.Scene

/-!
# The balance of a tick

However a world came about, its population changes in a tick by the births and the
deaths that the tick reports, and the report says what there is to see afterwards. Of
the world nothing is asked but that the living are on record, and this no tick undoes.
-/

namespace Forage

namespace World

variable {G : Type} {world middle after : World G} {key : Nat} {keys : List Nat}

/-- A number is on record. -/
def HasRecord (world : World G) (key : Nat) : Prop :=
  ∃ forager, world.records[key]? = some forager

/-- The living are on record. -/
def Known (world : World G) : Prop :=
  ∀ key ∈ world.live.toList, world.HasRecord key

theorem Enrolled.allKnown (enrolled : world.Enrolled) : world.Known := by
  intro key listed
  obtain ⟨forager, found, -⟩ := enrolled.known key listed
  exact ⟨forager, found⟩

theorem length_called (known : ∀ key ∈ keys, world.HasRecord key) :
    (called world.records keys).length = keys.length := by
  induction keys with
  | nil => rfl
  | cons key keys inductionHypothesis =>
      rw [List.forall_mem_cons] at known
      obtain ⟨forager, found⟩ := known.1
      rw [called_cons found, List.length_cons, List.length_cons, inductionHypothesis known.2]

theorem Known.population_scene (known : world.Known) : world.scene.population = world.population := by
  have length := length_called known
  simpa [Scene.population, scene, foragers_eq_called, population] using length

/-- Nobody has come or gone, and whoever was on record still is. -/
structure Steady (world after : World G) : Prop where
  live : after.live = world.live
  step : after.step = world.step
  records : ∀ {key}, world.HasRecord key → after.HasRecord key

namespace Steady

theorem refl (world : World G) : Steady world world :=
  ⟨rfl, rfl, id⟩

theorem trans (first : Steady world middle) (second : Steady middle after) : Steady world after where
  live := second.live.trans first.live
  step := second.step.trans first.step
  records record := second.records (first.records record)

theorem known (steady : Steady world after) (known : world.Known) : after.Known := by
  intro key listed
  rw [steady.live] at listed
  exact steady.records (known key listed)

theorem put (key : Nat) (situation : Situation) : Steady world (world.put key situation) where
  live := rfl
  step := rfl
  records := by
    rintro other ⟨forager, found⟩
    by_cases same : key = other
    · subst same
      exact ⟨situation.forager, Std.ExtTreeMap.getElem?_insert_self⟩
    · refine ⟨forager, ?_⟩
      simpa [World.put, Std.ExtTreeMap.getElem?_insert, same] using found

theorem stepOne (done : stepOne key world = .ok () after) : Steady world after := by
  unfold World.stepOne at done
  split at done
  · obtain ⟨-, rfl⟩ := EStateM.Result.ok.inj done
    exact .refl world
  · split at done
    · obtain ⟨-, rfl⟩ := EStateM.Result.ok.inj done
      exact .put _ _
    · simp at done

theorem stepAll (done : stepAll keys world = .ok () after) : Steady world after := by
  induction keys generalizing world with
  | nil =>
      obtain ⟨-, rfl⟩ := EStateM.Result.ok.inj done
      exact .refl world
  | cons key keys inductionHypothesis =>
      unfold World.stepAll at done
      cases first : World.stepOne key world with
      | ok value middle =>
          rw [first] at done
          exact (Steady.stepOne first).trans (inductionHypothesis done)
      | error fault middle => simp [first] at done

end Steady

theorem population_bury_le (world : World G) : world.bury.population ≤ world.population := by
  rw [bury_eq]
  exact Array.size_filter_le

theorem hasRecord_bury (record : world.HasRecord key) : world.bury.HasRecord key := by
  rw [bury_eq]
  exact record

theorem Known.bury (known : world.Known) : world.bury.Known := by
  intro key listed
  apply hasRecord_bury
  rw [bury_eq] at listed
  simp only [Array.toList_filter, List.mem_filter] at listed
  exact known key listed.1

theorem hasRecord_of_mem_parents (parent : key ∈ world.parents) : world.HasRecord key := by
  simp only [parents, List.mem_filter, isFertile, Option.any_eq_true] at parent
  obtain ⟨-, forager, found, -⟩ := parent
  exact ⟨forager, found⟩

variable [WordSource G]

theorem sow_frame (count : Nat) (world : World G) :
    ∃ ground source, world.sow count = { world with ground, source } := by
  induction count generalizing world with
  | zero => exact ⟨world.ground, world.source, rfl⟩
  | succ count inductionHypothesis =>
      obtain ⟨ground, source, result⟩ := inductionHypothesis
        { world with
          ground := world.ground.sow (world.config.drawCell world.source).1
          source := (world.config.drawCell world.source).2 }
      exact ⟨ground, source, result⟩

theorem opened_frame (world : World G) :
    ∃ ground source countdown,
      world.opened = { world with ground, source, countdown, step := world.step + 1 } := by
  cases counted : world.countdown with
  | zero =>
      obtain ⟨ground, source, result⟩ :=
        sow_frame world.config.regrowthRate.toNat { world with step := world.step + 1 }
      refine ⟨ground, source, regrowthCadence, ?_⟩
      rw [opened_of_due counted, result]
  | succ left => exact ⟨world.ground, world.source, left, opened_of_waiting counted⟩

theorem breed_frame (record : world.HasRecord key) :
    (world.breed key).population = world.population + 1 ∧
      (world.breed key).step = world.step ∧
      (∀ {other}, world.HasRecord other → (world.breed key).HasRecord other) ∧
      (world.Known → (world.breed key).Known) := by
  obtain ⟨parent, found⟩ := record
  rw [breed_eq found]
  have kept {other : Nat} (record : world.HasRecord other) :
      (letIn { world with
        records := world.records.insert key parent.halved
        source := (parent.split world.config world.source).2.2 }
        (parent.split world.config world.source).2.1).HasRecord other := by
    obtain ⟨forager, known⟩ := record
    by_cases newborn : world.nextId = other
    · subst newborn
      exact ⟨_, Std.ExtTreeMap.getElem?_insert_self⟩
    · by_cases same : key = other
      · subst same
        refine ⟨parent.halved, ?_⟩
        simp only [letIn, Std.ExtTreeMap.getElem?_insert, Std.LawfulEqCmp.compare_eq_iff_eq, newborn,
          if_false, Std.ReflCmp.compare_self, if_true]
      · exact ⟨forager, by simpa [letIn, Std.ExtTreeMap.getElem?_insert, newborn, same] using known⟩
  refine ⟨by simp [population, letIn], rfl, kept, ?_⟩
  intro known other listed
  simp only [letIn, Array.toList_push, List.mem_append, List.mem_singleton] at listed
  rcases listed with before | rfl
  · exact kept (known other before)
  · exact ⟨_, Std.ExtTreeMap.getElem?_insert_self⟩

theorem foldl_breed_frame (recorded : ∀ key ∈ keys, world.HasRecord key) :
    (keys.foldl breed world).population = world.population + keys.length ∧
      (keys.foldl breed world).step = world.step ∧
      (world.Known → (keys.foldl breed world).Known) := by
  induction keys generalizing world with
  | nil => exact ⟨rfl, rfl, id⟩
  | cons key keys inductionHypothesis =>
      rw [List.forall_mem_cons] at recorded
      obtain ⟨one, step, kept, known⟩ := breed_frame recorded.1
      have onward : ∀ other ∈ keys, (world.breed key).HasRecord other :=
        fun other listed => kept (recorded.2 other listed)
      obtain ⟨others, sameStep, allKnown⟩ := inductionHypothesis onward
      rw [List.foldl_cons]
      refine ⟨?_, sameStep.trans step, fun before => allKnown (known before)⟩
      rw [others, one, List.length_cons]
      omega

/-- What a tick comes to for one who only counts. -/
structure Balance (world : World G) (report : Report) (after : World G) : Prop where
  step : after.step = world.step + 1
  reported : report.step = after.step ∧ report.population = after.population ∧
    report.food = after.ground.food.size
  population : after.population + report.deaths = world.population + report.births
  known : world.Known → after.Known

theorem Balance.of_tick {report : Report} (done : world.tick = .ok report after) :
    Balance world report after := by
  obtain ⟨last, marched, settled⟩ := exists_stepAll_of_tick done
  obtain ⟨rfl, rfl⟩ := Prod.mk.inj settled
  obtain ⟨ground, source, countdown, opened⟩ := opened_frame world
  have steady := Steady.stepAll marched
  rw [opened] at steady
  have recorded : ∀ key ∈ last.bury.parents, last.bury.HasRecord key :=
    fun key parent => hasRecord_of_mem_parents parent
  obtain ⟨bred, step, known⟩ := foldl_breed_frame recorded
  have cohort : last.population = world.population := by
    rw [World.population, steady.live]
    rfl
  have fewer := population_bury_le last
  constructor
  · rw [step, step_bury, steady.step]
  · exact ⟨rfl, rfl, rfl⟩
  · have length : world.live.toList.length = world.population := Array.length_toList
    rw [bred]
    dsimp only
    omega
  · intro before
    have opening : Known
        { world with ground, source, countdown, step := world.step + 1 } := before
    exact known (steady.known opening).bury

end World

end Forage
