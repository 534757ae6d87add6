import Forage.Proofs.Sound

/-!
# The numbers of foragers

Whatever is done to a world short of making it anew, some of the living stay, in their
order, and the numbers that follow theirs are the next that the world has to give. A world
that is made anew has given its numbers to its first foragers, one after the other.
-/

namespace Forage

variable {G : Type}

theorem Config.map_id_brood [WordSource G] (config : Config) (source : G) (id : Nat)
    (parents : List Forager) :
    (config.brood source id parents).1.map Forager.id =
      (List.range' id parents.length).map Int.ofNat := by
  induction parents generalizing source id with
  | nil => rfl
  | cons parent parents inductionHypothesis =>
      simp only [brood, List.map_cons, inductionHypothesis, List.length_cons, List.range'_succ]
      rfl

theorem Config.length_brood [WordSource G] (config : Config) (source : G) (id : Nat)
    (parents : List Forager) : (config.brood source id parents).1.length = parents.length := by
  have numbered := congrArg List.length (config.map_id_brood source id parents)
  simpa using numbered

theorem March.map_id {config : Config} (valid : config.Valid) {ground final : Ground}
    {cohort stepped : List Forager} (march : March config ground cohort final stepped) :
    stepped.map Forager.id = cohort.map Forager.id := by
  induction march with
  | nil => rfl
  | cons taken _ inductionHypothesis =>
      obtain ⟨eaten, passage⟩ := Situation.step_passage valid taken
      rw [List.map_cons, List.map_cons, passage.id, inductionHypothesis]

namespace World

variable {world after : World G}

/-- The numbers of the living, in the order in which they are listed. -/
def ids (world : World G) : List Int :=
  world.foragers.map Forager.id

/-- The numbers that a world gives out next, if it gives out so many. -/
def nextIds (world : World G) (count : Nat) : List Int :=
  (List.range' world.nextId count).map Int.ofNat

namespace Enrolled

theorem ids_eq (enrolled : world.Enrolled) : world.ids = world.live.toList.map Int.ofNat :=
  enrolled.map_id_foragers

theorem length_ids (enrolled : world.Enrolled) : world.ids.length = world.population := by
  rw [ids, List.length_map, enrolled.length_foragers]

theorem ascending_ids (enrolled : world.Enrolled) : world.ids.Pairwise (· < ·) := by
  rw [enrolled.ids_eq, List.pairwise_map]
  exact enrolled.ascending.imp Int.ofNat_lt.mpr

theorem fresh_ids (enrolled : world.Enrolled) : ∀ id ∈ world.ids, id < world.nextId := by
  rw [enrolled.ids_eq, List.forall_mem_map]
  exact fun key listed => Int.ofNat_lt.mpr (enrolled.fresh key listed)

end Enrolled

/-- Some of the living stay while others go, and so many come, with the next numbers. -/
structure Onward (world after : World G) (deaths births : Nat) (kept : List Int) : Prop where
  sublist : kept.Sublist world.ids
  ids : after.ids = kept ++ world.nextIds births
  nextId : after.nextId = world.nextId + births
  gone : kept.length + deaths = world.population

namespace Onward

theorem of_live (enrolled : world.Enrolled) (afterEnrolled : after.Enrolled)
    (live : after.live = world.live) (nextId : after.nextId = world.nextId) :
    Onward world after 0 0 world.ids where
  sublist := List.Sublist.refl _
  ids := by
    rw [afterEnrolled.ids_eq, enrolled.ids_eq, live]
    simp [nextIds]
  nextId := nextId
  gone := enrolled.length_ids

theorem letIn (enrolled : world.Enrolled) (forager : Forager) :
    Onward world (world.letIn forager) 0 1 world.ids where
  sublist := List.Sublist.refl _
  ids := by
    rw [World.ids, enrolled.foragers_letIn, List.map_append]
    simp [World.ids, nextIds]
  nextId := rfl
  gone := enrolled.length_ids

theorem of_ticked [WordSource G] (sound : world.Sound) {ground : Ground} {stepped : List Forager}
    {report : Report}
    (march : March world.config world.opened.ground world.foragers ground stepped)
    (ticked : Ticked world ground stepped report after) :
    Onward world after report.deaths report.births ((survivors stepped).map Forager.id) := by
  have same : stepped.map Forager.id = world.ids := march.map_id sound.valid
  have sublist : ((survivors stepped).map Forager.id).Sublist world.ids := by
    rw [← same]
    exact List.filter_sublist.map Forager.id
  constructor
  · exact sublist
  · rw [World.ids, ticked.foragers, List.map_append, List.map_map, Config.map_id_brood, ticked.report]
    have unchanged : Forager.id ∘ Forager.spent world.config = Forager.id :=
      funext fun forager => Forager.id_spent world.config forager
    rw [unchanged, nextIds]
  · rw [ticked.nextId, ticked.report]
  · have fewer := sublist.length_le
    rw [sound.enrolled.length_ids, List.length_map] at fewer
    rw [ticked.report, List.length_map]
    dsimp only
    omega

end Onward

section Deeds

namespace Sound

theorem onward_changed (sound : world.Sound) {result : Except Fault (World G)} {births : Nat}
    (kept : ∀ {after}, result = .ok after → Onward world after 0 births world.ids) :
    ∃ births, Onward world (world.changed result) 0 births world.ids := by
  cases result with
  | ok after => exact ⟨births, kept rfl⟩
  | error fault => exact ⟨0, .of_live sound.enrolled sound.enrolled rfl rfl⟩

theorem onward_place (sound : world.Sound) {position : Cell} {heading : Heading} {tape : Tape}
    {energy : Option Int} (placed : world.place position heading tape energy = .ok after) :
    Onward world after 0 1 world.ids := by
  obtain ⟨goal, -, rfl⟩ := place_eq_ok_iff.mp placed
  exact .letIn sound.enrolled _

theorem onward_addFood (sound : world.Sound) {cell : Cell} (added : world.addFood cell = .ok after) :
    Onward world after 0 0 world.ids := by
  have enrolled := (sound.addFood added).enrolled
  obtain ⟨goal, -, rfl⟩ := addFood_eq_ok_iff.mp added
  exact .of_live sound.enrolled enrolled rfl rfl

theorem onward_addWall (sound : world.Sound) {cell : Cell} (added : world.addWall cell = .ok after) :
    Onward world after 0 0 world.ids := by
  have enrolled := (sound.addWall added).enrolled
  obtain ⟨goal, -, rfl⟩ := addWall_eq_ok_iff.mp added
  exact .of_live sound.enrolled enrolled rfl rfl

theorem onward_update (sound : world.Sound) {changes : List (String × Datum)}
    (updated : world.update changes = .ok after) : Onward world after 0 0 world.ids := by
  have enrolled := (sound.update updated).enrolled
  obtain ⟨-, tuned, -, rfl⟩ := update_eq_ok_iff.mp updated
  exact .of_live sound.enrolled enrolled rfl rfl

theorem onward_act (sound : world.Sound) {key : Nat} {action : Action}
    (acted : world.act key action = .ok after) : Onward world after 0 0 world.ids := by
  have enrolled := (sound.act acted).enrolled
  obtain ⟨forager, situation, -, -, -, rfl⟩ := act_eq_ok_iff.mp acted
  exact .of_live sound.enrolled enrolled rfl rfl

end Sound

variable [SeededSource G]

/-- How many deaths a deed reports: those of its tick, if it is one. -/
def reported (world : World G) : Deed → Nat
  | .tick =>
      match world.tick with
      | .ok report _ => report.deaths
      | .error _ _ => 0
  | _ => 0

/-- Unless a deed makes the world anew, who stays keeps its number and newcomers have the next. -/
theorem Sound.exists_onward (sound : world.Sound) (deed : Deed) (stays : ∀ seed, deed ≠ .reset seed) :
    ∃ births kept, Onward world (world.perform deed) (world.reported deed) births kept := by
  cases deed with
  | tick =>
      obtain ⟨marched, report, after, -, march, done, ticked, -⟩ := sound.tick
      refine ⟨report.births, (survivors marched.foragers).map Forager.id, ?_⟩
      rw [World.perform, reported, done]
      exact .of_ticked sound march ticked
  | place position heading opcodes pointer energy =>
      obtain ⟨births, onward⟩ := sound.onward_changed sound.onward_place
      exact ⟨births, _, onward⟩
  | addFood cell =>
      obtain ⟨births, onward⟩ := sound.onward_changed sound.onward_addFood
      exact ⟨births, _, onward⟩
  | addWall cell =>
      obtain ⟨births, onward⟩ := sound.onward_changed sound.onward_addWall
      exact ⟨births, _, onward⟩
  | removeFood cell =>
      exact ⟨0, _, .of_live sound.enrolled (sound.removeFood cell).enrolled rfl rfl⟩
  | update changes =>
      obtain ⟨births, onward⟩ := sound.onward_changed sound.onward_update
      exact ⟨births, _, onward⟩
  | reset seed => exact absurd rfl (stays seed)
  | act key action =>
      obtain ⟨births, onward⟩ := sound.onward_changed sound.onward_act
      exact ⟨births, _, onward⟩

end Deeds

section Stock

/-- All numbers that were given out are those of the living. -/
def Unbroken (world : World G) : Prop :=
  world.live.toList = List.range world.nextId

theorem Unbroken.letIn (unbroken : world.Unbroken) (forager : Forager) :
    (world.letIn forager).Unbroken := by
  rw [Unbroken, World.letIn, Array.toList_push, unbroken, ← List.range_succ]

theorem Unbroken.ids_eq (unbroken : world.Unbroken) (enrolled : world.Enrolled) :
    world.ids = (List.range world.nextId).map Int.ofNat := by
  rw [enrolled.ids_eq, unbroken]

theorem Unbroken.population_eq (unbroken : world.Unbroken) : world.population = world.nextId := by
  rw [population, ← Array.length_toList, unbroken, List.length_range]

variable [WordSource G]

theorem Unbroken.welcome (unbroken : world.Unbroken) : (left (welcome world)).Unbroken := by
  unfold World.welcome
  dsimp only
  split
  · exact unbroken
  · next tape source drawn =>
    have same : ({ world with source } : World G).Unbroken := unbroken
    exact same.letIn _

theorem unbroken_stock {config : Config} (valid : config.Valid) (source : G) :
    (left (stock (World.empty config source))).Unbroken := by
  obtain ⟨food, walls, rest, stocked⟩ := exists_stock_eq valid source
  rw [stocked]
  apply populate_keeps Unbroken.welcome
  rfl

end Stock

end World

end Forage
