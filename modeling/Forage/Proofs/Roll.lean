import Forage.World
import Mathlib.Data.List.Basic

/-!
# The roll of the living

A world lists the living by number and keeps what they are like in its records.
Where the roll is in order, the two together are one list of foragers, and letting
a forager in or changing one changes that list in one place.
-/

namespace Forage

/-- The foragers that are on record under some numbers, in the order of the numbers. -/
def called (records : Std.ExtTreeMap Nat Forager) (keys : List Nat) : List Forager :=
  keys.filterMap fun key => records[key]?

section Called

variable {records others : Std.ExtTreeMap Nat Forager} {keys : List Nat} {key : Nat}
  {forager : Forager}

@[simp]
theorem called_nil : called records [] = [] := rfl

theorem called_cons (found : records[key]? = some forager) (keys : List Nat) :
    called records (key :: keys) = forager :: called records keys := by
  simp [called, found]

@[simp]
theorem called_append (first second : List Nat) :
    called records (first ++ second) = called records first ++ called records second := by
  simp [called]

theorem mem_called : forager ∈ called records keys ↔ ∃ key ∈ keys, records[key]? = some forager := by
  simp [called]

theorem called_congr (same : ∀ key ∈ keys, records[key]? = others[key]?) :
    called records keys = called others keys :=
  List.filterMap_congr same

theorem called_insert_of_notMem (absent : key ∉ keys) :
    called (records.insert key forager) keys = called records keys := by
  apply called_congr
  rintro other listed
  have apart : key ≠ other := fun same => absent (same ▸ listed)
  simp [Std.ExtTreeMap.getElem?_insert, apart]

end Called

namespace World

variable {G : Type} {world : World G} {key : Nat} {forager : Forager}

theorem foragers_eq_called (world : World G) :
    world.foragers = called world.records world.live.toList := rfl

/-- The living are on record under their own numbers, which were given out one after the other. -/
structure Enrolled (world : World G) : Prop where
  ascending : world.live.toList.Pairwise (· < ·)
  fresh : ∀ key ∈ world.live.toList, key < world.nextId
  known : ∀ key ∈ world.live.toList, ∃ forager,
    world.records[key]? = some forager ∧ forager.id = key

namespace Enrolled

theorem nodup (enrolled : world.Enrolled) : world.live.toList.Nodup :=
  enrolled.ascending.imp fun less same => Nat.ne_of_lt less same

theorem empty (config : Config) (source : G) : (World.empty config source).Enrolled where
  ascending := .nil
  fresh _ listed := by simp [World.empty] at listed
  known _ listed := by simp [World.empty] at listed

theorem map_id_called (enrolled : world.Enrolled) {keys : List Nat}
    (listed : keys ⊆ world.live.toList) :
    (called world.records keys).map Forager.id = keys.map Int.ofNat := by
  induction keys with
  | nil => rfl
  | cons key keys inductionHypothesis =>
      obtain ⟨here, rest⟩ := List.cons_subset.mp listed
      obtain ⟨forager, found, id⟩ := enrolled.known key here
      rw [called_cons found, List.map_cons, List.map_cons, id, inductionHypothesis rest]
      rfl

theorem map_id_foragers (enrolled : world.Enrolled) :
    world.foragers.map Forager.id = world.live.toList.map Int.ofNat :=
  enrolled.map_id_called (List.Subset.refl _)

theorem length_foragers (enrolled : world.Enrolled) :
    world.foragers.length = world.population := by
  have := congrArg List.length enrolled.map_id_foragers
  simpa [population] using this

theorem of_roll {other : World G} (enrolled : world.Enrolled) (live : other.live = world.live)
    (records : other.records = world.records) (nextId : other.nextId = world.nextId) :
    other.Enrolled where
  ascending := by simpa [live] using enrolled.ascending
  fresh := by simpa [live, nextId] using enrolled.fresh
  known := by simpa [live, records] using enrolled.known

theorem foragers_letIn (enrolled : world.Enrolled) (forager : Forager) :
    (world.letIn forager).foragers = world.foragers ++ [{ forager with id := world.nextId }] := by
  have absent : world.nextId ∉ world.live.toList := fun listed =>
    Nat.lt_irrefl _ (enrolled.fresh _ listed)
  rw [foragers_eq_called]
  simp only [letIn, Array.toList_push, called_append, called_insert_of_notMem absent]
  rw [called_cons Std.ExtTreeMap.getElem?_insert_self, called_nil, foragers_eq_called]

theorem letIn (enrolled : world.Enrolled) (forager : Forager) :
    (world.letIn forager).Enrolled where
  ascending := by
    simp only [World.letIn, Array.toList_push, List.pairwise_append]
    exact ⟨enrolled.ascending, List.pairwise_singleton _ _, by simpa using enrolled.fresh⟩
  fresh := by
    intro key listed
    simp only [World.letIn, Array.toList_push, List.mem_append, List.mem_singleton] at listed ⊢
    rcases listed with before | rfl
    · exact Nat.lt_succ_of_lt (enrolled.fresh key before)
    · exact Nat.lt_succ_self _
  known := by
    intro key listed
    simp only [World.letIn, Array.toList_push, List.mem_append, List.mem_singleton] at listed ⊢
    rcases listed with before | rfl
    · have apart : world.nextId ≠ key := Nat.ne_of_gt (enrolled.fresh key before)
      simpa [Std.ExtTreeMap.getElem?_insert, apart] using enrolled.known key before
    · exact ⟨_, Std.ExtTreeMap.getElem?_insert_self, rfl⟩

/-- One of the living stands at one place of the list, and a new record of it at the same. -/
theorem split (enrolled : world.Enrolled) (alive : key ∈ world.live.toList) :
    ∃ before forager after, world.records[key]? = some forager ∧ forager.id = key ∧
      world.foragers = before ++ forager :: after ∧
      ∀ changed, called (world.records.insert key changed) world.live.toList =
        before ++ changed :: after := by
  obtain ⟨forager, found, id⟩ := enrolled.known key alive
  obtain ⟨first, last, cut⟩ := List.append_of_mem alive
  have distinct := enrolled.nodup
  rw [cut, List.nodup_append, List.nodup_cons] at distinct
  have notFirst : key ∉ first := fun listed => distinct.2.2 key listed key (by simp) rfl
  refine ⟨called world.records first, forager, called world.records last, found, id, ?_, ?_⟩
  · rw [foragers_eq_called, cut, called_append, called_cons found]
  · intro changed
    rw [cut, called_append, called_insert_of_notMem notFirst,
      called_cons Std.ExtTreeMap.getElem?_insert_self, called_insert_of_notMem distinct.2.1.1]

theorem insert {other : World G} (enrolled : world.Enrolled) (live : other.live = world.live)
    (nextId : other.nextId = world.nextId)
    (records : other.records = world.records.insert key forager) (id : forager.id = key) :
    other.Enrolled where
  ascending := by simpa [live] using enrolled.ascending
  fresh := by simpa [live, nextId] using enrolled.fresh
  known := by
    intro listedKey listed
    rw [live] at listed
    by_cases same : key = listedKey
    · subst same
      exact ⟨forager, by simp [records], id⟩
    · simpa [records, Std.ExtTreeMap.getElem?_insert, same] using enrolled.known listedKey listed

end Enrolled

end World

end Forage
