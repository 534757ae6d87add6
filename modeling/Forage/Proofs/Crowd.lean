import Forage.Forager
import Forage.Ground
import Mathlib.Data.List.Basic

/-!
# Counting foragers

The ground keeps the number of foragers on each cell. Here that number is tied to
a list of foragers: letting one in, taking one away and moving one change the
count as they change the list.
-/

namespace Forage

/-- How many foragers of a list stand on a cell. -/
def headcount (foragers : List Forager) (cell : Cell) : Nat :=
  foragers.countP fun forager => forager.position = cell

@[simp]
theorem headcount_nil (cell : Cell) : headcount [] cell = 0 := rfl

@[simp]
theorem headcount_cons (forager : Forager) (foragers : List Forager) (cell : Cell) :
    headcount (forager :: foragers) cell =
      headcount foragers cell + if forager.position = cell then 1 else 0 := by
  simp [headcount, List.countP_cons]

@[simp]
theorem headcount_append (first second : List Forager) (cell : Cell) :
    headcount (first ++ second) cell = headcount first cell + headcount second cell := by
  simp [headcount]

theorem headcount_map {change : Forager → Forager}
    (still : ∀ forager, (change forager).position = forager.position)
    (foragers : List Forager) (cell : Cell) :
    headcount (foragers.map change) cell = headcount foragers cell := by
  simp [headcount, List.countP_map, Function.comp_def, still]

theorem headcount_filter_add (choose : Forager → Bool) (foragers : List Forager) (cell : Cell) :
    headcount (foragers.filter choose) cell +
        headcount (foragers.filter fun forager => !choose forager) cell =
      headcount foragers cell := by
  induction foragers with
  | nil => rfl
  | cons forager foragers inductionHypothesis =>
      by_cases chosen : choose forager <;>
        simp only [List.filter_cons, chosen, Bool.not_true, Bool.not_false, if_true, if_false,
          Bool.false_eq_true, headcount_cons] <;>
        omega

namespace Ground

/-- No cell is stored that nobody stands on. -/
def Tidy (ground : Ground) : Prop :=
  ∀ cell, cell ∈ ground.crowd → 0 < ground.count cell

/-- The ground counts the foragers of a list. -/
structure Counts (ground : Ground) (foragers : List Forager) : Prop where
  count : ∀ cell, ground.count cell = headcount foragers cell
  tidy : ground.Tidy

variable {ground : Ground} {foragers : List Forager} {cell : Cell}

theorem count_of_crowd {other : Ground} (same : other.crowd = ground.crowd) (cell : Cell) :
    other.count cell = ground.count cell := by
  rw [count, same, count]

theorem Tidy.of_crowd {other : Ground} (tidy : ground.Tidy) (same : other.crowd = ground.crowd) :
    other.Tidy := by
  intro cell stored
  rw [count_of_crowd same]
  exact tidy cell (same ▸ stored)

/-- Where no cell is stored in vain, what is stored of a cell is what is counted there. -/
theorem Tidy.getElem?_crowd (tidy : ground.Tidy) (cell : Cell) :
    ground.crowd[cell]? = if ground.count cell = 0 then none else some (ground.count cell) := by
  cases stored : ground.crowd[cell]? with
  | none => simp [count, Std.ExtTreeMap.getD_eq_getD_getElem?, stored]
  | some foragers =>
      have counted : ground.count cell = foragers := by
        simp [count, Std.ExtTreeMap.getD_eq_getD_getElem?, stored]
      have member : cell ∈ ground.crowd :=
        Std.ExtTreeMap.mem_iff_isSome_getElem?.mpr (by simp [stored])
      have positive := tidy cell member
      rw [if_neg (by omega), counted]

theorem Tidy.crowd_eq_of_count {other : Ground} (tidy : ground.Tidy) (otherTidy : other.Tidy)
    (same : other.count cell = ground.count cell) : other.crowd[cell]? = ground.crowd[cell]? := by
  rw [tidy.getElem?_crowd, otherTidy.getElem?_crowd, same]

theorem count_occupy (ground : Ground) (cell other : Cell) :
    (ground.occupy cell).count other = ground.count other + if cell = other then 1 else 0 := by
  by_cases same : cell = other
  · subst same
    simp [occupy, count]
  · simp [occupy, count, Std.ExtTreeMap.getD_insert, same]

theorem crowd_vacate_of_le (last : ground.count cell ≤ 1) :
    (ground.vacate cell).crowd = ground.crowd.erase cell := by
  simp [vacate, last]

theorem crowd_vacate_of_lt (several : 1 < ground.count cell) :
    (ground.vacate cell).crowd = ground.crowd.insert cell (ground.count cell - 1) := by
  simp [vacate, Nat.not_le.mpr several]

theorem count_vacate (ground : Ground) (cell other : Cell) :
    (ground.vacate cell).count other = ground.count other - if cell = other then 1 else 0 := by
  rw [count, count]
  rcases Nat.lt_or_ge 1 (ground.count cell) with several | last
  · rw [crowd_vacate_of_lt several]
    by_cases same : cell = other <;> simp [Std.ExtTreeMap.getD_insert, same, count]
  · rw [crowd_vacate_of_le last]
    by_cases same : cell = other
    · subst same
      have : ground.crowd.getD cell 0 ≤ 1 := last
      simp
      omega
    · simp [Std.ExtTreeMap.getD_erase, same]

theorem Tidy.occupy (tidy : ground.Tidy) (cell : Cell) : (ground.occupy cell).Tidy := by
  intro other stored
  rw [count_occupy]
  by_cases same : cell = other
  · simp [same]
  · have before : other ∈ ground.crowd := by
      simpa [Ground.occupy, same] using stored
    have := tidy other before
    omega

theorem Tidy.vacate (tidy : ground.Tidy) (cell : Cell) : (ground.vacate cell).Tidy := by
  intro other stored
  rw [count_vacate]
  rcases Nat.lt_or_ge 1 (ground.count cell) with several | last
  · rw [crowd_vacate_of_lt several] at stored
    by_cases same : cell = other
    · subst same
      simp only [if_true]
      omega
    · simpa [same] using tidy other (by simpa [same] using stored)
  · rw [crowd_vacate_of_le last] at stored
    obtain ⟨apart, before⟩ : cell ≠ other ∧ other ∈ ground.crowd := by simpa using stored
    simpa [apart] using tidy other before

namespace Counts

theorem congr {others : List Forager} (counts : ground.Counts foragers)
    (same : ∀ cell, headcount others cell = headcount foragers cell) : ground.Counts others where
  count cell := by rw [counts.count, same]
  tidy := counts.tidy

theorem of_crowd {other : Ground} (counts : ground.Counts foragers)
    (same : other.crowd = ground.crowd) : other.Counts foragers where
  count cell := by rw [count_of_crowd same, counts.count]
  tidy := counts.tidy.of_crowd same

theorem occupy (counts : ground.Counts foragers) (forager : Forager) :
    (ground.occupy forager.position).Counts (foragers ++ [forager]) where
  count cell := by simp [count_occupy, counts.count]
  tidy := counts.tidy.occupy _

theorem foldl_occupy (counts : ground.Counts foragers) (others : List Forager) :
    (others.foldl (fun ground forager => ground.occupy forager.position) ground).Counts
      (foragers ++ others) := by
  induction others generalizing ground foragers with
  | nil => simpa using counts
  | cons forager others inductionHypothesis =>
      simpa using inductionHypothesis (counts.occupy forager)

theorem foldl_vacate {others all : List Forager} (counts : ground.Counts all)
    (parts : ∀ cell, headcount foragers cell + headcount others cell = headcount all cell) :
    (others.foldl (fun ground forager => ground.vacate forager.position) ground).Counts
      foragers := by
  induction others generalizing ground all with
  | nil => exact counts.congr (by simpa using parts)
  | cons forager others inductionHypothesis =>
      have left : (ground.vacate forager.position).Counts (foragers ++ others) := by
        constructor
        · intro cell
          have := parts cell
          rw [count_vacate, counts.count, ← this, headcount_cons, headcount_append]
          omega
        · exact counts.tidy.vacate _
      exact inductionHypothesis left fun cell => (headcount_append _ _ cell).symm

end Counts

end Ground

end Forage
