import Forage.Proofs.Balance
import Forage.Run.Rows
import Mathlib.Algebra.BigOperators.Group.List.Basic
import Mathlib.Data.List.Forall2

/-!
# The moments of a world

A world that is let tick goes through moments: what each tick reported, what was to be
seen after it, and the tally of that. Over any number of moments the population is that
of the beginning with all births and without all deaths, and a tally says by how much it
has changed since the moment before.
-/

namespace Forage

/-- A tick that is over: its report, the scene after it, and the tally of that scene. -/
structure Moment where
  report : Report
  scene : Scene
  tally : Tally

namespace Moment

/-- By how much the population has grown in a tick. -/
def growth (moment : Moment) : Int :=
  moment.report.births - moment.report.deaths

/-- The moment of a tick that follows upon other moments. -/
def after (moments : List Moment) (report : Report) (scene : Scene) : Moment :=
  ⟨report, scene, Tally.next (moments.getLast?.map Moment.tally) scene⟩

/-- What the report says is what the scene shows. -/
structure Agrees (moment : Moment) : Prop where
  step : (moment.report.step : Int) = moment.scene.step
  population : moment.report.population = moment.scene.population
  food : moment.report.food = moment.scene.foodCount

end Moment

theorem getElem?_concat_eq_some_iff {α : Type} {items : List α} {last item : α} {place : Nat} :
    (items ++ [last])[place]? = some item ↔
      items[place]? = some item ∨ place = items.length ∧ last = item := by
  rcases Nat.lt_trichotomy place items.length with before | rfl | behind
  · have apart : place ≠ items.length := Nat.ne_of_lt before
    rw [List.getElem?_append_left before]
    simp [apart]
  · simp
  · have apart : place ≠ items.length := Nat.ne_of_gt behind
    have past : (items ++ [last]).length ≤ place := by
      rw [List.length_append, List.length_singleton]
      omega
    rw [List.getElem?_eq_none past, List.getElem?_eq_none (Nat.le_of_lt behind)]
    simp [apart]

namespace World

variable {G : Type} {start middle world : World G} {moments : List Moment}

/-- The moments that a world goes through while it is let tick. -/
inductive Course [WordSource G] (start : World G) : List Moment → World G → Prop where
  | nil : Course start [] start
  | snoc {moments : List Moment} {middle world : World G} {report : Report} :
      Course start moments middle →
      middle.tick = .ok report world →
      Course start (moments ++ [.after moments report world.scene]) world

namespace Course

variable [WordSource G]

theorem known (course : Course start moments world) (known : start.Known) : world.Known := by
  induction course with
  | nil => exact known
  | snoc _ ticked inductionHypothesis => exact (Balance.of_tick ticked).known inductionHypothesis

theorem agrees (course : Course start moments world) (known : start.Known) :
    ∀ moment ∈ moments, moment.Agrees := by
  induction course with
  | nil => simp
  | snoc earlier ticked inductionHypothesis =>
      rw [List.forall_mem_append, List.forall_mem_singleton]
      refine ⟨inductionHypothesis, ?_⟩
      have balance := Balance.of_tick ticked
      obtain ⟨step, population, food⟩ := balance.reported
      constructor
      · simp [Moment.after, scene, step]
      · rw [Moment.after, population, (balance.known (earlier.known known)).population_scene]
      · exact food

theorem step_eq (course : Course start moments world) :
    world.step = start.step + moments.length := by
  induction course with
  | nil => rfl
  | snoc _ ticked inductionHypothesis =>
      rw [(Balance.of_tick ticked).step, inductionHypothesis, List.length_append, List.length_singleton]
      omega

theorem step_scene (course : Course start moments world) {place : Nat} {moment : Moment}
    (found : moments[place]? = some moment) : moment.scene.step = (start.step + place + 1 : Nat) := by
  induction course with
  | nil => simp at found
  | snoc earlier ticked inductionHypothesis =>
      rcases getElem?_concat_eq_some_iff.mp found with before | ⟨rfl, rfl⟩
      · exact inductionHypothesis before
      · rw [← earlier.step_eq, ← (Balance.of_tick ticked).step]
        rfl

/-- The population is that of the beginning, with all who were born and without all who died. -/
theorem population_eq (course : Course start moments world) :
    (world.population : Int) = start.population + (moments.map Moment.growth).sum := by
  induction course with
  | nil => simp
  | snoc _ ticked inductionHypothesis =>
      have balance := (Balance.of_tick ticked).population
      rw [List.map_append, List.sum_append, List.map_singleton, List.sum_singleton, Moment.growth,
        Moment.after]
      dsimp only
      omega

theorem getLast?_scene (course : Course start moments world) {moment : Moment}
    (last : moments.getLast? = some moment) : moment.scene = world.scene := by
  cases course with
  | nil => simp at last
  | snoc _ _ =>
      rw [List.getLast?_concat, Option.some.injEq] at last
      rw [← last, Moment.after]

theorem unique (course : start.Course moments world) {others : List Moment} {other : World G}
    (again : start.Course others other) (length : moments.length = others.length) :
    moments = others ∧ world = other := by
  induction course generalizing others other with
  | nil =>
      cases again with
      | nil => exact ⟨rfl, rfl⟩
      | snoc _ _ => simp at length
  | snoc _ ticked inductionHypothesis =>
      cases again with
      | nil => simp at length
      | snoc earlier tickedToo =>
          simp only [List.length_append, List.length_singleton, Nat.add_right_cancel_iff] at length
          obtain ⟨rfl, rfl⟩ := inductionHypothesis earlier length
          rw [ticked] at tickedToo
          obtain ⟨rfl, rfl⟩ := EStateM.Result.ok.inj tickedToo
          exact ⟨rfl, rfl⟩

/-- What the books say at a moment that so many others came before. -/
structure Booked (start : World G) (moments : List Moment) (place : Nat) (moment : Moment) : Prop where
  tally : moment.tally.step = moment.scene.step ∧
    moment.tally.population = moment.scene.population ∧ moment.tally.food = moment.scene.foodCount
  population : (moment.scene.population : Int) =
    start.population + ((moments.take (place + 1)).map Moment.growth).sum
  change : moment.tally.change =
    if place = 0 then (moment.scene.population : Int) else moment.growth

theorem change_after (course : Course start moments middle) (known : start.Known) {report : Report}
    (ticked : middle.tick = .ok report world) :
    (Moment.after moments report world.scene).tally.change =
      if moments.length = 0 then (world.scene.population : Int)
      else (Moment.after moments report world.scene).growth := by
  have balance := Balance.of_tick ticked
  have here := course.known known
  have seen := (balance.known here).population_scene
  cases course with
  | nil => simp [Moment.after, Tally.next]
  | @snoc moments _ _ earlierReport earlier _ =>
      have last := here.population_scene
      have grown := balance.population
      simp only [Moment.after, Moment.growth, Tally.next, List.getLast?_concat, Option.map_some,
        Option.elim_some, List.length_append, List.length_singleton, Nat.add_eq_zero_iff,
        Nat.one_ne_zero, and_false, if_false]
      omega

theorem booked (course : Course start moments world) (known : start.Known) {place : Nat}
    {moment : Moment} (found : moments[place]? = some moment) :
    Booked start moments place moment := by
  induction course with
  | nil => simp at found
  | @snoc moments middle world report earlier ticked inductionHypothesis =>
      rcases getElem?_concat_eq_some_iff.mp found with before | ⟨rfl, rfl⟩
      · have booked := inductionHypothesis before
        have within : place + 1 ≤ moments.length := (List.getElem?_eq_some_iff.mp before).1
        refine ⟨booked.tally, ?_, booked.change⟩
        rw [List.take_append_of_le_length within]
        exact booked.population
      · have whole := earlier.snoc ticked
        refine ⟨⟨rfl, rfl, rfl⟩, ?_, earlier.change_after known ticked⟩
        rw [List.take_of_length_le (by simp), ← whole.population_eq,
          ← (whole.known known).population_scene]
        rfl

end Course

end World

end Forage
