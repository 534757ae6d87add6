import Forage.Proofs.Conduct

/-!
# The march of a cohort

In a tick the foragers of a cohort take their steps one after the other, each on
the ground that the ones before it left. A march is such a sequence of steps, told
without the world around it.
-/

namespace Forage

variable {config : Config}

namespace Situation

variable {before after : Situation} {eaten : Finset Cell} {cost : Int}

theorem Passage.counts {first last : List Forager}
    (passage : Passage config before after eaten cost)
    (counts : before.ground.Counts (first ++ before.forager :: last)) :
    after.ground.Counts (first ++ after.forager :: last) where
  count cell := by
    have counted : 0 < before.ground.count before.forager.position := by
      rw [counts.count, headcount_append, headcount_cons, if_pos rfl]
      omega
    have moved := passage.count counted cell
    have here := counts.count cell
    rw [headcount_append, headcount_cons] at here ⊢
    omega
  tidy := passage.tidy counts.tidy

theorem Passage.food_subset (passage : Passage config before after eaten cost) :
    CellSet.members after.ground.food ⊆ CellSet.members before.ground.food := by
  rw [passage.food]
  exact Finset.sdiff_subset

end Situation

/-- The steps of a cohort, from the ground it begins on to the one it leaves. -/
inductive March (config : Config) : Ground → List Forager → Ground → List Forager → Prop where
  | nil {ground} : March config ground [] ground []
  | cons {ground final forager cohort stepped situation} :
      Situation.step config ⟨ground, forager⟩ = .ok situation →
      March config situation.ground cohort final stepped →
      March config ground (forager :: cohort) final (situation.forager :: stepped)

theorem exists_march {cohort : List Forager} (fit : ∀ forager ∈ cohort, forager.tape.Fit)
    (ground : Ground) : ∃ final stepped, March config ground cohort final stepped := by
  induction cohort generalizing ground with
  | nil => exact ⟨ground, [], .nil⟩
  | cons forager cohort inductionHypothesis =>
      have first : (⟨ground, forager⟩ : Situation).forager.tape.Fit := fit forager (by simp)
      obtain ⟨situation, taken⟩ := Situation.step_eq_ok config first
      obtain ⟨final, stepped, rest⟩ := inductionHypothesis
        (fun other listed => fit other (List.mem_cons_of_mem _ listed)) situation.ground
      exact ⟨final, situation.forager :: stepped, .cons taken rest⟩

namespace March

variable {ground final : Ground} {cohort stepped : List Forager}

theorem eq_nil (march : March config ground [] final stepped) : stepped = [] := by
  cases march
  rfl

theorem fit (valid : config.Valid) (march : March config ground cohort final stepped)
    (fit : ∀ forager ∈ cohort, forager.Fit config) : ∀ forager ∈ stepped, forager.Fit config := by
  induction march with
  | nil => exact fit
  | cons taken _ inductionHypothesis =>
      obtain ⟨eaten, passage⟩ := Situation.step_passage valid taken
      rw [List.forall_mem_cons] at fit ⊢
      exact ⟨passage.fit fit.1, inductionHypothesis fit.2⟩

theorem walls (valid : config.Valid) (march : March config ground cohort final stepped) :
    final.walls = ground.walls := by
  induction march with
  | nil => rfl
  | cons taken _ inductionHypothesis =>
      obtain ⟨eaten, passage⟩ := Situation.step_passage valid taken
      rw [inductionHypothesis, passage.walls]

theorem food_subset (valid : config.Valid) (march : March config ground cohort final stepped) :
    CellSet.members final.food ⊆ CellSet.members ground.food := by
  induction march with
  | nil => exact Finset.Subset.refl _
  | cons taken _ inductionHypothesis =>
      obtain ⟨eaten, passage⟩ := Situation.step_passage valid taken
      exact inductionHypothesis.trans passage.food_subset

/-- The ground counts everyone all the way, those who have stepped and those who have not. -/
theorem counts (valid : config.Valid) (march : March config ground cohort final stepped)
    {first last : List Forager} (counts : ground.Counts (first ++ cohort ++ last)) :
    final.Counts (first ++ stepped ++ last) := by
  induction march generalizing first with
  | nil => exact counts
  | @cons ground final forager cohort stepped situation taken _ inductionHypothesis =>
      obtain ⟨eaten, passage⟩ := Situation.step_passage valid taken
      have next : situation.ground.Counts (first ++ situation.forager :: (cohort ++ last)) :=
        passage.counts (by simpa using counts)
      have := @inductionHypothesis (first ++ [situation.forager]) (by simpa using next)
      simpa using this

theorem notMem_food (valid : config.Valid) (march : March config ground cohort final stepped)
    (fit : ∀ forager ∈ cohort, forager.Fit config) :
    ∀ forager ∈ stepped, forager.position ∉ final.food := by
  induction march with
  | nil => simp
  | cons taken rest inductionHypothesis =>
      rw [List.forall_mem_cons] at fit ⊢
      refine ⟨?_, inductionHypothesis fit.2⟩
      intro stillThere
      apply Situation.step_notMem_food valid fit.1 taken
      exact CellSet.mem_members.mp (rest.food_subset valid (CellSet.mem_members.mpr stillThere))

end March

end Forage
