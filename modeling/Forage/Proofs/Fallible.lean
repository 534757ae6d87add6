import Mathlib.Logic.Basic

/-!
# Work that may fail

When a chain of steps each of which may fail comes to an end, and with what.
-/

namespace Forage

variable {ε α β : Type}

theorem bind_eq_ok_iff {first : Except ε α} {rest : α → Except ε β} {result : β} :
    first >>= rest = .ok result ↔ ∃ value, first = .ok value ∧ rest value = .ok result := by
  cases first <;> simp [bind, Except.bind]

/-- A chain fails where its first step does, or where the rest does after it. -/
theorem bind_eq_error_iff {first : Except ε α} {rest : α → Except ε β} {fault : ε} :
    first >>= rest = .error fault ↔
      first = .error fault ∨ ∃ value, first = .ok value ∧ rest value = .error fault := by
  cases first <;> simp [bind, Except.bind]

/-- Of a step that succeeds only this matters, if what the rest fails with does not depend on it. -/
theorem bind_eq_error_congr {first : Except ε α} {rest : α → Except ε β} {others : Except ε Unit}
    {fault : ε} (same : ∀ value, rest value = .error fault ↔ others = .error fault) :
    first >>= rest = .error fault ↔
      (first.map (fun _ => ()) >>= fun _ => others) = .error fault := by
  cases first with
  | error _ => simp [bind, Except.bind, Except.map]
  | ok value => exact same value

theorem map_eq_ok_iff {first : Except ε α} {change : α → β} {result : β} :
    first.map change = .ok result ↔ ∃ value, first = .ok value ∧ change value = result := by
  cases first <;> simp [Except.map]

theorem map_eq_error_iff {first : Except ε α} {change : α → β} {fault : ε} :
    first.map change = .error fault ↔ first = .error fault := by
  cases first <;> simp [Except.map]

theorem pure_eq_ok_iff {value result : α} :
    (pure value : Except ε α) = .ok result ↔ value = result := by
  simp [pure, Except.pure]

/-- Checks made one after the other come to an item, as all of those before it succeed. -/
def Reaches (check : α → Except ε Unit) (items : List α) (item : α) : Prop :=
  ∃ before after, items = before ++ item :: after ∧ ∀ earlier ∈ before, check earlier = .ok ()

theorem reaches_cons_iff {check : α → Except ε Unit} {first item : α} {items : List α} :
    Reaches check (first :: items) item ↔
      first = item ∨ check first = .ok () ∧ Reaches check items item := by
  constructor
  · rintro ⟨_ | ⟨_, before⟩, after, same, earlier⟩
    · exact .inl (List.cons.inj same).1
    · obtain ⟨rfl, rfl⟩ := List.cons.inj same
      obtain ⟨passed, others⟩ := List.forall_mem_cons.mp earlier
      exact .inr ⟨passed, before, after, rfl, others⟩
  · rintro (rfl | ⟨passed, before, after, rfl, earlier⟩)
    · exact ⟨[], items, rfl, by simp⟩
    · exact ⟨first :: before, after, rfl, List.forall_mem_cons.mpr ⟨passed, earlier⟩⟩

/-- Of checks made one after the other the first that fails says what is wrong. -/
theorem forM_eq_error_iff {check : α → Except ε Unit} {items : List α} {fault : ε} :
    items.forM check = .error fault ↔
      ∃ item, Reaches check items item ∧ check item = .error fault := by
  induction items with
  | nil => simp [pure, Except.pure, Reaches]
  | cons first items inductionHypothesis =>
      simp only [List.forM_eq_forM, List.forM_cons, bind_eq_error_iff] at inductionHypothesis ⊢
      simp only [inductionHypothesis, reaches_cons_iff]
      constructor
      · rintro (failed | ⟨_, passed, item, reached, failed⟩)
        · exact ⟨first, .inl rfl, failed⟩
        · exact ⟨item, .inr ⟨passed, reached⟩, failed⟩
      · rintro ⟨item, rfl | ⟨passed, reached⟩, failed⟩
        · exact .inl failed
        · exact .inr ⟨(), passed, item, reached, failed⟩

/-- Work on a list succeeds if it did on all but the last item and does on that one. -/
theorem mapM_concat_eq_ok {work : α → Except ε β} {items : List α} {item : α} {results : List β}
    {result : β} (most : items.mapM work = .ok results) (last : work item = .ok result) :
    (items ++ [item]).mapM work = .ok (results ++ [result]) := by
  rw [List.mapM_append, most]
  simp [last, bind, Except.bind, pure, Except.pure]

theorem estate_bind_eq_ok_iff {σ : Type} {first : EStateM ε σ α} {next : α → EStateM ε σ β}
    {result : β} {start finish : σ} :
    (first >>= next) start = .ok result finish ↔
      ∃ value middle, first start = .ok value middle ∧ next value middle = .ok result finish := by
  simp only [bind, EStateM.bind]
  cases first start with
  | error fault middle => simp
  | ok value middle =>
      constructor
      · intro done
        exact ⟨value, middle, rfl, done⟩
      · rintro ⟨_, _, same, done⟩
        obtain ⟨rfl, rfl⟩ := EStateM.Result.ok.inj same
        exact done

end Forage
