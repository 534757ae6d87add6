import Forage.Command.Simulate
import Forage.Proofs.Draft

/-!
# Kinds of fault

What is read from a text or checked against limits fails with a fault that is about what was
asked for. Among numbers only the infinities lead to another kind, since they cannot be cut off.
-/

namespace Forage

theorem Halt.refused_of_invalid {fault : Fault} (kind : fault.kind = .invalid) :
    fault.kind ∈ refused := by
  rw [kind]
  decide

theorem Halt.refused_of_unencodable {fault : Fault} (kind : fault.kind = .unencodable) :
    fault.kind ∈ refused := by
  rw [kind]
  decide

theorem Halt.refusal_of_mem {fault : Fault} (known : fault.kind ∈ refused) :
    ofFault fault = .refusal fault :=
  if_pos (List.contains_iff_mem.mpr known)

/-- The number is an infinity. -/
def Binary64.IsInfinite (number : Binary64) : Prop :=
  ∃ negative, number.form = .infinite negative

theorem Binary64.truncate_eq_infinite_iff {number : Binary64} :
    number.truncate = .error .infinite ↔ number.IsInfinite := by
  unfold truncate IsInfinite
  cases number.form <;> simp

theorem Setting.truncate_eq_error {number : Binary64} {fault : Fault}
    (failed : truncate number = .error fault) :
    fault = .notANumber ∨ number.IsInfinite ∧ fault = .tooLarge := by
  unfold truncate at failed
  cases cut : number.truncate with
  | ok value =>
      rw [cut] at failed
      exact nomatch failed
  | error cause =>
      rw [cut] at failed
      obtain rfl : truncateFault cause = fault := Except.error.inj failed
      cases cause with
      | notANumber => exact .inl rfl
      | infinite => exact .inr ⟨Binary64.truncate_eq_infinite_iff.mp cut, rfl⟩

theorem Setting.truncate_of_isInfinite {number : Binary64} (infinite : number.IsInfinite) :
    truncate number = .error .tooLarge := by
  rw [truncate, Binary64.truncate_eq_infinite_iff.mpr infinite]
  rfl

theorem Tape.kind_of_opcodesOfNames {names : List String} {fault : Fault}
    (failed : opcodesOfNames names = .error fault) : fault.kind = .invalid := by
  induction names with
  | nil => simp [opcodesOfNames] at failed
  | cons name names inductionHypothesis =>
      unfold opcodesOfNames at failed
      split at failed
      · exact Except.error.inj failed ▸ rfl
      · exact inductionHypothesis (map_eq_error_iff.mp failed)

theorem Tape.kind_of_parse {text : String} {fault : Fault} (failed : parse text = .error fault) :
    fault.kind = .invalid := by
  unfold parse at failed
  split at failed
  · exact Except.error.inj failed ▸ rfl
  · exact kind_of_opcodesOfNames (map_eq_error_iff.mp failed)

theorem Vocabulary.kind_of_ofDatum {datum : Datum} {fault : Fault}
    (failed : ofDatum datum = .error fault) : fault.kind = .invalid := by
  unfold ofDatum at failed
  split at failed
  · split at failed
    · simp at failed
    · exact Except.error.inj failed ▸ rfl
  · exact Except.error.inj failed ▸ rfl

theorem Simulate.kind_of_vocabularyOf {name : String} {fault : Fault}
    (failed : vocabularyOf name = .error fault) : fault.kind = .invalid := by
  unfold vocabularyOf at failed
  split at failed
  · simp at failed
  · exact Except.error.inj failed ▸ rfl

theorem Simulate.kind_of_opcodesOf {text : String} {fault : Fault}
    (failed : opcodesOf text = .error fault) : fault.kind = .invalid := by
  unfold opcodesOf at failed
  split at failed
  · simp at failed
  · exact Tape.kind_of_parse (map_eq_error_iff.mp failed)

/-- A template may also have a half of a character in it, for which there are no bytes. -/
theorem Template.kind_of_ofPieces {whole : String} {pieces : List Piece} {fault : Fault}
    (failed : ofPieces whole pieces = .error fault) : fault.kind ∈ Halt.refused := by
  induction pieces with
  | nil => simp [ofPieces] at failed
  | cons piece pieces inductionHypothesis =>
      rw [ofPieces] at failed
      rcases bind_eq_error_iff.mp failed with failed | ⟨element, -, failed⟩
      · unfold elementOf at failed
        split at failed
        · exact Halt.refused_of_invalid (Except.error.inj failed ▸ rfl)
        · split at failed
          · simp at failed
          · exact Halt.refused_of_invalid (Except.error.inj failed ▸ rfl)
        · split at failed
          · exact Halt.refused_of_unencodable (Except.error.inj failed ▸ rfl)
          · simp at failed
      · rcases bind_eq_error_iff.mp failed with failed | ⟨_, -, done⟩
        · exact inductionHypothesis failed
        · simp [pure, Except.pure] at done

theorem Setting.kind_of_truth {key : String} {datum : Datum} {fault : Fault}
    (failed : truth key datum = .error fault) : fault.kind = .invalid := by
  unfold truth at failed
  split at failed
  · simp at failed
  · split at failed
    · simp at failed
    split at failed
    · simp at failed
    · exact Except.error.inj failed ▸ rfl
  · exact Except.error.inj failed ▸ rfl

theorem Setting.kind_of_text {key : String} {datum : Datum} {fault : Fault}
    (failed : text key datum = .error fault) : fault.kind = .invalid := by
  unfold text at failed
  split at failed
  · simp at failed
  · simp at failed
  · simp at failed
  · exact Except.error.inj failed ▸ rfl

theorem Setting.whole_eq_error {key : String} {datum : Datum} {fault : Fault}
    (failed : whole key datum = .error fault) :
    fault.kind = .invalid ∨
      ∃ number : Binary64, datum = .real number ∧ number.IsInfinite ∧ fault = .tooLarge := by
  unfold whole at failed
  split at failed
  · simp at failed
  · next number =>
      rcases bind_eq_error_iff.mp failed with failed | ⟨value, -, failed⟩
      · rcases truncate_eq_error failed with rfl | ⟨infinite, same⟩
        · exact .inl rfl
        · exact .inr ⟨number, rfl, infinite, same⟩
      · split at failed
        · simp at failed
        · exact .inl (Except.error.inj failed ▸ rfl)
  · split at failed
    · simp at failed
    · exact .inl (Except.error.inj failed ▸ rfl)
  · exact .inl (Except.error.inj failed ▸ rfl)

theorem Setting.whole_of_isInfinite {number : Binary64} (infinite : number.IsInfinite)
    (key : String) : whole key (.real number) = .error .tooLarge := by
  rw [whole, truncate_of_isInfinite infinite]
  rfl

theorem Limits.kind_of_check {limits : Limits} {datum : Datum} {fault : Fault}
    (failed : limits.check datum = .error fault) : fault.kind = .invalid := by
  unfold check at failed
  split at failed
  · split at failed
    · simp at failed
    · exact Except.error.inj failed ▸ rfl
  · exact Except.error.inj failed ▸ rfl

theorem Amount.kind_of_atLeast {name : String} {least : Int} {amount : Amount} {fault : Fault}
    (failed : atLeast name least amount.toDatum = .error fault) : fault.kind = .invalid := by
  rw [atLeast, ofDatum_toDatum] at failed
  by_cases below : amount.isBelow least
  · simp only [bind, Except.bind, below, if_true, throw, throwThe, MonadExceptOf.throw,
      Except.error.injEq] at failed
    exact failed ▸ rfl
  · simp [bind, Except.bind, below, pure, Except.pure] at failed

/-- A draft with an amount and with opcodes alone is refused at most for its limits. -/
theorem Draft.kind_of_toConfig {draft : Draft} {amount : Amount}
    {opcodes : Option (List Opcode)} {fault : Fault} (length : draft.randomLength = amount.toDatum)
    (given : draft.checkedOpcodes = .ok opcodes) (failed : draft.toConfig = .error fault) :
    fault.kind = .invalid := by
  unfold toConfig at failed
  simp only [bind_eq_error_iff] at failed
  iterate 12
    rcases failed with failed | ⟨_, -, failed⟩
    · exact Limits.kind_of_check failed
  rcases failed with failed | ⟨_, -, failed⟩
  · rw [length] at failed
    exact Amount.kind_of_atLeast failed
  rcases failed with failed | ⟨_, -, failed⟩
  · exact absurd (given.symm.trans failed) (by simp)
  · simp [pure, Except.pure] at failed

end Forage
