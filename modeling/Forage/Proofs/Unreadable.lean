import Forage.Proofs.Kinds

/-!
# Files of settings that cannot be read

A path is followed or is at fault in itself, and so is the text of the file that it leads to. What
is left are files that cannot be got at and documents that are nested too deeply.
-/

namespace Forage

namespace Path

theorem kind_of_checkBytes {path : Path} {fault : Fault} (failed : path.checkBytes = .error fault) :
    fault.kind ∈ Halt.refused := by
  simp only [checkBytes] at failed
  split at failed
  · exact Halt.refused_of_unencodable (Except.error.inj failed ▸ rfl)
  · split at failed
    · exact Halt.refused_of_invalid (Except.error.inj failed ▸ rfl)
    · simp at failed

theorem kind_of_checkAlong {walked : Path} {parts : List String} {fault : Fault}
    (failed : walked.checkAlong parts = .error fault) : fault.kind ∈ Halt.refused := by
  induction parts generalizing walked with
  | nil => simp [checkAlong] at failed
  | cons part parts inductionHypothesis =>
      simp only [checkAlong] at failed
      split at failed
      · rcases bind_eq_error_iff.mp failed with failed | ⟨_, -, failed⟩
        · exact kind_of_checkBytes failed
        · exact inductionHypothesis failed
      · exact inductionHypothesis failed

theorem kind_of_resolveWithin {cwd : List String} {base path : Path} {fault : Fault}
    (failed : resolveWithin cwd base path = .error fault) : fault.kind ∈ Halt.refused := by
  unfold resolveWithin at failed
  rcases bind_eq_error_iff.mp failed with failed | ⟨_, -, failed⟩
  · exact kind_of_checkAlong failed
  rcases bind_eq_error_iff.mp failed with failed | ⟨_, -, failed⟩
  · exact kind_of_checkAlong failed
  simp only at failed
  split at failed
  · simp [pure, Except.pure] at failed
  · exact Halt.refused_of_invalid (Except.error.inj failed ▸ rfl)

end Path

namespace Disk

variable {disk : Disk} {path : Path} {fault : Fault}

theorem walk_eq_error {place : Place} {parts : List String}
    (failed : disk.walk place parts = .error fault) :
    fault ∈ [.nameTooLong, .notDirectory, .fileMissing] := by
  induction parts generalizing place with
  | nil => simp [walk] at failed
  | cons part parts inductionHypothesis =>
      unfold walk at failed
      split at failed
      · split at failed
        · exact Except.error.inj failed ▸ (by decide)
        · exact inductionHypothesis failed
      split at failed
      · exact Except.error.inj failed ▸ (by decide)
      · exact Except.error.inj failed ▸ (by decide)

theorem locate_eq_error (failed : disk.locate path = .error fault) :
    fault.kind ∈ Halt.refused ∨ fault ∈ [.nameTooLong, .notDirectory, .fileMissing] := by
  unfold locate at failed
  rcases bind_eq_error_iff.mp failed with failed | ⟨_, -, failed⟩
  · exact .inl (Path.kind_of_checkBytes failed)
  simp only at failed
  split at failed
  · exact .inr (Except.error.inj failed ▸ (by decide))
  · exact .inr (walk_eq_error failed)

/-- The file that a path leads to cannot be got at, or its text cannot be gone through. -/
inductive Unreadable (disk : Disk) (path : Path) : Fault → Prop where
  | astray {fault : Fault} : disk.locate path = .error fault →
      fault ∈ [.nameTooLong, .notDirectory] → Unreadable disk path fault
  | directory {place : Place} : disk.locate path = .ok place → disk.isDirectory place = true →
      Unreadable disk path .isDirectory
  | deep {chars : List Char} : disk.readChars path = .ok chars →
      Json.read chars = .error .nestedTooDeeply → Unreadable disk path .nestedTooDeeply

theorem readChars_eq_error (failed : disk.readChars path = .error fault) :
    fault.kind ∈ Halt.refused ∨ fault = .fileMissing ∨ disk.Unreadable path fault := by
  unfold readChars read at failed
  rcases bind_eq_error_iff.mp failed with failed | ⟨content, -, failed⟩
  · rcases bind_eq_error_iff.mp failed with failed | ⟨place, located, failed⟩
    · rcases locate_eq_error failed with refused | listed
      · exact .inl refused
      · by_cases missing : fault = .fileMissing
        · exact .inr (.inl missing)
        · refine .inr (.inr (.astray failed ?_))
          simpa [missing] using listed
    · simp only at failed
      by_cases isDirectory : disk.isDirectory place = true
      · rw [if_pos isDirectory] at failed
        exact .inr (.inr (Except.error.inj failed ▸ .directory located isDirectory))
      rw [if_neg isDirectory] at failed
      split at failed
      · simp [pure, Except.pure] at failed
      · exact .inr (.inl (Except.error.inj failed).symm)
  · split at failed
    · simp [pure, Except.pure] at failed
    · exact .inl (Halt.refused_of_invalid (Except.error.inj failed ▸ rfl))

theorem read_json_eq_error {chars : List Char} (failed : Json.read chars = .error fault) :
    fault.kind = .invalid ∨ fault = .nestedTooDeeply := by
  unfold Json.read at failed
  split at failed
  · simp at failed
  · next defect _ =>
      obtain rfl := Except.error.inj failed
      cases defect with
      | complaint | tooManyDigits => exact .inl rfl
      | tooDeep => exact .inr rfl

theorem readSettings_eq_error (failed : disk.readSettings path = .error fault) :
    fault.kind ∈ Halt.refused ∨ disk.Unreadable path fault := by
  unfold readSettings at failed
  split at failed
  · exact .inl (Halt.refused_of_invalid (Except.error.inj failed ▸ rfl))
  · next other unread =>
      obtain rfl := Except.error.inj failed
      rcases readChars_eq_error unread with refused | missing | unreadable
      · exact .inl refused
      · exact absurd missing other
      · exact .inr unreadable
  · next chars loaded =>
      split at failed
      · exact .inl (Halt.refused_of_invalid (Except.error.inj failed ▸ rfl))
      · next unread =>
          obtain rfl := Except.error.inj failed
          rcases read_json_eq_error unread with invalid | rfl
          · exact .inl (Halt.refused_of_invalid invalid)
          · exact .inr (.deep loaded unread)
      · simp at failed
      · exact .inl (Halt.refused_of_invalid (Except.error.inj failed ▸ rfl))

theorem Unreadable.readSettings_eq (unreadable : disk.Unreadable path fault) :
    disk.readSettings path = .error fault := by
  have missed {fault : Fault} (unread : disk.readChars path = .error fault)
      (other : fault ≠ .fileMissing) : disk.readSettings path = .error fault := by
    unfold readSettings
    rw [unread]
    cases fault <;> first | rfl | exact absurd rfl other
  cases unreadable with
  | astray failed listed =>
      apply missed
      · simp [readChars, read, failed, bind, Except.bind]
      · rintro rfl
        simp at listed
  | directory located isDirectory =>
      apply missed
      · simp [readChars, read, located, isDirectory, bind, Except.bind, throw, throwThe,
          MonadExceptOf.throw]
      · simp
  | deep loaded unread =>
      unfold readSettings
      simp only [loaded, unread]

theorem Unreadable.failure (unreadable : disk.Unreadable path fault) :
    Halt.ofFault fault = .failure fault := by
  cases unreadable with
  | astray _ listed =>
      simp only [List.mem_cons, List.not_mem_nil, or_false] at listed
      rcases listed with rfl | rfl <;> rfl
  | directory | deep => rfl

end Disk

end Forage
