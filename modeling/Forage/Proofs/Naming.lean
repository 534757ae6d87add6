import Forage.Path
import Forage.Proofs.Fallible
import Forage.Proofs.Label

/-!
# Names for a disk

A disk knows a path by the bytes of its text, so a text without bytes, or with a zero among
them, names nothing. Whether a path can be named is a matter of its parts alone: the slashes
between them neither take bytes away nor add a zero.
-/

namespace Forage

namespace Text

variable {byte? : Fin halves → Option UInt8} {chars before after : List Char}

theorem unencodable?_eq_none_iff {points : List Point} :
    unencodable? byte? points = none ↔ points.any (isLoose byte?) = false := by
  unfold unencodable?
  induction points with
  | nil => simp
  | cons point points inductionHypothesis =>
      cases point with
      | char c =>
          have passed : isLoose byte? (.char c) = false := rfl
          simp only [List.takeWhile_cons, passed, Bool.not_false, if_true, List.length_cons,
            List.drop_succ_cons, List.any_cons, Bool.false_or]
          rw [← inductionHypothesis]
          split <;> simp_all
      | half index =>
          cases loose : isLoose byte? (.half index) with
          | true => simp [loose]
          | false =>
              simp only [List.takeWhile_cons, loose, Bool.not_false, if_true, List.length_cons,
                List.drop_succ_cons, List.any_cons, Bool.false_or]
              rw [← inductionHypothesis]
              split <;> simp_all

/-- A slash is no part of a half, so the halves of a text are those before it and after it. -/
theorem any_isLoose_append (before after : List Char) :
    (points (before ++ '/' :: after)).any (isLoose byte?) =
      ((points before).any (isLoose byte?) || (points after).any (isLoose byte?)) := by
  have plain : '/' ≠ mark := by decide
  have untold : told? '/' = none := by decide
  fun_induction points before with
  | case1 => simp [plain, isLoose]
  | case2 c =>
      by_cases marked : c = mark
      · simp [points, marked, untold, isLoose]
      · simp [marked, plain, isLoose]
  | case3 d rest inductionHypothesis =>
      simp only [List.cons_append, points, if_true, List.any_cons, inductionHypothesis,
        Bool.or_assoc]
  | case4 c d rest unmarked inductionHypothesis =>
      rw [List.cons_append, points_cons_of_ne unmarked, List.any_cons, inductionHypothesis,
        List.any_cons, Bool.or_assoc]

/-- All of a text has bytes, and none of them is zero. -/
def Nameable (chars : List Char) : Prop :=
  unencodable? byteOfHalf? (points chars) = none ∧ '\x00' ∉ chars

instance (chars : List Char) : Decidable (Nameable chars) :=
  inferInstanceAs (Decidable (_ ∧ _))

theorem nameable_nil : Nameable [] := by
  decide

theorem nameable_append_iff :
    Nameable (before ++ '/' :: after) ↔ Nameable before ∧ Nameable after := by
  simp only [Nameable, unencodable?_eq_none_iff, any_isLoose_append, Bool.or_eq_false_iff,
    List.mem_append, List.mem_cons, not_or]
  have other : '\x00' ≠ '/' := by decide
  constructor
  · rintro ⟨⟨first, second⟩, front, -, back⟩
    exact ⟨⟨first, front⟩, second, back⟩
  · rintro ⟨⟨first, front⟩, second, back⟩
    exact ⟨⟨first, second⟩, front, other, back⟩

theorem nameable_intercalate_iff {parts : List (List Char)} :
    Nameable (['/'].intercalate parts) ↔ ∀ part ∈ parts, Nameable part := by
  induction parts with
  | nil => simpa using nameable_nil
  | cons part parts inductionHypothesis =>
      rw [List.forall_mem_cons]
      cases parts with
      | nil => simp
      | cons next parts =>
          rw [List.intercalate_cons_cons, List.append_assoc, ← inductionHypothesis]
          exact nameable_append_iff

theorem nameable_iff_splitOn : Nameable chars ↔ ∀ part ∈ splitOn '/' chars, Nameable part := by
  rw [splitOn_eq, ← nameable_intercalate_iff, List.intercalate_splitOn]

theorem notMem_of_mem_splitOn {separator : Char} {part : List Char}
    (listed : part ∈ splitOn separator chars) : separator ∉ part := by
  induction chars generalizing part with
  | nil =>
      obtain rfl := List.mem_singleton.mp listed
      exact List.not_mem_nil
  | cons c rest inductionHypothesis =>
      unfold splitOn at listed
      split at listed
      · rcases List.mem_cons.mp listed with rfl | later
        · exact List.not_mem_nil
        · exact inductionHypothesis later
      next other =>
        split at listed
        next nothing => exact absurd nothing (splitOn_ne_nil separator rest)
        next first others parted =>
          rw [parted] at inductionHypothesis
          rcases List.mem_cons.mp listed with rfl | later
          · rw [List.mem_cons, not_or]
            exact ⟨Ne.symm other, inductionHypothesis List.mem_cons_self⟩
          · exact inductionHypothesis (List.mem_cons_of_mem _ later)

end Text

namespace Path

open Text (Nameable)

variable {path walked : Path} {part : String} {parts : List String}

/-- The slashes in front of a path are none, one, or two. -/
def Rooted (path : Path) : Prop :=
  path.root = "" ∨ path.root = "/" ∨ path.root = "//"

theorem checkBytes_eq_ok_iff : path.checkBytes = .ok () ↔ Nameable path.text.toList := by
  unfold checkBytes Nameable
  dsimp only
  split
  next => simp_all
  next encodable => simp [encodable]

theorem nameable_text_iff (rooted : path.Rooted) :
    Nameable path.text.toList ↔ ∀ part ∈ path.parts, Nameable part.toList := by
  have written : Nameable path.text.toList ↔
      Nameable (path.root.toList ++ ['/'].intercalate (path.parts.map String.toList)) := by
    have joined : (path.root ++ "/".intercalate path.parts).toList =
        path.root.toList ++ ['/'].intercalate (path.parts.map String.toList) := by
      rw [String.toList_append, String.toList_intercalate]
      rfl
    rw [← joined, text]
    split
    next nothing =>
      rw [String.isEmpty_iff.mp nothing]
      decide
    next => rfl
  have parts : Nameable (['/'].intercalate (path.parts.map String.toList)) ↔
      ∀ part ∈ path.parts, Nameable part.toList := by
    rw [Text.nameable_intercalate_iff, List.forall_mem_map]
  have slash (after : List Char) : Nameable ('/' :: after) ↔ Nameable after := by
    have parted := @Text.nameable_append_iff [] after
    rw [List.nil_append] at parted
    rw [parted, and_iff_right Text.nameable_nil]
  rw [written, ← parts]
  rcases rooted with root | root | root
  · rw [root]
    rfl
  · rw [root]
    exact slash _
  · rw [root]
    exact (slash _).trans (slash _)

theorem nameable_ofString_iff (text : String) :
    (∀ part ∈ (ofString text).parts, Nameable part.toList) ↔ Nameable text.toList := by
  have skipped : ∀ stretch, isPart stretch = false → Nameable stretch := by
    intro stretch skipped
    have : stretch = [] ∨ stretch = ['.'] := by
      by_cases empty : stretch = []
      · exact .inl empty
      · exact .inr (by simpa [isPart, empty] using skipped)
    rcases this with rfl | rfl <;> decide
  rw [Text.nameable_iff_splitOn, ofString, List.forall_mem_map]
  simp only [String.toList_ofList, List.mem_filter]
  constructor
  · intro all stretch listed
    cases counted : isPart stretch with
    | true => exact all stretch ⟨listed, counted⟩
    | false => exact skipped stretch counted
  · intro all stretch listed
    exact all stretch listed.1

theorem root_retrace : (walked.retrace part).root = walked.root := by
  unfold retrace
  split
  · rfl
  · split
    · split <;> rfl
    · rfl

theorem retrace_of_ne (onward : part ≠ back) : walked.retrace part = walked.child part := by
  have different : (part != back) = true := by simpa using onward
  rw [retrace, if_pos different]

theorem parts_retrace_back_subset : (walked.retrace back).parts ⊆ back :: walked.parts := by
  have same : (back != back) = false := bne_self_eq_false back
  rw [retrace, same, if_neg Bool.false_ne_true]
  split
  · split
    · exact List.subset_cons_self _ _
    · simp [child]
  · exact List.subset_cons_of_subset _ (List.dropLast_subset _)

theorem checkAlong_eq_ok_iff (rooted : walked.Rooted)
    (walkable : ∀ earlier ∈ walked.parts, Nameable earlier.toList) :
    walked.checkAlong parts = .ok () ↔ ∀ part ∈ parts, Nameable part.toList := by
  induction parts generalizing walked with
  | nil => simp [checkAlong]
  | cons part parts inductionHypothesis =>
      have onward : (walked.retrace part).Rooted := by
        rw [Rooted, root_retrace]
        exact rooted
      rw [List.forall_mem_cons]
      by_cases turns : part = back
      · have named : Nameable back.toList := by decide
        have still : ∀ earlier ∈ (walked.retrace back).parts, Nameable earlier.toList := by
          intro earlier listed
          rcases List.mem_cons.mp (parts_retrace_back_subset listed) with rfl | before
          · exact named
          · exact walkable earlier before
        rw [turns] at onward ⊢
        rw [and_iff_right named, ← inductionHypothesis onward still]
        rfl
      · have different : (part != back) = true := by simpa using turns
        have there : (∀ earlier ∈ (walked.child part).parts, Nameable earlier.toList) ↔
            Nameable part.toList := by
          rw [child, List.forall_mem_append, List.forall_mem_singleton]
          exact and_iff_right walkable
        simp only [checkAlong, different, if_true]
        rw [retrace_of_ne turns] at onward ⊢
        constructor
        · intro done
          obtain ⟨_, checked, rest⟩ := bind_eq_ok_iff.mp done
          have named := (nameable_text_iff onward).mp (checkBytes_eq_ok_iff.mp checked)
          exact ⟨there.mp named, (inductionHypothesis onward named).mp rest⟩
        · rintro ⟨first, others⟩
          have named := there.mpr first
          apply bind_eq_ok_iff.mpr
          refine ⟨(), ?_, (inductionHypothesis onward named).mpr others⟩
          exact checkBytes_eq_ok_iff.mpr ((nameable_text_iff onward).mpr named)

theorem checkWay_eq_ok_iff :
    path.checkWay = .ok () ↔ ∀ part ∈ path.parts, Nameable part.toList := by
  unfold checkWay
  apply checkAlong_eq_ok_iff
  · unfold Rooted
    dsimp only
    split <;> simp
  · simp

end Path

end Forage
