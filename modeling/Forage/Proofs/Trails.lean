import Forage.Proofs.Naming
import Forage.Proofs.Places

/-!
# Ways across a disk

A path leads through directories to where it ends. What is missing on its way can be made, one
directory after the other, as long as no file stands in the way; then the path leads to its end,
and nothing else has changed.
-/

namespace Forage

namespace Path

variable {place : Place} {part : String} {parts : List String}

/-- The places that are left on the way from a place along parts. -/
def passed (place : Place) : List String → List Place
  | [] => []
  | part :: parts => place :: passed (follow place part) parts

theorem passed_concat :
    passed place (parts ++ [part]) = passed place parts ++ [parts.foldl follow place] := by
  induction parts generalizing place with
  | nil => rfl
  | cons first parts inductionHypothesis => simp [passed, inductionHypothesis]

/-- A path that can be named, neither whole nor in its parts too long for a disk. -/
structure Fits (path : Path) : Prop where
  named : Text.Nameable path.text.toList
  short : byteCount path.text ≤ Disk.pathLimit
  parts : ∀ part ∈ path.parts, byteCount part ≤ Disk.partLimit

instance (path : Path) : Decidable path.Fits :=
  decidable_of_iff (Text.Nameable path.text.toList ∧ byteCount path.text ≤ Disk.pathLimit ∧
    ∀ part ∈ path.parts, byteCount part ≤ Disk.partLimit)
    ⟨fun ⟨named, short, parts⟩ => ⟨named, short, parts⟩,
      fun ⟨named, short, parts⟩ => ⟨named, short, parts⟩⟩

end Path

namespace Disk

open Forage.Path (Fits passed)

variable {disk before middle after : Disk} {place : Place} {places more : List Place}
  {path : Path} {part root : String} {parts : List String}

theorem walk_eq_ok (directories : ∀ earlier ∈ passed place parts, disk.isDirectory earlier = true)
    (short : ∀ part ∈ parts, Path.byteCount part ≤ partLimit) :
    disk.walk place parts = .ok (parts.foldl Path.follow place) := by
  induction parts generalizing place with
  | nil => rfl
  | cons part parts inductionHypothesis =>
      obtain ⟨here, onward⟩ := List.forall_mem_cons.mp directories
      obtain ⟨first, others⟩ := List.forall_mem_cons.mp short
      apply walk_cons_eq_ok_iff.mpr
      exact ⟨here, first, inductionHypothesis onward others⟩

/-- A way that is broken off, but not by a file, leads to something that is missing. -/
theorem walk_eq_missing (clear : ∀ earlier ∈ passed place parts, disk.files.contains earlier = false)
    (short : ∀ part ∈ parts, Path.byteCount part ≤ partLimit)
    (broken : ¬∀ earlier ∈ passed place parts, disk.isDirectory earlier = true) :
    disk.walk place parts = .error .fileMissing := by
  induction parts generalizing place with
  | nil => exact absurd (List.forall_mem_nil _) broken
  | cons part parts inductionHypothesis =>
      obtain ⟨free, onward⟩ := List.forall_mem_cons.mp clear
      obtain ⟨first, others⟩ := List.forall_mem_cons.mp short
      unfold walk
      by_cases here : disk.isDirectory place = true
      · have later : ¬∀ earlier ∈ passed (Path.follow place part) parts,
            disk.isDirectory earlier = true := by
          intro all
          exact broken (List.forall_mem_cons.mpr ⟨here, all⟩)
        rw [if_pos here, if_neg (Nat.not_lt.mpr first)]
        exact inductionHypothesis onward others later
      · rw [if_neg here, free]
        rfl

/-- Where the way of a path begins. -/
def start (disk : Disk) (path : Path) : Place :=
  if path.isAbsolute then [] else disk.cwd

/-- The places that a path leads through before it ends. -/
def through (disk : Disk) (path : Path) : List Place :=
  passed (disk.start path) path.parts

/-- Where a path ends. -/
def goal (disk : Disk) (path : Path) : Place :=
  path.resolve disk.cwd

section Cwd

variable (same : after.cwd = before.cwd)

include same

theorem start_of_cwd : after.start path = before.start path := by
  rw [start, start, same]

theorem through_of_cwd : after.through path = before.through path := by
  rw [through, through, start_of_cwd same]

theorem goal_of_cwd : after.goal path = before.goal path := by
  rw [goal, goal, same]

end Cwd

theorem locate_of_fits (fits : path.Fits) :
    disk.locate path = disk.walk (disk.start path) path.parts := by
  rw [locate, Path.checkBytes_eq_ok_iff.mpr fits.named]
  simp only [bind, Except.bind, if_neg (Nat.not_lt.mpr fits.short)]
  rfl

theorem locate_eq_ok (fits : path.Fits)
    (directories : ∀ earlier ∈ disk.through path, disk.isDirectory earlier = true) :
    disk.locate path = .ok (disk.goal path) := by
  rw [locate_of_fits fits]
  exact walk_eq_ok directories fits.parts

theorem locate_eq_missing (fits : path.Fits)
    (clear : ∀ earlier ∈ disk.through path, disk.files.contains earlier = false)
    (broken : ¬∀ earlier ∈ disk.through path, disk.isDirectory earlier = true) :
    disk.locate path = .error .fileMissing := by
  rw [locate_of_fits fits]
  exact walk_eq_missing clear fits.parts broken

/-- A disk on which some directories were made and nothing else was done. -/
structure Made (places : List Place) (before after : Disk) : Prop where
  cwd : after.cwd = before.cwd
  files : after.files = before.files
  directories : ∀ place,
    after.isDirectory place = true ↔ before.isDirectory place = true ∨ place ∈ places

namespace Made

theorem trans (first : Made places before middle) (second : Made more middle after) :
    Made (places ++ more) before after where
  cwd := second.cwd.trans first.cwd
  files := second.files.trans first.files
  directories place := by
    rw [second.directories, first.directories, List.mem_append, or_assoc]

theorem of_there (there : ∀ place ∈ places, disk.isDirectory place = true) :
    Made places disk disk :=
  ⟨rfl, rfl, fun place => ⟨.inl, fun either => either.elim id (there place)⟩⟩

theorem insert (disk : Disk) (place : Place) :
    Made [place] disk { disk with directories := disk.directories.insert place } where
  cwd := rfl
  files := rfl
  directories other := by
    simp [isDirectory, Std.ExtTreeSet.contains_insert, or_comm, @eq_comm _ other place]

end Made

/-- Where a way is there its end can be made a directory, unless a file is there. -/
theorem exists_makeUnlessThere (fits : path.Fits)
    (directories : ∀ earlier ∈ disk.through path, disk.isDirectory earlier = true)
    (clear : disk.files.contains (disk.goal path) = false) :
    ∃ after, disk.makeUnlessThere path = .ok after ∧ Made [disk.goal path] disk after := by
  have located := locate_eq_ok fits directories
  unfold makeUnlessThere makeDirectory leadsToDirectory
  rw [located]
  by_cases there : disk.isDirectory (disk.goal path) = true
  · refine ⟨disk, ?_, .of_there ?_⟩
    · simp [bind, Except.bind, holds, there, throw, throwThe, MonadExceptOf.throw]
    · exact List.forall_mem_singleton.mpr there
  · refine ⟨{ disk with directories := disk.directories.insert (disk.goal path) }, ?_,
      .insert disk _⟩
    simp [bind, Except.bind, holds, there, clear, pure, Except.pure]

theorem makeUnlessThere_eq_missing (fits : path.Fits)
    (clear : ∀ earlier ∈ disk.through path, disk.files.contains earlier = false)
    (broken : ¬∀ earlier ∈ disk.through path, disk.isDirectory earlier = true) :
    disk.makeUnlessThere path = .error .fileMissing := by
  unfold makeUnlessThere makeDirectory
  rw [locate_eq_missing fits clear broken]
  rfl

/-- All that a path leads through, and what it ends at, when it is one part longer. -/
theorem through_concat :
    disk.through ⟨root, parts ++ [part]⟩ = disk.through ⟨root, parts⟩ ++ [disk.goal ⟨root, parts⟩] :=
  Path.passed_concat

/-- Where no file is in the way, all directories can be made that parts lead through and end at. -/
theorem exists_makeParts {reversed : List String}
    (fits : ∀ front, front <+: reversed.reverse → Fits ⟨root, front⟩)
    (clear : ∀ place ∈ disk.through ⟨root, reversed.reverse⟩ ++ [disk.goal ⟨root, reversed.reverse⟩],
      disk.files.contains place = false) :
    ∃ after, makeParts root reversed disk = .ok () after ∧
      Made (disk.through ⟨root, reversed.reverse⟩ ++ [disk.goal ⟨root, reversed.reverse⟩])
        disk after := by
  induction reversed with
  | nil =>
      obtain ⟨after, done, made⟩ := exists_makeUnlessThere (fits [] (List.prefix_refl []))
        (List.forall_mem_nil _) (clear _ (List.mem_append_right _ List.mem_cons_self))
      refine ⟨after, ?_, made⟩
      rw [makeParts, done]
  | cons part parts inductionHypothesis =>
      rw [List.reverse_cons] at fits clear ⊢
      rw [List.forall_mem_append, List.forall_mem_singleton] at clear
      obtain ⟨along, free⟩ := clear
      have whole := fits _ (List.prefix_refl _)
      by_cases complete :
          ∀ earlier ∈ disk.through ⟨root, parts.reverse ++ [part]⟩, disk.isDirectory earlier = true
      · obtain ⟨after, done, made⟩ := exists_makeUnlessThere whole complete free
        refine ⟨after, ?_, (Made.of_there complete).trans made⟩
        simp only [makeParts, List.reverse_cons, done]
      · have missing := makeUnlessThere_eq_missing whole along complete
        rw [through_concat] at along
        obtain ⟨middle, first, way⟩ := inductionHypothesis
          (fun front shorter => fits front (shorter.trans (List.prefix_append _ _))) along
        rw [← through_concat] at way
        have there : ∀ earlier ∈ middle.through ⟨root, parts.reverse ++ [part]⟩,
            middle.isDirectory earlier = true := by
          intro earlier passed
          rw [through_of_cwd way.cwd] at passed
          exact (way.directories earlier).mpr (.inr passed)
        obtain ⟨after, second, made⟩ := exists_makeUnlessThere whole there (by
          rw [way.files, goal_of_cwd way.cwd]
          exact free)
        rw [goal_of_cwd way.cwd] at made
        refine ⟨after, ?_, way.trans made⟩
        simp only [makeParts, List.reverse_cons, missing, first, second]

theorem exists_makeDirectories (some : path.parts ≠ [])
    (fits : ∀ front, front <+: path.parts → Fits ⟨path.root, front⟩)
    (clear : ∀ place ∈ disk.through path, disk.files.contains place = false) :
    ∃ after, makeDirectories path.parent disk = .ok () after ∧
      Made (disk.through path) disk after := by
  obtain ⟨root, parts⟩ := path
  obtain ⟨front, last, rfl⟩ : ∃ front last, parts = front ++ [last] :=
    ⟨_, _, (List.dropLast_concat_getLast some).symm⟩
  rw [through_concat, ← List.reverse_reverse front] at clear ⊢
  obtain ⟨after, done, made⟩ := exists_makeParts (fun shorter within => by
    rw [List.reverse_reverse] at within
    exact fits shorter (within.trans (List.prefix_append _ _))) clear
  refine ⟨after, ?_, made⟩
  rw [makeDirectories, Path.parent, List.dropLast_concat]
  simpa only [List.reverse_reverse] using done

end Disk

end Forage
