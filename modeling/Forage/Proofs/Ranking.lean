import Forage.Census
import Forage.Proofs.Label
import Mathlib.Data.Finset.Card
import Mathlib.Data.List.Dedup
import Mathlib.Algebra.BigOperators.Ring.Finset

/-!
# The ranking of programs

The census counts for every program the foragers that carry it, and no two programs have one
label. So the ranking has one row for each program, and no two of its rows can change places:
it depends on who carries what, and not on the order in which the foragers are seen.
-/

namespace Forage

theorem Opcode.name_injective : Function.Injective Opcode.name := by
  intro first second same
  have found := Opcode.ofName?_name first
  rw [same, Opcode.ofName?_name] at found
  exact (Option.some.inj found).symm

theorem Opcode.label_injective : Function.Injective Opcode.label := by
  intro first second same
  apply List.map_injective_iff.mpr Opcode.name_injective
  rw [← Tape.namesOf_label, ← Tape.namesOf_label, same]

namespace Standing

/-- One row is ahead of another: more carry it, or as many and its label comes first. -/
def Outranks (row other : Standing) : Prop :=
  other.count < row.count ∨ row.count = other.count ∧ row.label < other.label

instance (row other : Standing) : Decidable (row.Outranks other) :=
  inferInstanceAs (Decidable (_ ∨ _))

theorem precedes_iff {row other : Standing} :
    row.precedes other = true ↔
      other.count < row.count ∨ row.count = other.count ∧ row.label ≤ other.label := by
  simp [precedes]

theorem precedes_trans (first second third : Standing) (ahead : first.precedes second = true)
    (further : second.precedes third = true) : first.precedes third = true := by
  rw [precedes_iff] at ahead further ⊢
  rcases ahead with more | ⟨same, label⟩
  · exact .inl (by omega)
  · rcases further with more | ⟨sameToo, labelToo⟩
    · exact .inl (by omega)
    · exact .inr ⟨same.trans sameToo, String.le_trans label labelToo⟩

theorem precedes_total (first second : Standing) :
    (first.precedes second || second.precedes first) = true := by
  rw [Bool.or_eq_true, precedes_iff, precedes_iff]
  rcases Nat.lt_trichotomy first.count second.count with fewer | same | more
  · exact .inr (.inl fewer)
  · rcases String.le_total first.label second.label with label | label
    · exact .inl (.inr ⟨same, label⟩)
    · exact .inr (.inr ⟨same.symm, label⟩)
  · exact .inl (.inl more)

/-- Of two rows with labels of their own the one that does not come later is ahead. -/
theorem outranks_of_precedes {row other : Standing} (ahead : row.precedes other = true)
    (apart : row.label ≠ other.label) : row.Outranks other := by
  rcases precedes_iff.mp ahead with more | ⟨same, label⟩
  · exact .inl more
  · refine .inr ⟨same, String.not_le.mp fun back => apart (String.le_antisymm label back)⟩

theorem Outranks.asymm {row other : Standing} (ahead : row.Outranks other) :
    ¬other.Outranks row := by
  rintro (more | ⟨same, label⟩)
  · rcases ahead with moreToo | ⟨sameToo, -⟩ <;> omega
  · rcases ahead with moreToo | ⟨-, labelToo⟩
    · omega
    · exact String.lt_asymm label labelToo

end Standing

namespace Scene

/-- The programs of the foragers of a scene, one after the other. -/
def carried (scene : Scene) : List (List Opcode) :=
  scene.sightings.map Sighting.opcodes

/-- The programs that anyone carries. -/
def programs (scene : Scene) : Finset (List Opcode) :=
  scene.carried.toFinset

/-- The number of foragers that carry a program, under its label. -/
def standing (scene : Scene) (opcodes : List Opcode) : Standing :=
  ⟨Opcode.label opcodes, scene.carried.count opcodes⟩

/-- The first so many rows of a ranking of the programs of a scene. -/
structure Ranks (scene : Scene) (number : Int) (rows : List Standing) : Prop where
  length : (rows.length : Int) = min number scene.programs.card
  counted : ∀ row ∈ rows, ∃ opcodes ∈ scene.programs, row = scene.standing opcodes
  ordered : rows.Pairwise Standing.Outranks
  labels : (rows.map Standing.label).Nodup
  /-- Whatever is left out comes after all that is listed. -/
  rest : ∀ opcodes ∈ scene.programs, scene.standing opcodes ∉ rows →
    ∀ row ∈ rows, row.Outranks (scene.standing opcodes)
  total : (scene.programs.card : Int) ≤ number →
    (rows.map Standing.count).sum = scene.population

variable {scene other : Scene}

theorem getElem?_foldl_insert (sightings : List Sighting)
    (census : Std.ExtTreeMap (List Opcode) Nat) (opcodes : List Opcode) :
    (sightings.foldl (fun census sighting =>
        census.insert sighting.opcodes (census.getD sighting.opcodes 0 + 1)) census)[opcodes]? =
      if opcodes ∈ sightings.map Sighting.opcodes then
        some (census.getD opcodes 0 + (sightings.map Sighting.opcodes).count opcodes)
      else census[opcodes]? := by
  induction sightings generalizing census with
  | nil => simp
  | cons sighting sightings inductionHypothesis =>
      rw [List.foldl_cons, inductionHypothesis]
      by_cases same : sighting.opcodes = opcodes
      · subst same
        by_cases again : sighting.opcodes ∈ sightings.map Sighting.opcodes
        · simp [again]
          omega
        · simp [again, List.count_eq_zero.mpr again]
      · have apart : opcodes ≠ sighting.opcodes := Ne.symm same
        simp [same, apart, Std.ExtTreeMap.getElem?_insert, Std.ExtTreeMap.getD_insert]

theorem getElem?_census (scene : Scene) (opcodes : List Opcode) :
    scene.census[opcodes]? =
      if opcodes ∈ scene.carried then some (scene.carried.count opcodes) else none := by
  rw [census, getElem?_foldl_insert]
  simp [carried]

/-- The census has an entry for each program that is carried, with the number of those who do. -/
theorem census_perm (scene : Scene) :
    scene.census.toList.Perm
      (scene.carried.dedup.map fun opcodes => (opcodes, scene.carried.count opcodes)) := by
  have apart : scene.census.toList.Nodup := by
    refine Std.ExtTreeMap.distinct_keys_toList.imp ?_
    rintro first second different rfl
    exact different Std.ReflCmp.compare_self
  apply (List.perm_ext_iff_of_nodup apart _).mpr
  · rintro ⟨opcodes, count⟩
    rw [Std.ExtTreeMap.mem_toList_iff_getElem?_eq_some, getElem?_census]
    simp only [List.mem_map, List.mem_dedup, Prod.mk.injEq]
    constructor
    · intro found
      split at found
      · next listed => exact ⟨opcodes, listed, rfl, Option.some.inj found⟩
      · simp at found
    · rintro ⟨_, listed, rfl, rfl⟩
      rw [if_pos listed]
  · exact scene.carried.nodup_dedup.map fun first second same => (Prod.mk.inj same).1

theorem ranking_perm (scene : Scene) :
    scene.ranking.Perm (scene.carried.dedup.map scene.standing) := by
  have entries := scene.census_perm.map fun entry => (⟨Opcode.label entry.1, entry.2⟩ : Standing)
  rw [List.map_map] at entries
  exact (List.mergeSort_perm _ _).trans entries

theorem nodup_ranking (scene : Scene) : (scene.ranking.map Standing.label).Nodup := by
  have labels := scene.ranking_perm.map Standing.label
  rw [List.map_map] at labels
  apply labels.nodup_iff.mpr
  exact scene.carried.nodup_dedup.map Opcode.label_injective

theorem pairwise_ranking (scene : Scene) : scene.ranking.Pairwise Standing.Outranks := by
  have sorted : scene.ranking.Pairwise fun row other => row.precedes other = true :=
    List.pairwise_mergeSort Standing.precedes_trans Standing.precedes_total _
  have apart : scene.ranking.Pairwise fun row other => row.label ≠ other.label :=
    List.pairwise_map.mp scene.nodup_ranking
  exact sorted.imp₂ (fun _ _ => Standing.outranks_of_precedes) apart

/-- Rows in their order are the ranking, if they are those of the programs that are carried. -/
theorem ranking_eq {rows : List Standing} (same : rows.Perm (scene.carried.dedup.map scene.standing))
    (ordered : rows.Pairwise Standing.Outranks) : scene.ranking = rows := by
  apply (scene.ranking_perm.trans same.symm).eq_of_pairwise _ scene.pairwise_ranking ordered
  exact fun _ _ _ _ ahead behind => absurd behind ahead.asymm

theorem ranking_eq_of_perm (same : scene.carried.Perm other.carried) :
    scene.ranking = other.ranking := by
  refine ranking_eq (other.ranking_perm.trans ?_) other.pairwise_ranking
  have standing : other.standing = scene.standing :=
    funext fun opcodes => congrArg (Standing.mk _) (same.symm.count_eq opcodes)
  rw [standing]
  exact same.symm.dedup.map _

theorem topPrograms_eq_take {number : Int} (least : 0 ≤ number) :
    scene.topPrograms number = scene.ranking.take number.toNat := by
  rw [topPrograms, leading, if_pos least]

theorem length_ranking (scene : Scene) : scene.ranking.length = scene.programs.card := by
  rw [scene.ranking_perm.length_eq, List.length_map, programs, List.card_toFinset]

theorem mem_ranking {row : Standing} :
    row ∈ scene.ranking ↔ ∃ opcodes ∈ scene.programs, row = scene.standing opcodes := by
  rw [scene.ranking_perm.mem_iff, List.mem_map]
  simp only [List.mem_dedup, programs, List.mem_toFinset, eq_comm]

theorem sum_ranking (scene : Scene) :
    (scene.ranking.map Standing.count).sum = scene.population := by
  rw [(scene.ranking_perm.map Standing.count).sum_eq, List.map_map]
  have everyone : scene.carried.length = scene.population := List.length_map _
  have once := List.sum_map_count_dedup_eq_length scene.carried
  -- Programs are told apart here by another test than the one they are counted with.
  rw [lawful_beq_subsingleton instBEqOfDecidableEq List.instBEq] at once
  exact once.trans everyone

/--
However many of the most common programs are asked for, they come with the numbers of those who
carry them, in an order that leaves no choice, and no other program is ahead of them. The order in
which the foragers are seen does not matter, and programs have the same label only if they are one.
-/
theorem topPrograms_exact (scene : Scene) {number : Int} (least : 1 ≤ number) :
    scene.Ranks number (scene.topPrograms number) ∧
      (∀ sightings, sightings.Perm scene.sightings →
        ({ scene with sightings } : Scene).topPrograms number = scene.topPrograms number) ∧
      Function.Injective Opcode.label := by
  have first : scene.topPrograms number = scene.ranking.take number.toNat :=
    topPrograms_eq_take (by omega)
  refine ⟨?_, ?_, Opcode.label_injective⟩
  · rw [first]
    exact {
      length := by
        rw [List.length_take, length_ranking]
        omega
      counted := fun row listed => mem_ranking.mp (List.mem_of_mem_take listed)
      ordered := scene.pairwise_ranking.sublist (List.take_sublist _ _)
      labels := scene.nodup_ranking.sublist ((List.take_sublist _ _).map _)
      rest := by
        intro opcodes carried absent row listed
        have parted := scene.pairwise_ranking
        have somewhere : scene.standing opcodes ∈ scene.ranking :=
          mem_ranking.mpr ⟨opcodes, carried, rfl⟩
        rw [← List.take_append_drop number.toNat scene.ranking] at parted somewhere
        have later := (List.mem_append.mp somewhere).resolve_left absent
        exact (List.pairwise_append.mp parted).2.2 row listed _ later
      total := by
        intro all
        rw [List.take_of_length_le, sum_ranking]
        rw [length_ranking]
        omega }
  · intro sightings same
    have carried : ({ scene with sightings } : Scene).carried.Perm scene.carried :=
      same.map Sighting.opcodes
    rw [topPrograms, topPrograms, ranking_eq_of_perm carried]

/-- An example: three programs, two of which are carried by as many. -/
def throng : Scene where
  step := 0
  width := 1
  height := 1
  food := ∅
  walls := ∅
  sightings := [[.move], [], [.doubleMove], [.move], [.doubleMove]].map fun opcodes =>
    { id := 0, cell := ⟨0, 0⟩, heading := .up, energy := 1, opcodes, pointer := 0 }

theorem topPrograms_throng :
    (1 : Int) ≤ 2 ∧ throng.topPrograms 2 = [⟨"DOUBLEMOVE", 2⟩, ⟨"MOVE", 2⟩] ∧
      throng.Ranks 2 (throng.topPrograms 2) ∧
      (throng.standing []).label = "" ∧ throng.standing [] ∉ throng.topPrograms 2 ∧
      ({ throng with sightings := throng.sightings.reverse } : Scene).topPrograms 2 =
        throng.topPrograms 2 := by
  obtain ⟨ranks, orderless, -⟩ := throng.topPrograms_exact (by decide : (1 : Int) ≤ 2)
  have ranking : throng.ranking = [⟨"DOUBLEMOVE", 2⟩, ⟨"MOVE", 2⟩, ⟨"", 1⟩] :=
    ranking_eq (by decide +kernel) (by decide +kernel)
  have rows : throng.topPrograms 2 = [⟨"DOUBLEMOVE", 2⟩, ⟨"MOVE", 2⟩] := by
    rw [topPrograms, ranking]
    rfl
  refine ⟨by decide, rows, ranks, by decide, ?_, orderless _ (List.reverse_perm _)⟩
  rw [rows]
  decide +kernel

end Scene

end Forage
