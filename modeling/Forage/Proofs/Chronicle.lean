import Forage.Proofs.Numbers
import Forage.Proofs.Logs

/-!
# Chronicles

A chronicle tells of a world what numbers have come up in it since it was last made anew,
which of them have gone, and how many deaths its ticks have reported. Whatever is done to
the world, a number is given out once only, to one forager, and whoever has gone does not
come back. So the log of the foragers of a run has its rows in the order of their steps and
numbers, and never two of one forager at one step.
-/

namespace Forage

variable {G : Type}

/-- A world with what has come to pass in it since it was last made anew. -/
structure Chronicle (G : Type) where
  world : World G
  /-- The numbers that have come up, in the order in which they did. -/
  issued : List Int
  /-- The numbers that are no longer those of the living. -/
  fallen : List Int
  /-- The deaths that the ticks have reported. -/
  deaths : Nat

namespace Chronicle

def begin (world : World G) : Chronicle G :=
  ⟨world, world.ids, [], 0⟩

/-- The chronicle of a world that has become another one, with so many deaths reported. -/
def onward (chronicle : Chronicle G) (after : World G) (deaths : Nat) : Chronicle G where
  world := after
  issued := chronicle.issued ++ after.ids.filter fun id => id ∉ chronicle.world.ids
  fallen := chronicle.fallen ++ chronicle.world.ids.filter fun id => id ∉ after.ids
  deaths := chronicle.deaths + deaths

/-- The chronicle after a deed; it begins anew where the world does. -/
def perform [SeededSource G] (chronicle : Chronicle G) (deed : Deed) : Chronicle G :=
  match deed with
  | .reset _ => begin (chronicle.world.perform deed)
  | _ => chronicle.onward (chronicle.world.perform deed) (chronicle.world.reported deed)

/-- The chronicles of worlds that deeds lead to, beginning with an empty or a stocked one. -/
inductive Written [SeededSource G] : Chronicle G → Prop where
  | empty {config} (valid : config.Valid) (source : G) : Written (begin (World.empty config source))
  | create {config} (valid : config.Valid) (source : G) {world} :
      World.create config source = .ok world → Written (begin world)
  | perform {chronicle} (deed : Deed) : Written chronicle → Written (chronicle.perform deed)

/-- Numbers are given out in a row, each to one forager, which lives or has died. -/
structure Coherent (chronicle : Chronicle G) : Prop where
  ascending : chronicle.world.ids.Pairwise (· < ·)
  below : ∀ id ∈ chronicle.world.ids, id < chronicle.world.nextId
  issued : chronicle.issued = (List.range chronicle.world.nextId).map Int.ofNat
  fates : (chronicle.world.ids ++ chronicle.fallen).Perm chronicle.issued
  population : chronicle.world.population + chronicle.deaths = chronicle.world.nextId

namespace Coherent

variable {chronicle : Chronicle G}

theorem nodup_issued (coherent : chronicle.Coherent) : chronicle.issued.Nodup := by
  rw [coherent.issued]
  exact List.nodup_range.map fun _ _ => Int.ofNat.inj

theorem gone (coherent : chronicle.Coherent) : ∀ id ∈ chronicle.fallen, id ∉ chronicle.world.ids := by
  have nodup := coherent.fates.nodup_iff.mpr coherent.nodup_issued
  intro id fallen living
  exact (List.nodup_append.mp nodup).2.2 id living id fallen rfl

theorem of_begin {world : World G} (enrolled : world.Enrolled) (unbroken : world.Unbroken) :
    (begin world).Coherent where
  ascending := enrolled.ascending_ids
  below := enrolled.fresh_ids
  issued := unbroken.ids_eq enrolled
  fates := by simp [begin]
  population := unbroken.population_eq

end Coherent

end Chronicle

namespace World.Onward

variable {world after : World G} {deaths births : Nat} {kept : List Int}

theorem notMem_ids (enrolled : world.Enrolled) : ∀ id ∈ world.nextIds births, id ∉ world.ids := by
  intro id next living
  obtain ⟨number, within, rfl⟩ := List.mem_map.mp next
  have below := enrolled.fresh_ids _ living
  have least := (List.mem_range'_1.mp within).1
  exact Nat.not_lt.mpr least (Int.ofNat_lt.mp below)

theorem newcomers (enrolled : world.Enrolled) (onward : Onward world after deaths births kept) :
    (after.ids.filter fun id => id ∉ world.ids) = world.nextIds births := by
  have old : (kept.filter fun id => id ∉ world.ids) = [] := by
    rw [List.filter_eq_nil_iff]
    intro id stays
    simpa using onward.sublist.subset stays
  have new : (world.nextIds births).filter (fun id => id ∉ world.ids) = world.nextIds births := by
    rw [List.filter_eq_self]
    intro id next
    simpa using notMem_ids enrolled id next
  rw [onward.ids, List.filter_append, old, new, List.nil_append]

theorem kept_append_gone (enrolled : world.Enrolled) (onward : Onward world after deaths births kept) :
    (kept ++ world.ids.filter fun id => id ∉ after.ids).Perm world.ids := by
  have nodup : world.ids.Nodup := enrolled.ascending_ids.imp fun less => Int.ne_of_lt less
  have apart : (world.ids.filter fun id => id ∉ after.ids) = world.ids.filter fun id => id ∉ kept := by
    apply List.filter_congr
    intro id living
    have old : id ∉ world.nextIds births := fun next => notMem_ids enrolled id next living
    simp [onward.ids, old]
  have stay : kept.Perm (world.ids.filter fun id => id ∈ kept) := by
    apply (List.perm_ext_iff_of_nodup (onward.sublist.nodup nodup) (nodup.filter _)).mpr
    intro id
    simpa using fun stays => onward.sublist.subset stays
  rw [apart]
  refine (stay.append_right _).trans ?_
  simpa using List.filter_append_perm (fun id => decide (id ∈ kept)) world.ids

end World.Onward

namespace Chronicle

variable {chronicle : Chronicle G}

theorem Coherent.onward (coherent : chronicle.Coherent) {after : World G} {deaths births : Nat}
    {kept : List Int} (enrolled : chronicle.world.Enrolled) (afterEnrolled : after.Enrolled)
    (onward : World.Onward chronicle.world after deaths births kept) :
    (chronicle.onward after deaths).Coherent := by
  have newcomers := onward.newcomers enrolled
  constructor
  · exact afterEnrolled.ascending_ids
  · exact afterEnrolled.fresh_ids
  · simp only [Chronicle.onward, newcomers, coherent.issued, onward.nextId, World.nextIds,
      ← List.map_append]
    have split := @List.range'_append_1 0 chronicle.world.nextId births
    rw [Nat.zero_add] at split
    rw [List.range_eq_range', List.range_eq_range', split]
  · simp only [Chronicle.onward, newcomers]
    apply List.perm_iff_count.mpr
    intro id
    have stayed := (onward.kept_append_gone enrolled).count_eq id
    have before := coherent.fates.count_eq id
    rw [onward.ids] at stayed ⊢
    simp only [List.count_append] at stayed before ⊢
    omega
  · have length := afterEnrolled.length_ids
    rw [onward.ids, List.length_append, World.nextIds, List.length_map, List.length_range'] at length
    have before := coherent.population
    have gone := onward.gone
    simp only [Chronicle.onward, onward.nextId]
    omega

section Written

variable [SeededSource G]

theorem world_perform (chronicle : Chronicle G) (deed : Deed) :
    (chronicle.perform deed).world = chronicle.world.perform deed := by
  cases deed <;> rfl

theorem Written.reachable (written : chronicle.Written) : chronicle.world.Reachable := by
  induction written with
  | empty valid source => exact .empty valid source
  | create valid source created => exact .create valid source created
  | perform deed _ inductionHypothesis =>
      rw [world_perform]
      exact inductionHypothesis.perform deed

theorem Coherent.perform_onward (coherent : chronicle.Coherent) (sound : chronicle.world.Sound)
    (deed : Deed) (stays : ∀ seed, deed ≠ .reset seed) :
    (chronicle.onward (chronicle.world.perform deed) (chronicle.world.reported deed)).Coherent := by
  obtain ⟨births, kept, onward⟩ := sound.exists_onward deed stays
  exact coherent.onward sound.enrolled (sound.perform deed).enrolled onward

theorem Coherent.perform (coherent : chronicle.Coherent) (sound : chronicle.world.Sound)
    (deed : Deed) : (chronicle.perform deed).Coherent := by
  cases deed with
  | reset seed =>
      exact .of_begin (sound.perform (.reset seed)).enrolled (World.unbroken_stock sound.valid _)
  | _ => exact coherent.perform_onward sound _ (by simp)

theorem Written.coherent (written : chronicle.Written) : chronicle.Coherent := by
  induction written with
  | empty valid source => exact .of_begin (.empty _ source) rfl
  | @create config valid source world created =>
      have unbroken := World.unbroken_stock valid source
      have enrolled := (World.Sound.create valid created).enrolled
      unfold World.create at created
      split at created
      · next stocked =>
        obtain rfl := Except.ok.inj created
        rw [stocked] at unbroken
        exact .of_begin enrolled unbroken
      · simp at created
  | perform deed written inductionHypothesis =>
      exact inductionHypothesis.perform written.reachable.sound deed

end Written

end Chronicle

section Rows

/-- A row of the log of the foragers comes before another one, by its step and then by its number. -/
def ForagerRow.Precedes (row other : ForagerRow) : Prop :=
  row.step < other.step ∨ row.step = other.step ∧ row.sighting.id < other.sighting.id

variable {runId : String} {interval : Amount} {moments : List Moment}

/-- Rows of scenes that show everyone in the order of numbers, one later than the other. -/
theorem Moment.pairwise_sighted
    (later : moments.Pairwise fun moment other => moment.scene.step < other.scene.step)
    (ascending : ∀ moment ∈ moments, (moment.scene.sightings.map Sighting.id).Pairwise (· < ·)) :
    (Moment.sighted runId interval moments).Pairwise ForagerRow.Precedes := by
  rw [Moment.sighted, List.pairwise_flatMap]
  constructor
  · intro moment listed
    rw [List.pairwise_map]
    have here := ascending moment (List.mem_of_mem_filter listed)
    rw [List.pairwise_map] at here
    exact here.imp fun less => .inr ⟨rfl, less⟩
  · refine (later.filter _).imp ?_
    intro moment other before row listed otherRow otherListed
    obtain ⟨sighting, -, rfl⟩ := List.mem_map.mp listed
    obtain ⟨otherSighting, -, rfl⟩ := List.mem_map.mp otherListed
    exact .inl before

namespace World.Course

variable [SeededSource G] {start world : World G}

theorem pairwise_step (course : start.Course moments world) :
    moments.Pairwise fun moment other => moment.scene.step < other.scene.step := by
  rw [List.pairwise_iff_getElem]
  intro place otherPlace within otherWithin less
  rw [course.step_scene (List.getElem?_eq_getElem within),
    course.step_scene (List.getElem?_eq_getElem otherWithin)]
  exact Int.ofNat_lt.mpr (by omega)

theorem reachable (course : start.Course moments world) (reachable : start.Reachable) :
    world.Reachable := by
  induction course with
  | nil => exact reachable
  | snoc _ ticked inductionHypothesis =>
      have next := inductionHypothesis.perform .tick
      rw [World.perform, ticked] at next
      exact next

theorem ascending (course : start.Course moments world) (reachable : start.Reachable) :
    ∀ moment ∈ moments, (moment.scene.sightings.map Sighting.id).Pairwise (· < ·) := by
  induction course with
  | nil => simp
  | snoc earlier ticked inductionHypothesis =>
      rw [List.forall_mem_append, List.forall_mem_singleton]
      refine ⟨inductionHypothesis, ?_⟩
      have sound := ((earlier.snoc ticked).reachable reachable).sound
      have ids := sound.enrolled.ascending_ids
      rw [World.ids] at ids
      simpa [Moment.after, World.scene, Sighting.ofForager, Function.comp_def] using ids

end World.Course

end Rows

/--
Whatever has been done to a world since it was last made anew, its living are listed in the
order of their numbers, which are below the next one. All numbers below that have come up in a
row; each is that of one of the living or of one who has died, and of no two; and as many are
missing from the living as the ticks have reported deaths. A run of such a world leaves no log
of foragers, unless it was there before, but one whose rows ascend by step and number.
-/
theorem Chronicle.Written.identity [SeededSource G] {chronicle : Chronicle G}
    (written : chronicle.Written) :
    chronicle.Coherent ∧ (∀ id ∈ chronicle.fallen, id ∉ chronicle.world.ids) ∧
      ∀ {plan : Plan} {disk rest : Disk} {summary : Summary} {after : World G},
        Run.perform plan chronicle.world disk = .ok (summary, after) rest →
        ∀ (place : Place) (log : Log), rest.files[place]? = some (.log log) →
          log.columns = ForagerRow.columns →
          disk.files[place]? = some (.log log) ∨
            ∃ rows : List ForagerRow, log.rows = rows.map ForagerRow.toRow ∧
              rows.Pairwise ForagerRow.Precedes := by
  refine ⟨written.coherent, written.coherent.gone, ?_⟩
  intro plan disk rest summary after done place log found columns
  obtain ⟨outcome⟩ := Run.exists_outcome done
  rcases outcome.log_cases found with before | ticks | ⟨-, first⟩
  · exact .inl before
  · rw [columns] at ticks
    exact absurd ticks (by decide)
  · right
    have course := outcome.underway.course
    cases positive : plan.interval.isPositive with
    | false =>
        rw [Moment.foragerRows_of_not_positive positive, List.prefix_nil] at first
        exact ⟨[], first, .nil⟩
    | true =>
        rw [Moment.foragerRows_of_positive positive] at first
        obtain ⟨rows, earlier, same⟩ := List.prefix_map_iff.mp first
        refine ⟨rows, same, List.Pairwise.sublist earlier.sublist ?_⟩
        exact Moment.pairwise_sighted course.pairwise_step (course.ascending written.reachable)

namespace Chronicle

open Run

/-- An example: of two foragers one starves in the first tick, and a third one comes after it. -/
def lineage : Chronicle Twister :=
  [Deed.update [(Parameter.regrowthRate.name, .whole 0)],
    .place ⟨0, 0⟩ .up [.sleep] 0 (some 1),
    .place ⟨50, 0⟩ .down [.sleep] 0 (some 10),
    .tick,
    .place ⟨0, 0⟩ .left [.sleep] 0 (some 10)].foldl Chronicle.perform
      (begin (World.empty Config.default (SeededSource.ofSeed 0)))

theorem Written.foldl [SeededSource G] {chronicle : Chronicle G} (written : chronicle.Written)
    (deeds : List Deed) : (deeds.foldl Chronicle.perform chronicle).Written := by
  induction deeds generalizing chronicle with
  | nil => exact written
  | cons deed deeds inductionHypothesis => exact inductionHypothesis (written.perform deed)

theorem written_lineage : lineage.Written :=
  (Written.empty Config.valid_default _).foldl _

theorem identity_lineage :
    lineage.Written ∧ lineage.Coherent ∧ lineage.fallen = [0] ∧ lineage.world.ids = [1, 2] ∧
      ∃ summary after rest log,
        Run.perform outing lineage.world (Disk.bare []) = .ok (summary, after) rest ∧
        rest.files[["data", "logs", "entity_log.parquet"]]? = some (.log log) ∧
        log.columns = ForagerRow.columns ∧ log.rows ≠ [] ∧
        ∃ rows : List ForagerRow, log.rows = rows.map ForagerRow.toRow ∧
          rows.Pairwise ForagerRow.Precedes := by
  have passed : passes outing lineage.world (Disk.bare []) ["data", "runs", "seed0_w100_h100.json"]
      (fun third =>
        (third.logAt? ["data", "logs", "entity_log.parquet"]).any fun log =>
          decide (log.columns = ForagerRow.columns) && !log.rows.isEmpty) = true := by decide +kernel
  obtain ⟨summary, after, third, rest, done, noted, checked⟩ := exists_perform_of_passes passed
  obtain ⟨log, found, checked⟩ := (Option.any_eq_true _ _).mp checked
  obtain ⟨coherent, -, ascends⟩ := written_lineage.identity
  obtain ⟨columns, some⟩ := (Bool.and_eq_true _ _).mp checked
  rw [decide_eq_true_eq] at columns
  have rows : log.rows ≠ [] := by simpa using some
  have here : rest.files[["data", "logs", "entity_log.parquet"]]? = .some (.log log) := by
    rw [noted.files _ (by decide)]
    exact Disk.files_of_logAt? found
  refine ⟨written_lineage, coherent, by decide +kernel, by decide +kernel, summary, after, rest, log,
    done, here, columns, rows, ?_⟩
  rcases ascends done _ log here columns with before | ordered
  · rw [show (Disk.bare []).files = ∅ from rfl] at before
    simp at before
  · exact ordered

end Chronicle

end Forage
