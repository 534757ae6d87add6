import Forage.Proofs.Duration
import Mathlib.Order.Bounds.Image

/-!
# When a run stops

A run that is to stop when nobody is left stops after the first of its ticks that leaves nobody,
and goes through all of them if none does; a run that is not to stop goes through all of them
anyway. Whether anybody is left is looked at only after a tick, so that even a world without
anyone ticks once. Where nobody is left nobody will be, and what a run says in the end is what
there is to see after the last of its ticks.
-/

namespace Forage

/-- In the tick nobody was born and nobody died, and nobody is there. -/
structure Report.Vacant (report : Report) : Prop where
  population : report.population = 0
  births : report.births = 0
  deaths : report.deaths = 0

namespace World

variable {G : Type} [WordSource G] {start world middle after : World G} {report : Report}
  {count ticked : Nat} {stop : Bool} {past moments : List Moment}

/-- Where nobody is, a tick comes to its end, and nobody is there afterwards. -/
theorem exists_tick_of_nobody (nobody : world.population = 0) :
    ∃ report after, world.tick = .ok report after ∧ report.Vacant ∧ after.population = 0 := by
  have none : world.live = #[] := Array.eq_empty_of_size_eq_zero nobody
  obtain ⟨ground, source, countdown, opened⟩ := opened_frame world
  have empty : world.opened.population = 0 := by
    rw [opened]
    exact nobody
  have marched : stepAll world.live.toList world.opened = .ok () world.opened := by
    rw [none]
    rfl
  have done := tick_of_stepAll marched
  have balance := Balance.of_tick done
  have births : world.opened.bury.parents.length = 0 := by
    have some : world.opened.bury.parents.length ≤ world.opened.bury.population :=
      (List.length_filter_le _ _).trans_eq Array.length_toList
    have fewer := population_bury_le world.opened
    omega
  have sum := balance.population
  have same := balance.reported.2.1
  rw [nobody, show (world.opened.settle world.live.toList.length).1.births = 0 from births] at sum
  exact ⟨_, _, done, ⟨by omega, births, by omega⟩, by omega⟩

theorem vacant_of_tick (nobody : world.population = 0) (done : world.tick = .ok report after) :
    report.Vacant ∧ after.population = 0 := by
  obtain ⟨_, _, again, vacant⟩ := exists_tick_of_nobody nobody
  obtain ⟨rfl, rfl⟩ := EStateM.Result.ok.inj (done.symm.trans again)
  exact vacant

theorem ticks_of_nobody (nobody : world.population = 0) (count : Nat) :
    ∃ reports after, ticks count world = .ok reports after ∧ (∀ report ∈ reports, report.Vacant) ∧
      after.population = 0 := by
  induction count generalizing world with
  | zero => exact ⟨[], world, rfl, by simp, nobody⟩
  | succ count inductionHypothesis =>
      obtain ⟨report, middle, done, vacant, empty⟩ := exists_tick_of_nobody nobody
      obtain ⟨reports, after, others, vacancies, left⟩ := inductionHypothesis empty
      refine ⟨report :: reports, after, ?_, List.forall_mem_cons.mpr ⟨vacant, vacancies⟩, left⟩
      simp only [ticks, done, others]

/-- The world can tick so often, and nobody is left then. -/
def DesertedAt (world : World G) (count : Nat) : Prop :=
  ∃ reports after, ticks count world = .ok reports after ∧ after.population = 0

/-- The ticks, of at most so many, after which nobody is left. -/
def desertions (world : World G) (count : Nat) : Set Nat :=
  {place | place ∈ Set.Icc 1 count ∧ world.DesertedAt place}

theorem desertedAt_succ_iff (done : world.tick = .ok report middle) :
    world.DesertedAt (count + 1) ↔ middle.DesertedAt count := by
  unfold DesertedAt
  simp only [ticks, done]
  cases ticks count middle with
  | ok reports after => simp
  | error fault after => simp

theorem desertedAt_zero_iff : world.DesertedAt 0 ↔ world.population = 0 := by
  unfold DesertedAt
  simp [ticks]

theorem desertions_zero (world : World G) : world.desertions 0 = ∅ := by
  ext place
  simp [desertions]

/-- If anybody is left after the first tick, the others count one less from there on. -/
theorem desertions_succ (done : world.tick = .ok report middle) (left : middle.population ≠ 0) :
    world.desertions (count + 1) = Nat.succ '' middle.desertions count := by
  ext place
  constructor
  · rintro ⟨⟨first, last⟩, deserted⟩
    obtain ⟨earlier, rfl⟩ : ∃ earlier, place = earlier + 1 := ⟨place - 1, by omega⟩
    have onward := (desertedAt_succ_iff done).mp deserted
    refine ⟨earlier, ⟨⟨?_, by omega⟩, onward⟩, rfl⟩
    rcases Nat.eq_zero_or_pos earlier with rfl | later
    · exact absurd (desertedAt_zero_iff.mp onward) left
    · exact later
  · rintro ⟨earlier, ⟨⟨first, last⟩, deserted⟩, rfl⟩
    exact ⟨⟨by omega, by omega⟩, (desertedAt_succ_iff done).mpr deserted⟩

/-- So often is a world to tick: until nobody is left if it is to stop then, else to the end. -/
def Due (stop : Bool) (count : Nat) (world : World G) (ticked : Nat) : Prop :=
  if stop then
    IsLeast (world.desertions count) ticked ∨ world.desertions count = ∅ ∧ ticked = count
  else ticked = count

theorem due_zero (stop : Bool) (world : World G) : world.Due stop 0 0 := by
  cases stop with
  | false => rfl
  | true => exact .inr ⟨desertions_zero world, rfl⟩

theorem Due.succ (done : world.tick = .ok report middle)
    (further : (middle.population == 0 && stop) = false) (due : middle.Due stop count ticked) :
    world.Due stop (count + 1) (ticked + 1) := by
  cases stop with
  | false => exact congrArg Nat.succ due
  | true =>
      have left : middle.population ≠ 0 := by simpa using further
      simp only [Due, if_true, desertions_succ done left] at due ⊢
      rcases due with least | ⟨none, all⟩
      · have monotone : Monotone Nat.succ := fun _ _ => Nat.succ_le_succ
        exact .inl (monotone.map_isLeast least)
      · exact .inr ⟨by rw [none, Set.image_empty], congrArg Nat.succ all⟩

theorem due_one (done : world.tick = .ok report middle)
    (stopped : (middle.population == 0 && stop) = true) : world.Due stop (count + 1) 1 := by
  obtain ⟨nobody, rfl⟩ : middle.population = 0 ∧ stop = true := by simpa using stopped
  refine .inl ⟨⟨⟨le_rfl, by omega⟩, ?_⟩, fun place among => among.1.1⟩
  exact (desertedAt_succ_iff done).mpr (desertedAt_zero_iff.mpr nobody)

theorem Sound.exists_due (sound : world.Sound) (stop : Bool) (count : Nat) :
    ∃ ticked reports after, world.Due stop count ticked ∧
      ticks ticked world = .ok reports after := by
  induction count generalizing world with
  | zero => exact ⟨0, [], world, due_zero stop world, rfl⟩
  | succ count inductionHypothesis =>
      obtain ⟨-, report, middle, -, -, done, -, middleSound⟩ := sound.tick
      cases stopped : middle.population == 0 && stop with
      | true =>
          refine ⟨1, [report], middle, due_one done stopped, ?_⟩
          simp only [ticks, done]
      | false =>
          obtain ⟨ticked, reports, after, due, others⟩ := inductionHypothesis middleSound
          refine ⟨ticked + 1, report :: reports, after, due.succ done stopped, ?_⟩
          simp only [ticks, done, others]

theorem exists_due_of_spell (known : world.Known)
    (spent : spell stop count past world = some (moments, after)) :
    ∃ ticked, moments.length = past.length + ticked ∧ world.Due stop count ticked := by
  induction count generalizing past world with
  | zero =>
      obtain ⟨rfl, -⟩ := Prod.mk.inj (Option.some.inj spent)
      exact ⟨0, rfl, due_zero stop world⟩
  | succ count inductionHypothesis =>
      unfold spell at spent
      cases done : world.tick with
      | error fault middle => simp [done] at spent
      | ok report middle =>
          have recorded := (Balance.of_tick done).known known
          -- The spell looks at the scene of the world; as everyone is on record, all are seen there.
          simp only [done, recorded.population_scene] at spent
          split at spent
          next stopped =>
            obtain ⟨rfl, -⟩ := Prod.mk.inj (Option.some.inj spent)
            exact ⟨1, List.length_append, due_one done stopped⟩
          next further =>
            obtain ⟨ticked, length, due⟩ := inductionHypothesis recorded spent
            rw [List.length_append, List.length_singleton] at length
            exact ⟨ticked + 1, by omega, due.succ done (Bool.not_eq_true _ ▸ further)⟩

namespace Course

theorem population_eq_zero (course : start.Course moments world) (known : start.Known)
    {moment : Moment} (listed : moment ∈ moments) (nobody : moment.scene.population = 0) :
    world.population = 0 := by
  induction course with
  | nil => simp at listed
  | snoc earlier done inductionHypothesis =>
      rcases List.mem_append.mp listed with before | last
      · exact (vacant_of_tick (inductionHypothesis before) done).2
      · obtain rfl := List.mem_singleton.mp last
        rw [← ((earlier.snoc done).known known).population_scene]
        exact nobody

theorem pairwise_vacant (course : start.Course moments world) (known : start.Known) :
    moments.Pairwise fun moment later =>
      moment.scene.population = 0 → later.scene.population = 0 ∧ later.report.Vacant := by
  induction course with
  | nil => exact .nil
  | snoc earlier done inductionHypothesis =>
      rw [List.pairwise_append]
      refine ⟨inductionHypothesis, List.pairwise_singleton _ _, ?_⟩
      intro moment listed later last nobody
      obtain rfl := List.mem_singleton.mp last
      obtain ⟨vacant, empty⟩ :=
        vacant_of_tick (earlier.population_eq_zero known listed nobody) done
      rw [← ((earlier.snoc done).known known).population_scene] at empty
      exact ⟨empty, vacant⟩

end Course

/-- An example: someone who has no energy left after a tick. -/
def hermit : World Twister :=
  [Deed.update [(Parameter.regrowthRate.name, .whole 0)],
    .place ⟨0, 0⟩ .up [.sleep] 0 (some 1)].foldl perform
      (World.empty Config.default (SeededSource.ofSeed 0))

theorem reachable_hermit : hermit.Reachable :=
  (Reachable.empty Config.valid_default _).foldl _

theorem desertedAt_hermit : hermit.DesertedAt 1 := by
  have checked : (match ticks 1 hermit with
    | .ok _ after => after.population == 0
    | .error _ _ => false) = true := by decide +kernel
  unfold DesertedAt
  cases done : ticks 1 hermit with
  | ok reports after =>
      rw [done] at checked
      exact ⟨reports, after, rfl, beq_iff_eq.mp checked⟩
  | error fault after => simp [done] at checked

end World

/-- What is kept from all items to those that they are paired with is kept for pairs of them. -/
theorem pairwise_of_forall₂ {α β : Type} {relation : α → β → Prop} {first : α → α → Prop}
    {second : β → β → Prop} {items : List α} {others : List β}
    (related : List.Forall₂ relation items others) (pairwise : items.Pairwise first)
    (carried : ∀ {item later other otherLater}, relation item other → relation later otherLater →
      first item later → second other otherLater) : others.Pairwise second := by
  induction related with
  | nil => exact .nil
  | cons head tail inductionHypothesis =>
      rw [List.pairwise_cons] at pairwise ⊢
      refine ⟨?_, inductionHypothesis pairwise.2⟩
      intro other listed
      obtain ⟨place, found⟩ := List.mem_iff_getElem?.mp listed
      obtain ⟨later, here, paired⟩ := exists_getElem?_of_forall₂ tail found
      exact carried head paired (pairwise.1 later (List.mem_of_getElem? here))

namespace TickRow

variable {runId : String} {moment : Moment} {row : TickRow} {moments : List Moment}
  {rows : List TickRow}

/-- A row on a tick in which nobody was born and nobody died, and after which nobody is there. -/
structure Vacant (row : TickRow) : Prop where
  population : row.population = 0
  births : row.births = 0
  deaths : row.deaths = 0

theorem Tells.population_eq_zero_iff (tells : Tells runId moment row) :
    row.population = 0 ↔ moment.scene.population = 0 := by
  rw [← tells.scene.1]
  exact Int.natCast_eq_zero

theorem Tells.vacant (tells : Tells runId moment row) (nobody : moment.scene.population = 0)
    (vacant : moment.report.Vacant) : row.Vacant where
  population := tells.population_eq_zero_iff.mpr nobody
  births := by
    rw [← tells.births, vacant.births]
    rfl
  deaths := by
    rw [← tells.deaths, vacant.deaths]
    rfl

theorem Tells.step (tells : Tells runId moment row) : row.step = moment.scene.step := by
  obtain ⟨meanEnergy, -, rfl⟩ := tells.eq
  rfl

theorem steps_of_course {G : Type} [WordSource G] {start world : World G}
    (course : start.Course moments world) (tells : List.Forall₂ (Tells runId) moments rows) :
    rows.map step = (List.range rows.length).map fun place =>
      ((start.step + place + 1 : Nat) : Int) := by
  apply List.ext_getElem?
  intro place
  rw [List.getElem?_map, List.getElem?_map]
  cases found : rows[place]? with
  | none => rw [List.getElem?_eq_none (by simpa using found)]; rfl
  | some row =>
      obtain ⟨moment, here, told⟩ := exists_getElem?_of_forall₂ tells found
      have within : place < rows.length := (List.getElem?_eq_some_iff.mp found).1
      rw [List.getElem?_range within, Option.map_some, Option.map_some, told.step,
        course.step_scene here]

end TickRow

namespace Run

variable {G : Type} {plan : Plan} {runId : String} {run next last : Run G} {world after : World G}
  {summary : Summary} {disk rest : Disk}

/-- A run is stopped if it is to stop when nobody is to be seen, and nobody is. -/
def Minds (plan : Plan) (run : Run G) : Prop :=
  run.stopped = (run.world.scene.population == 0 && plan.stopOnExtinction)

/-- A summary says what is to be seen of the world at the end, and the same where it is written. -/
structure Closing (plan : Plan) (after : World G) (summary : Summary) : Prop where
  extinct : summary.extinct = true ↔ after.population = 0
  terminationReason : summary.terminationReason =
    if plan.stopOnExtinction = true ∧ after.population = 0 then .text "extinct" else .null
  finalPopulation : summary.finalPopulation = after.scene.population
  finalFood : summary.finalFood = after.scene.foodCount
  topPrograms : ∃ number, plan.topPrograms.count = .ok number ∧
    summary.topPrograms = after.scene.topPrograms number
  told : ∃ fields metadata, summary.toDatum = .record fields ∧
    Datum.lookup "extinct" fields = some (.truth summary.extinct) ∧
    Datum.lookup "final_population" fields = some (.whole summary.finalPopulation) ∧
    Datum.lookup "final_food" fields = some (.whole summary.finalFood) ∧
    Datum.lookup "top_programs" fields = some (.list (summary.topPrograms.map Summary.standing)) ∧
    Datum.lookup "metadata" fields = some (.record metadata) ∧
    Datum.lookup "termination_reason" metadata = some summary.terminationReason

theorem Closing.of_summary (known : run.world.Known) (scene : run.scene = run.world.scene)
    (minds : Minds plan run) (made : run.summary plan runId = .ok summary) :
    Closing plan run.world summary := by
  obtain ⟨number, counted, made⟩ := bind_eq_ok_iff.mp made
  obtain rfl := pure_eq_ok_iff.mp made
  rw [Minds, known.population_scene] at minds
  constructor
  · simp [Summary.extinct, scene, known.population_scene]
  · rw [Summary.terminationReason, minds]
    simp [and_comm]
  · rw [scene]
  · rw [scene]
  · exact ⟨number, counted, by rw [scene]⟩
  · exact ⟨_, _, rfl, rfl, rfl, rfl, rfl, rfl, rfl⟩

variable [WordSource G]

theorem minds_of_advance (done : run.advance plan runId = .ok next) : Minds plan next := by
  obtain ⟨report, row, recorder, middle, advance⟩ := exists_advance done
  exact advance.stopped

theorem minds_of_advanceBy {count : Nat} (done : run.advanceBy plan runId (count + 1) = .ok last) :
    Minds plan last := by
  unfold advanceBy at done
  cases advanced : run.advance plan runId with
  | error failure => simp [advanced] at done
  | ok next =>
      have minds := minds_of_advance advanced
      simp only [advanced] at done
      split at done
      · obtain rfl := Except.ok.inj done
        exact minds
      · exact advanceBy_keeps (fun onward _ => minds_of_advance onward) done minds

/-- How often a run has let its world tick, what its rows say, and with what it has ended. -/
structure Ceased (plan : Plan) (world : World G) (disk : Disk) (summary : Summary)
    (after : World G) (rest : Disk) (count : Nat) (rows : List TickRow) (foragers : List Row) :
    Prop where
  counted : plan.steps.count = .ok (count : Int)
  due : world.Due plan.stopOnExtinction count rows.length
  ticked : ∃ reports, World.ticks rows.length world = .ok reports after
  writes : Writes plan world disk summary after rest (rows.map TickRow.toRow) foragers
  keeps : Keeps plan rest (rows.map TickRow.toRow) foragers
  steps : rows.map TickRow.step =
    (List.range rows.length).map fun place => ((world.step + place + 1 : Nat) : Int)
  absorbed : rows.Pairwise fun row later => row.population = 0 → later.Vacant
  closing : Closing plan after summary
  payload : ∃ place bytes,
    rest.locate (Plan.summaryPath plan.outDir world.config.runId) = .ok place ∧
      Text.encode Text.noByte
        (Text.points (Json.write .indented 0 summary.toDatum).toList) = .ok bytes ∧
      rest.files[place]? = some (.bytes bytes.toArray)

namespace Ended

variable {count : Int} {moments : List Moment} {rows : List TickRow}

theorem due (ended : Ended plan world disk summary after rest count moments rows)
    (known : world.Known) : world.Due plan.stopOnExtinction count.toNat rows.length := by
  obtain ⟨ticked, length, due⟩ := World.exists_due_of_spell known ended.spent
  rw [List.length_nil, Nat.zero_add] at length
  rw [ended.length_rows, length]
  exact due

theorem absorbed (ended : Ended plan world disk summary after rest count moments rows)
    (known : world.Known) : rows.Pairwise fun row later => row.population = 0 → later.Vacant := by
  refine pairwise_of_forall₂ ended.tells (ended.course.pairwise_vacant known) ?_
  intro moment later row laterRow tells laterTells absorbs nobody
  obtain ⟨empty, vacant⟩ := absorbs (tells.population_eq_zero_iff.mp nobody)
  exact laterTells.vacant empty vacant

theorem positive (ended : Ended plan world disk summary after rest count moments rows)
    (valid : plan.Valid) : 1 ≤ count := by
  have least := valid.1
  rw [Amount.isBelow_eq ended.counted, decide_eq_false_iff_not] at least
  omega

end Ended

theorem closing_of_perform (valid : plan.Valid) (known : world.Known)
    (done : Run.perform plan world disk = .ok (summary, after) rest) :
    Closing plan after summary := by
  obtain ⟨count, moments, rows, ended⟩ := exists_ended done
  obtain ⟨made, ready, opened, run, -, -, -, advanced, finished, rfl⟩ := perform_eq_ok_iff.mp done
  obtain ⟨steps, counted, onward⟩ := bind_eq_ok_iff.mp advanced
  obtain ⟨_, _, -, underway⟩ := (Underway.of_start plan world opened).exists_spell onward
  obtain ⟨tickLog, foragerLog, first, second, third, finish⟩ := finish_eq_ok_iff.mp finished
  obtain rfl := Except.ok.inj ((blame_eq_ok_iff.mp counted).symm.trans ended.counted)
  obtain ⟨fewer, positive⟩ : ∃ fewer, steps.toNat = fewer + 1 :=
    ⟨steps.toNat - 1, by have := ended.positive valid; omega⟩
  rw [positive] at onward
  exact .of_summary (ended.course.known known) underway.scene (minds_of_advanceBy onward)
    finish.made

theorem payload_of_perform (done : Run.perform plan world disk = .ok (summary, after) rest) :
    ∃ place bytes, rest.locate (Plan.summaryPath plan.outDir world.config.runId) = .ok place ∧
      Text.encode Text.noByte
        (Text.points (Json.write .indented 0 summary.toDatum).toList) = .ok bytes ∧
      rest.files[place]? = some (.bytes bytes.toArray) := by
  obtain ⟨outcome⟩ := exists_outcome done
  obtain ⟨place, bytes, located, encoded, written, noted⟩ := outcome.exists_summary
  exact ⟨place, bytes, noted.grown.locate located, encoded, written⟩

theorem exists_ceased (valid : plan.Valid) (known : world.Known)
    (done : Run.perform plan world disk = .ok (summary, after) rest) :
    ∃ count rows foragers, Ceased plan world disk summary after rest count rows foragers := by
  obtain ⟨count, moments, rows, ended⟩ := exists_ended done
  have positive := ended.positive valid
  have whole : (count.toNat : Int) = count := Int.toNat_of_nonneg (by omega)
  exact ⟨count.toNat, rows, _, {
    counted := whole ▸ ended.counted
    due := ended.due known
    ticked := ended.ticked
    writes := ended.writes
    keeps := ended.keeps
    steps := TickRow.steps_of_course ended.course ended.tells
    absorbed := ended.absorbed known
    closing := closing_of_perform valid known done
    payload := payload_of_perform done }⟩

/--
A sound world can tick as often as it is due to. Where the living are on record, a run that comes
to its end has ticked so often: it tells of as many steps, and of what is there to see after the
last of them. Where nobody is left nobody comes any more.
-/
theorem stops_when_deserted (valid : plan.Valid) :
    (∀ {world : World G}, world.Sound → ∀ count, ∃ ticked reports left,
      world.Due plan.stopOnExtinction count ticked ∧ World.ticks ticked world = .ok reports left) ∧
    (∀ {world : World G} {disk summary after rest}, world.Known →
      Run.perform plan world disk = .ok (summary, after) rest →
      ∃ count rows foragers, Ceased plan world disk summary after rest count rows foragers) ∧
    ∀ {lone : World G}, lone.population = 0 → ∀ count, ∃ reports left,
      World.ticks count lone = .ok reports left ∧ (∀ report ∈ reports, report.Vacant) ∧
        left.population = 0 :=
  ⟨fun sound => sound.exists_due plan.stopOnExtinction,
    fun known done => exists_ceased valid known done, World.ticks_of_nobody⟩

theorem stops_when_deserted_hermit :
    outing.Valid ∧ World.hermit.Sound ∧ ∃ summary after rest rows foragers,
      Run.perform outing World.hermit (Disk.bare []) = .ok (summary, after) rest ∧
      Ceased outing World.hermit (Disk.bare []) summary after rest 2 rows foragers ∧
      rows.length = 1 ∧ summary.terminationReason = .text "extinct" := by
  have sound := World.reachable_hermit.sound
  have passed : passes outing World.hermit (Disk.bare [])
      ["data", "runs", "seed0_w100_h100.json"] (fun _ => true) = true := by decide +kernel
  obtain ⟨summary, after, -, rest, done, -, -⟩ := exists_perform_of_passes passed
  obtain ⟨count, rows, foragers, ceased⟩ :=
    (stops_when_deserted outing_valid).2.1 sound.enrolled.allKnown done
  obtain rfl : 2 = count := Int.ofNat.inj (Except.ok.inj ceased.counted)
  have first : 1 ∈ World.hermit.desertions 2 := ⟨⟨le_rfl, by decide⟩, World.desertedAt_hermit⟩
  have due : IsLeast (World.hermit.desertions 2) rows.length := by
    rcases ceased.due with least | ⟨none, -⟩
    · exact least
    · rw [none] at first
      exact absurd first (Set.notMem_empty 1)
  have once : rows.length = 1 := Nat.le_antisymm (due.2 first) due.1.1.1
  refine ⟨outing_valid, sound, summary, after, rest, rows, foragers, done, ceased, once, ?_⟩
  obtain ⟨-, deserted⟩ := due.1
  obtain ⟨reports, ticked⟩ := ceased.ticked
  obtain ⟨_, _, again, empty⟩ := deserted
  obtain ⟨rfl, rfl⟩ := EStateM.Result.ok.inj (ticked.symm.trans again)
  rw [ceased.closing.terminationReason, if_pos ⟨rfl, empty⟩]

end Run

end Forage
