import Forage.Proofs.Logs
import Mathlib.Algebra.BigOperators.Ring.Finset

/-!
# The books of a run

What happens in a run is written down four times: in the reports of the ticks, in the rows
of their log, in the tallies that go to the record files, and in the sums of the summary.
If no file is written over another, all of them agree.
-/

namespace Forage

theorem map_eq_map_of_forall₂ {α β γ : Type} {relation : α → β → Prop} {first : α → γ}
    {second : β → γ} {items : List α} {others : List β} (related : List.Forall₂ relation items others)
    (agree : ∀ {item other}, relation item other → first item = second other) :
    items.map first = others.map second := by
  induction related with
  | nil => rfl
  | cons head _ inductionHypothesis =>
      rw [List.map_cons, List.map_cons, agree head, inductionHypothesis]

theorem exists_getElem?_of_forall₂ {α β : Type} {relation : α → β → Prop} {items : List α}
    {others : List β} (related : List.Forall₂ relation items others) {place : Nat} {other : β}
    (found : others[place]? = some other) :
    ∃ item, items[place]? = some item ∧ relation item other := by
  induction related generalizing place with
  | nil => simp at found
  | @cons item _ _ _ head _ inductionHypothesis =>
      cases place with
      | zero =>
          obtain rfl := Option.some.inj found
          exact ⟨item, rfl, head⟩
      | succ place => exact inductionHypothesis found

namespace TickRow

/-- By how much the population has grown in the tick of a row. -/
def growth (row : TickRow) : Int :=
  row.births - row.deaths

/-- The tally that a row repeats. -/
def tally (row : TickRow) : Tally :=
  ⟨row.step, row.population, row.change, row.food⟩

/-- What a row says of the population, with so many other rows before it. -/
structure Balanced (beginning : Nat) (rows : List TickRow) (place : Nat) (row : TickRow) : Prop where
  population : row.population = beginning + ((rows.take (place + 1)).map growth).sum
  change : row.change = if place = 0 then row.population else row.growth

namespace Tells

variable {runId : String} {moment : Moment} {row : TickRow}

theorem births (tells : Tells runId moment row) : (moment.report.births : Int) = row.births := by
  obtain ⟨meanEnergy, -, rfl⟩ := tells.eq
  rfl

theorem deaths (tells : Tells runId moment row) : (moment.report.deaths : Int) = row.deaths := by
  obtain ⟨meanEnergy, -, rfl⟩ := tells.eq
  rfl

theorem growth (tells : Tells runId moment row) : moment.growth = row.growth := by
  rw [Moment.growth, TickRow.growth, tells.births, tells.deaths]

theorem scene (tells : Tells runId moment row) :
    moment.scene.population = row.population ∧ moment.scene.foodCount = row.food := by
  obtain ⟨meanEnergy, -, rfl⟩ := tells.eq
  exact ⟨rfl, rfl⟩

theorem change (tells : Tells runId moment row) : moment.tally.change = row.change := by
  obtain ⟨meanEnergy, -, rfl⟩ := tells.eq
  rfl

end Tells

end TickRow

/-- What a summary says are the sums of the rows, or what the last of them says. -/
structure Summary.Totals (summary : Summary) (rows : List TickRow) : Prop where
  births : summary.births = (rows.map TickRow.births).sum
  deaths : summary.deaths = (rows.map TickRow.deaths).sum
  final : ∀ row, rows.getLast? = some row →
    summary.finalPopulation = row.population ∧ summary.finalFood = row.food

/-- The records of a plan lie apart from each other, from the logs and from the summary. -/
structure Plan.Apart (plan : Plan) (runId : String) (disk : Disk) : Prop where
  records : (plan.records.map fun record => disk.locate record.1).Nodup
  logs : plan.OffLogs disk
  summary : ∀ record ∈ plan.records, ∀ place, disk.locate record.1 = .ok place →
    disk.locate (summaryPath plan.outDir runId) ≠ .ok place

theorem World.Reachable.allKnown {G : Type} [SeededSource G] {world : World G}
    (reachable : world.Reachable) : world.Known :=
  reachable.sound.enrolled.allKnown

namespace World.Course

variable {G : Type} [WordSource G] {start world : World G} {moments : List Moment} {runId : String}
  {rows : List TickRow}

theorem balanced (course : start.Course moments world) (known : start.Known)
    (tells : List.Forall₂ (TickRow.Tells runId) moments rows) {place : Nat} {row : TickRow}
    (found : rows[place]? = some row) : TickRow.Balanced start.population rows place row := by
  obtain ⟨moment, here, told⟩ := exists_getElem?_of_forall₂ tells found
  have booked := course.booked known here
  have growth : moments.map Moment.growth = rows.map TickRow.growth :=
    map_eq_map_of_forall₂ tells TickRow.Tells.growth
  constructor
  · rw [← told.scene.1, booked.population, List.map_take, growth, ← List.map_take]
  · rw [← told.change, booked.change, told.scene.1, told.growth]

theorem map_tally (course : start.Course moments world) (known : start.Known)
    (tells : List.Forall₂ (TickRow.Tells runId) moments rows) :
    moments.map Moment.tally = rows.map TickRow.tally := by
  apply List.ext_getElem?
  intro place
  rw [List.getElem?_map, List.getElem?_map]
  cases found : rows[place]? with
  | none =>
      have same := tells.length_eq
      have past : moments.length ≤ place := same ▸ List.getElem?_eq_none_iff.mp found
      rw [List.getElem?_eq_none past]
      rfl
  | some row =>
      obtain ⟨moment, here, told⟩ := exists_getElem?_of_forall₂ tells found
      obtain ⟨step, population, food⟩ := (course.booked known here).tally
      obtain ⟨meanEnergy, -, rfl⟩ := told.eq
      rw [here, Option.map_some, Option.map_some, TickRow.tally]
      congr 1
      rw [← step, ← population, ← food]

end World.Course

namespace Run

variable {G : Type} [WordSource G] {plan : Plan} {world after : World G} {summary : Summary}
  {disk rest : Disk}

theorem Underway.totals {runId : String} {run : Run G} {moments : List Moment} {rows : List TickRow}
    (underway : Underway plan runId world run moments rows)
    (made : run.summary plan runId = .ok summary) : summary.Totals rows := by
  obtain ⟨topPrograms, -, made⟩ := bind_eq_ok_iff.mp made
  obtain rfl := pure_eq_ok_iff.mp made
  have births : moments.map (fun moment => (moment.report.births : Int)) = rows.map TickRow.births :=
    map_eq_map_of_forall₂ underway.tells TickRow.Tells.births
  have deaths : moments.map (fun moment => (moment.report.deaths : Int)) = rows.map TickRow.deaths :=
    map_eq_map_of_forall₂ underway.tells TickRow.Tells.deaths
  constructor
  · rw [← births]
    simp [underway.births, Nat.cast_list_sum, Function.comp_def]
  · rw [← deaths]
    simp [underway.deaths, Nat.cast_list_sum, Function.comp_def]
  · intro row last
    rw [List.getLast?_eq_getElem?] at last
    obtain ⟨moment, here, told⟩ := exists_getElem?_of_forall₂ underway.tells last
    rw [← underway.tells.length_eq, ← List.getLast?_eq_getElem?] at here
    have scene : moment.scene = run.scene :=
      (underway.course.getLast?_scene here).trans underway.scene.symm
    rw [← told.scene.1, ← told.scene.2, scene]
    exact ⟨rfl, rfl⟩

namespace Outcome

variable (outcome : Outcome plan world disk summary after rest)

theorem exists_records (known : world.Known) (apart : plan.Apart world.config.runId rest) :
    ∀ record ∈ plan.records, ∃ template place lines,
      Template.parse record.2 = .ok template ∧ rest.locate record.1 = .ok place ∧
        (outcome.rows.map TickRow.tally).mapM (fun tally => template.render tally) = .ok lines ∧
        rest.files[place]? = some (.bytes lines.flatten.toArray) := by
  obtain ⟨_, grown⟩ := outcome.grown_rest
  obtain ⟨goal, bytes, located, -, -, noted⟩ := outcome.exists_summary
  obtain ⟨offTicks, offForagers⟩ := outcome.offLogs apart.logs
  have serves := outcome.serves.imp fun _ _ serves => serves.grown grown
  have distinct : outcome.opened.places.Nodup := by
    have lie := apart.records
    rw [Recorder.map_locate serves, ← Function.comp_def, ← List.map_map] at lie
    exact lie.of_map
  have tallies := outcome.underway.course.map_tally known outcome.underway.tells
  intro record asked
  obtain ⟨file, listed, served⟩ := Recorder.exists_serves serves asked
  obtain ⟨lines, all, content⟩ := outcome.records offTicks offForagers distinct file listed
  rw [tallies] at all
  refine ⟨file.template, file.place, lines, served.template, served.place, all, ?_⟩
  rw [noted.files]
  · exact content
  · intro here
    obtain rfl := List.mem_singleton.mp here
    exact apart.summary record asked _ served.place (noted.grown.locate located)

end Outcome

/--
The rows of a run that completes, with its records apart from all else, give the population at
every tick from that of the beginning. The reports say what the scenes show, the summary says
what the rows come to, and each record file has its lines from them. The summary is on the
disk, and so are the rows if the logs are named by paths.
-/
theorem books_agree (valid : plan.Valid) (known : world.Known)
    (apart : plan.Apart world.config.runId rest)
    (done : Run.perform plan world disk = .ok (summary, after) rest) :
    ∃ moments rows, world.Course moments after ∧ rows ≠ [] ∧
      List.Forall₂ (TickRow.Tells world.config.runId) moments rows ∧
      (∀ moment ∈ moments, moment.Agrees) ∧
      (∀ place row, rows[place]? = some row →
        TickRow.Balanced world.population rows place row) ∧
      summary.Totals rows ∧
      (∃ place bytes, rest.locate (Plan.summaryPath plan.outDir world.config.runId) = .ok place ∧
        Text.encode Text.noByte
          (Text.points (Json.write .indented 0 summary.toDatum).toList) = .ok bytes ∧
        rest.files[place]? = some (.bytes bytes.toArray)) ∧
      (∀ record ∈ plan.records, ∃ template place lines,
        Template.parse record.2 = .ok template ∧ rest.locate record.1 = .ok place ∧
          (rows.map TickRow.tally).mapM (fun tally => template.render tally) = .ok lines ∧
          rest.files[place]? = some (.bytes lines.flatten.toArray)) ∧
      (plan.Local → ∃ place log, rest.locate (Plan.tickLogPath plan.outDir) = .ok place ∧
        rest.files[place]? = some (.log log) ∧ TickRow.Logged rows log) := by
  obtain ⟨outcome⟩ := exists_outcome done
  have course := outcome.underway.course
  rw [← outcome.world_eq] at course
  have tells := outcome.underway.tells
  obtain ⟨goal, bytes, located, encoded, written, noted⟩ := outcome.exists_summary
  refine ⟨outcome.moments, outcome.rows, course, outcome.rows_ne_nil valid, tells,
    course.agrees known, fun place row found => course.balanced known tells found,
    outcome.underway.totals outcome.finish.made,
    ⟨goal, bytes, noted.grown.locate located, encoded, written⟩,
    outcome.exists_records known apart, ?_⟩
  exact fun here => outcome.exists_tickLog here valid apart.logs

theorem books_agree_outing :
    outing.Valid ∧ World.company.Known ∧ ∃ summary after rest,
      Run.perform outing World.company (Disk.bare []) = .ok (summary, after) rest ∧
      outing.Apart World.company.config.runId rest ∧
      ∃ moments rows, World.company.Course moments after ∧ rows ≠ [] ∧
        List.Forall₂ (TickRow.Tells World.company.config.runId) moments rows ∧
        (∀ moment ∈ moments, moment.Agrees) ∧
        (∀ place row, rows[place]? = some row →
          TickRow.Balanced World.company.population rows place row) ∧
        summary.Totals rows ∧
        ∀ record ∈ outing.records, ∃ template place lines,
          Template.parse record.2 = .ok template ∧ rest.locate record.1 = .ok place ∧
            (rows.map TickRow.tally).mapM (fun tally => template.render tally) = .ok lines ∧
            rest.files[place]? = some (.bytes lines.flatten.toArray) := by
  obtain ⟨summary, after, rest, done, record, ticks, foragers, made⟩ := exists_outing
  have known := World.reachable_company.allKnown
  have apart : outing.Apart World.company.config.runId rest := by
    refine ⟨List.nodup_singleton _, offLogs_outing record ticks foragers, ?_⟩
    intro asked listed place located
    obtain rfl := List.mem_singleton.mp listed
    obtain rfl := Except.ok.inj (record.symm.trans located)
    rw [made]
    decide
  obtain ⟨moments, rows, course, some, tells, agree, balanced, totals, -, records, -⟩ :=
    books_agree outing_valid known apart done
  exact ⟨outing_valid, known, summary, after, rest, done, apart, moments, rows, course, some, tells,
    agree, balanced, totals, records⟩

end Run

end Forage
