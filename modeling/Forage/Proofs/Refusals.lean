import Forage.Proofs.Declared
import Forage.Proofs.Recorded
import Forage.Proofs.Unreadable

/-!
# What the command that runs a world refuses

Out of a file of settings and what is given directly a valid request is made, or it is refused,
unless the file cannot be got at, is nested too deeply, or has an infinity where a whole number
is wanted. The settings are read in a fixed order, and the first that cannot be read decides.
-/

namespace Forage

namespace Plan

/-- The numbers of a draft are whole. -/
structure Draft.Counted (draft : Draft) : Prop where
  steps : ∃ value, draft.steps = .whole value
  interval : ∃ value, draft.interval = .whole value
  topPrograms : ∃ value, draft.topPrograms = .whole value

theorem Draft.Counted.of_toPlan {draft : Draft} {plan : Plan} (counted : draft.Counted)
    (made : draft.toPlan = .ok plan) : plan.Valid ∧ plan.Counted := by
  obtain ⟨⟨steps, steps_eq⟩, ⟨interval, interval_eq⟩, top, top_eq⟩ := counted
  simp only [toPlan, bind_eq_ok_iff, pure_eq_ok_iff, Amount.atLeast_eq_ok_iff, steps_eq,
    interval_eq, top_eq] at made
  obtain ⟨_, ⟨first, many⟩, _, ⟨second, often⟩, _, ⟨third, named⟩, rfl⟩ := made
  obtain rfl := Except.ok.inj first
  obtain rfl := Except.ok.inj second
  obtain rfl := Except.ok.inj third
  exact ⟨⟨many, often, named⟩, ⟨steps, rfl⟩, ⟨interval, rfl⟩, top, rfl⟩

theorem Draft.Counted.kind_of_toPlan {draft : Draft} {fault : Fault} (counted : draft.Counted)
    (failed : draft.toPlan = .error fault) : fault.kind = .invalid := by
  obtain ⟨⟨steps, steps_eq⟩, ⟨interval, interval_eq⟩, top, top_eq⟩ := counted
  simp only [toPlan, bind_eq_error_iff, steps_eq, interval_eq, top_eq] at failed
  have small {name : String} {least value : Int}
      (failed : Amount.atLeast name least (.whole value) = .error fault) : fault.kind = .invalid :=
    @Amount.kind_of_atLeast name least (.whole value) fault failed
  rcases failed with failed | ⟨_, -, failed | ⟨_, -, failed | ⟨_, -, done⟩⟩⟩
  · exact small failed
  · exact small failed
  · exact small failed
  · simp [pure, Except.pure] at done

end Plan

namespace Simulate

/-- What is read from the settings, each with the key and the default that it needs. -/
inductive Reading where
  | whole (key : String) (default : Int)
  | truth (key : String)
  | vocabulary
  | opcodes
  | outDir
  | records

namespace Reading

/-- What is read for a configuration, in this order. -/
def ofConfig : List Reading :=
  Parameter.all.map (fun parameter => whole parameter.name parameter.limits.default) ++
    [truth "wrap_x", truth "wrap_y", vocabulary, opcodes, whole randomLengthName 5]

/-- What is read for a plan, in this order. -/
def ofPlan : List Reading :=
  [outDir, whole "steps" 1000, whole "snapshot_interval" 10, truth "stop_on_extinction", records,
    whole "top_programs" 10]

/-- A reading of which only matters whether it succeeds. -/
def check (sources : Sources) : Reading → Except Fault Unit
  | whole key default => (sources.whole key default).map fun _ => ()
  | truth key => (sources.truth key).map fun _ => ()
  | vocabulary =>
      (sources.text "command_set" Vocabulary.extended.name >>= vocabularyOf).map fun _ => ()
  | opcodes => sources.opcodes.map fun _ => ()
  | outDir => (sources.text "out_dir" "data").map fun _ => ()
  | records => (recordsOf (sources.given.all "stats_file")).map fun _ => ()

end Reading

namespace Sources

variable {sources : Sources} {fault : Fault}

/-- The configuration that is asked for, before it is checked. -/
def asked (sources : Sources) : Except Fault Config := do
  let width ← sources.parameter .width
  let height ← sources.parameter .height
  let initialFoodPercent ← sources.parameter .initialFoodPercent
  let initialWallPercent ← sources.parameter .initialWallPercent
  let initialPopulation ← sources.parameter .initialPopulation
  let initialEnergy ← sources.parameter .initialEnergy
  let mutationRate ← sources.parameter .mutationRate
  let regrowthRate ← sources.parameter .regrowthRate
  let energyPerFood ← sources.parameter .energyPerFood
  let energyPerStep ← sources.parameter .energyPerStep
  let reproductionThreshold ← sources.parameter .reproductionThreshold
  let seed ← sources.parameter .seed
  let wrapX ← sources.truth "wrap_x"
  let wrapY ← sources.truth "wrap_y"
  let vocabulary ← sources.text "command_set" Vocabulary.extended.name >>= vocabularyOf
  let initialOpcodes ← sources.opcodes
  let randomLength ← sources.whole randomLengthName 5
  return {
    width, height, initialFoodPercent, initialWallPercent, initialPopulation, initialEnergy,
    mutationRate, regrowthRate, energyPerFood, energyPerStep, reproductionThreshold, seed,
    wrapX := .truth wrapX
    wrapY := .truth wrapY
    vocabulary
    initialOpcodes
    randomLength := .whole randomLength }

theorem config_eq (sources : Sources) :
    sources.config = sources.asked >>= fun config => (Draft.ofConfig config).toConfig := by
  simp only [config, asked, bind_assoc, pure_bind]
  rfl

theorem asked_eq_error_iff :
    sources.asked = .error fault ↔
      Reading.ofConfig.forM (Reading.check sources) = .error fault := by
  unfold asked
  simp only [Reading.ofConfig, Parameter.all, List.map_cons, List.map_nil, List.cons_append,
    List.nil_append, List.forM_eq_forM, List.forM_cons, List.forM_nil, Reading.check]
  iterate 17 refine bind_eq_error_congr fun _ => ?_
  simp [pure, Except.pure]

/-- The plan that is asked for, before it is checked. -/
def drafted (sources : Sources) : Except Fault Plan.Draft := do
  let outDir ← sources.text "out_dir" "data"
  let steps ← sources.whole "steps" 1000
  let interval ← sources.whole "snapshot_interval" 10
  let stopOnExtinction ← sources.truth "stop_on_extinction"
  let records ← recordsOf (sources.given.all "stats_file")
  let topPrograms ← sources.whole "top_programs" 10
  return {
    steps := .whole steps
    interval := .whole interval
    stopOnExtinction := .truth stopOnExtinction
    outDir := .ofString outDir
    records
    topPrograms := .whole topPrograms }

theorem plan_eq (sources : Sources) : sources.plan = sources.drafted >>= Plan.Draft.toPlan := by
  simp only [plan, drafted, bind_assoc, pure_bind]

theorem drafted_eq_error_iff :
    sources.drafted = .error fault ↔
      Reading.ofPlan.forM (Reading.check sources) = .error fault := by
  unfold drafted
  simp only [Reading.ofPlan, List.forM_eq_forM, List.forM_cons, List.forM_nil, Reading.check]
  iterate 6 refine bind_eq_error_congr fun _ => ?_
  simp [pure, Except.pure]

end Sources

theorem kind_of_recordOf {item : String} {fault : Fault} (failed : recordOf item = .error fault) :
    fault.kind ∈ Halt.refused := by
  unfold recordOf at failed
  split at failed
  · exact Halt.refused_of_invalid (Except.error.inj failed ▸ rfl)
  · exact Halt.refused_of_invalid (Except.error.inj failed ▸ rfl)
  · exact Template.kind_of_ofPieces (map_eq_error_iff.mp failed)

theorem kind_of_recordsOf {items : List Datum} {fault : Fault}
    (failed : recordsOf items = .error fault) : fault.kind ∈ Halt.refused := by
  induction items with
  | nil => simp [recordsOf] at failed
  | cons item items inductionHypothesis =>
      unfold recordsOf at failed
      split at failed
      · simp at failed
      · next same =>
          obtain ⟨rfl, rfl⟩ := List.cons.inj same
          rcases bind_eq_error_iff.mp failed with failed | ⟨_, -, failed⟩
          · exact kind_of_recordOf failed
          rcases bind_eq_error_iff.mp failed with failed | ⟨_, -, done⟩
          · exact inductionHypothesis failed
          · simp [pure, Except.pure] at done
      · exact Halt.refused_of_invalid (Except.error.inj failed ▸ rfl)

theorem kind_of_opcodes {sources : Sources} {fault : Fault}
    (failed : sources.opcodes = .error fault) : fault.kind = .invalid := by
  unfold Sources.opcodes at failed
  split at failed
  · simp at failed
  · rcases bind_eq_error_iff.mp failed with failed | ⟨text, -, failed⟩
    · exact Setting.kind_of_text failed
    · exact kind_of_opcodesOf failed

/-- What cannot be read is refused, except for an infinity where a whole number is wanted. -/
theorem Reading.check_eq_error {sources : Sources} {reading : Reading} {fault : Fault}
    (failed : reading.check sources = .error fault) :
    fault.kind ∈ Halt.refused ∨ fault = .tooLarge ∧ ∃ key default number,
      reading = .whole key default ∧ sources.pick key (.whole default) = .real number ∧
        number.IsInfinite := by
  cases reading with
  | whole key default =>
      rcases Setting.whole_eq_error (map_eq_error_iff.mp failed) with
        invalid | ⟨number, picked, infinite, rfl⟩
      · exact .inl (Halt.refused_of_invalid invalid)
      · exact .inr ⟨rfl, key, default, number, rfl, picked, infinite⟩
  | truth key =>
      exact .inl (Halt.refused_of_invalid (Setting.kind_of_truth (map_eq_error_iff.mp failed)))
  | vocabulary =>
      rcases bind_eq_error_iff.mp (map_eq_error_iff.mp failed) with failed | ⟨name, -, failed⟩
      · exact .inl (Halt.refused_of_invalid (Setting.kind_of_text failed))
      · exact .inl (Halt.refused_of_invalid (kind_of_vocabularyOf failed))
  | opcodes => exact .inl (Halt.refused_of_invalid (kind_of_opcodes (map_eq_error_iff.mp failed)))
  | outDir =>
      exact .inl (Halt.refused_of_invalid (Setting.kind_of_text (map_eq_error_iff.mp failed)))
  | records => exact .inl (kind_of_recordsOf (map_eq_error_iff.mp failed))

theorem Reading.check_of_isInfinite {sources : Sources} {key : String} {default : Int}
    {number : Binary64} (picked : sources.pick key (.whole default) = .real number)
    (infinite : number.IsInfinite) :
    (Reading.whole key default).check sources = .error .tooLarge := by
  rw [check, Sources.whole, picked, Setting.whole_of_isInfinite infinite]
  rfl

/-- The readings come to an infinity where a whole number is wanted, all before it being fine. -/
def Endless (sources : Sources) (readings : List Reading) : Prop :=
  ∃ key default number, Reaches (Reading.check sources) readings (.whole key default) ∧
    sources.pick key (.whole default) = .real number ∧ number.IsInfinite

theorem endless_of_forM {sources : Sources} {readings : List Reading} {fault : Fault}
    (failed : readings.forM (Reading.check sources) = .error fault) :
    fault.kind ∈ Halt.refused ∨ fault = .tooLarge ∧ Endless sources readings := by
  obtain ⟨reading, reached, fails⟩ := forM_eq_error_iff.mp failed
  refine (Reading.check_eq_error fails).imp_right ?_
  rintro ⟨tooLarge, key, default, number, rfl, picked, infinite⟩
  exact ⟨tooLarge, key, default, number, reached, picked, infinite⟩

theorem Endless.forM_eq {sources : Sources} {readings : List Reading}
    (endless : Endless sources readings) :
    readings.forM (Reading.check sources) = .error .tooLarge := by
  obtain ⟨key, default, number, reached, picked, infinite⟩ := endless
  exact forM_eq_error_iff.mpr ⟨_, reached, Reading.check_of_isInfinite picked infinite⟩

/-- A fault that a request leads to without being refused for it. -/
inductive Escapes (disk : Disk) (given : Given) : Fault → Prop where
  | unreadable {path : String} {fault : Fault} : given.get "config" = some (.text path) →
      disk.Unreadable (.ofString path) fault → Escapes disk given fault
  | config {file : List (String × Datum)} : fileOf disk given = .ok file →
      Endless ⟨given, file⟩ Reading.ofConfig → Escapes disk given .tooLarge
  | plan {file : List (String × Datum)} {config : Config} : fileOf disk given = .ok file →
      Sources.config ⟨given, file⟩ = .ok config → Endless ⟨given, file⟩ Reading.ofPlan →
      Escapes disk given .tooLarge

variable {disk : Disk} {given : Given} {fault : Fault}

theorem Escapes.failure (escapes : Escapes disk given fault) :
    Halt.ofFault fault = .failure fault := by
  cases escapes with
  | unreadable _ unreadable => exact unreadable.failure
  | config | plan => rfl

theorem Escapes.request_eq (escapes : Escapes disk given fault) :
    request disk given = .error fault := by
  unfold request
  cases escapes with
  | unreadable named unreadable =>
      have unread : fileOf disk given = .error fault := by
        simp only [fileOf, named, unreadable.readSettings_eq]
      exact bind_eq_error_iff.mpr (.inl unread)
  | config loaded endless =>
      have unasked := Sources.asked_eq_error_iff.mpr endless.forM_eq
      refine bind_eq_error_iff.mpr (.inr ⟨_, loaded, bind_eq_error_iff.mpr (.inl ?_)⟩)
      rw [Sources.config_eq]
      exact bind_eq_error_iff.mpr (.inl unasked)
  | plan loaded made endless =>
      have undrafted := Sources.drafted_eq_error_iff.mpr endless.forM_eq
      refine bind_eq_error_iff.mpr (.inr ⟨_, loaded, bind_eq_error_iff.mpr (.inr ⟨_, made, ?_⟩)⟩)
      rw [Sources.plan_eq]
      exact bind_eq_error_iff.mpr (.inl (bind_eq_error_iff.mpr (.inl undrafted)))

theorem fileOf_eq_error (declared : given.Declared rules)
    (failed : fileOf disk given = .error fault) :
    fault.kind ∈ Halt.refused ∨ Escapes disk given fault := by
  unfold fileOf at failed
  split at failed
  · simp at failed
  · next path named =>
      exact (Disk.readSettings_eq_error failed).imp_right fun unreadable =>
        .unreadable named unreadable
  · next datum other named =>
      have ruled : ∀ rule ∈ rules, rule.key = "config" → rule.shape = .text := by decide
      obtain ⟨text, rfl⟩ := declared.exists_text ruled named
      exact absurd rfl (other text)

theorem Sources.proper_of_asked {sources : Sources} {config : Config}
    (read : sources.asked = .ok config) : config.Proper := by
  unfold asked at read
  iterate 17
    obtain ⟨_, -, read⟩ := bind_eq_ok_iff.mp read
  obtain rfl := Except.ok.inj read
  exact ⟨⟨_, rfl⟩, ⟨_, rfl⟩, _, rfl⟩

theorem Sources.counted_of_drafted {sources : Sources} {draft : Plan.Draft}
    (read : sources.drafted = .ok draft) : draft.Counted := by
  unfold drafted at read
  iterate 6
    obtain ⟨_, -, read⟩ := bind_eq_ok_iff.mp read
  obtain rfl := Except.ok.inj read
  exact ⟨⟨_, rfl⟩, ⟨_, rfl⟩, _, rfl⟩

theorem Sources.config_eq_ok {sources : Sources} {config : Config}
    (made : sources.config = .ok config) : config.Valid ∧ config.Proper := by
  rw [config_eq] at made
  obtain ⟨asked, read, made⟩ := bind_eq_ok_iff.mp made
  have yields := Draft.toConfig_eq_ok_iff.mp made
  exact ⟨yields.valid, yields.eq_of_ofConfig ▸ proper_of_asked read⟩

theorem Sources.plan_eq_ok {sources : Sources} {plan : Plan} (made : sources.plan = .ok plan) :
    plan.Valid ∧ plan.Counted := by
  rw [plan_eq] at made
  obtain ⟨draft, read, made⟩ := bind_eq_ok_iff.mp made
  exact (counted_of_drafted read).of_toPlan made

theorem Sources.config_eq_error {sources : Sources} (failed : sources.config = .error fault) :
    fault.kind ∈ Halt.refused ∨ fault = .tooLarge ∧ Endless sources Reading.ofConfig := by
  rw [config_eq] at failed
  rcases bind_eq_error_iff.mp failed with failed | ⟨asked, -, failed⟩
  · exact endless_of_forM (asked_eq_error_iff.mp failed)
  · exact .inl (Halt.refused_of_invalid
      (Draft.kind_of_toConfig rfl (Draft.checkedOpcodes_ofConfig _) failed))

theorem Sources.plan_eq_error {sources : Sources} (failed : sources.plan = .error fault) :
    fault.kind ∈ Halt.refused ∨ fault = .tooLarge ∧ Endless sources Reading.ofPlan := by
  rw [plan_eq] at failed
  rcases bind_eq_error_iff.mp failed with failed | ⟨draft, read, failed⟩
  · exact endless_of_forM (drafted_eq_error_iff.mp failed)
  · exact .inl (Halt.refused_of_invalid ((counted_of_drafted read).kind_of_toPlan failed))

theorem kind_of_pictureOf {cwd : Place} {plan : Plan} (declared : given.Declared rules)
    (failed : pictureOf cwd given plan = .error fault) : fault.kind ∈ Halt.refused := by
  unfold pictureOf at failed
  split at failed
  · simp at failed
  · exact Path.kind_of_resolveWithin (map_eq_error_iff.mp failed)
  · next datum other named =>
      have ruled : ∀ rule ∈ rules, rule.key = "render_final" → rule.shape = .text := by decide
      obtain ⟨text, rfl⟩ := declared.exists_text ruled named
      exact absurd rfl (other text)

/--
A request with a valid configuration and a valid plan is made, or it is refused, with exactly
these exceptions: a file of settings that cannot be got at because of what its path leads to or is
nested too deeply, and settings of which the first that cannot be read as it should is an infinity
in the place of a whole number. Those faults are let through.
-/
theorem request_refused (declared : given.Declared rules) (disk : Disk) :
    (∀ made, request disk given = .ok made →
      (made.config.Valid ∧ made.config.Proper) ∧ made.plan.Valid ∧ made.plan.Counted) ∧
    (∀ fault, request disk given = .error fault →
      Halt.ofFault fault = .refusal fault ∨ Escapes disk given fault) ∧
    ∀ fault, Escapes disk given fault →
      request disk given = .error fault ∧ Halt.ofFault fault = .failure fault := by
  refine ⟨?_, ?_, fun fault escapes => ⟨escapes.request_eq, escapes.failure⟩⟩
  · intro made done
    unfold request at done
    obtain ⟨file, -, done⟩ := bind_eq_ok_iff.mp done
    obtain ⟨config, configured, done⟩ := bind_eq_ok_iff.mp done
    obtain ⟨plan, planned, done⟩ := bind_eq_ok_iff.mp done
    obtain ⟨picture, -, done⟩ := bind_eq_ok_iff.mp done
    obtain rfl := Except.ok.inj done
    exact ⟨Sources.config_eq_ok configured, Sources.plan_eq_ok planned⟩
  · intro fault failed
    suffices fault.kind ∈ Halt.refused ∨ Escapes disk given fault from
      this.imp_left Halt.refusal_of_mem
    unfold request at failed
    rcases bind_eq_error_iff.mp failed with failed | ⟨file, loaded, failed⟩
    · exact fileOf_eq_error declared failed
    rcases bind_eq_error_iff.mp failed with failed | ⟨config, configured, failed⟩
    · rcases Sources.config_eq_error failed with refused | ⟨rfl, endless⟩
      · exact .inl refused
      · exact .inr (.config loaded endless)
    rcases bind_eq_error_iff.mp failed with failed | ⟨plan, -, failed⟩
    · rcases Sources.plan_eq_error failed with refused | ⟨rfl, endless⟩
      · exact .inl refused
      · exact .inr (.plan loaded configured endless)
    rcases bind_eq_error_iff.mp failed with failed | ⟨picture, -, done⟩
    · exact .inl (kind_of_pictureOf declared failed)
    · simp [pure, Except.pure] at done

theorem request_refused_directory :
    (∃ made, request (Disk.bare ["home"]) Given.empty = .ok made ∧
      made.config.Valid ∧ made.plan.Valid) ∧
    request (Disk.bare ["home"]) (Given.empty.add "config" (.text ".")) = .error .isDirectory ∧
    Halt.ofFault .isDirectory = .failure .isDirectory := by
  have nothing : Given.empty.Declared rules := by simp [Given.Declared, Given.empty]
  have named : (Given.empty.add "config" (.text ".")).Declared rules := by
    simp only [Given.Declared, Given.add, Given.empty, List.nil_append, List.forall_mem_singleton]
    exact ⟨textRule "config", by decide, rfl, trivial⟩
  have located : (Disk.bare ["home"]).locate (.ofString ".") = .ok ["home"] := rfl
  have isDirectory : (Disk.bare ["home"]).isDirectory ["home"] = true := rfl
  obtain ⟨made, done⟩ : ∃ made, request (Disk.bare ["home"]) Given.empty = .ok made := ⟨_, rfl⟩
  obtain ⟨⟨configured, -⟩, planned, -⟩ := (request_refused nothing (Disk.bare ["home"])).1 _ done
  exact ⟨⟨made, done, configured, planned⟩, (request_refused named (Disk.bare ["home"])).2.2 _
    (.unreadable rfl (.directory located isDirectory))⟩

/-- Settings that ask for endlessly many steps are not refused. -/
theorem request_endless :
    let disk := (Disk.bare ["home"]).put ["home", "settings"]
      (.bytes "\x7b\"steps\": Infinity\x7d".toUTF8.data)
    ∃ given, Given.read rules ["--config", "settings"] = .ok given ∧ given.Declared rules ∧
      request disk given = .error .tooLarge ∧ Halt.ofFault .tooLarge = .failure .tooLarge := by
  intro disk
  have sorted : (Word.sortAll rules ["--config", "settings"]).toOption =
      some [.option (textRule "config") "--config" none, .value "settings"] := by decide +kernel
  have read : Given.read rules ["--config", "settings"] =
      .ok ⟨[("config", .text "settings")], []⟩ := by
    cases found : Word.sortAll rules ["--config", "settings"] with
    | error misuse =>
        rw [found] at sorted
        exact nomatch sorted
    | ok words =>
        rw [found] at sorted
        obtain rfl := Option.some.inj sorted
        rw [Given.read, Given.readLoose, found]
        rfl
  exact ⟨_, read, Given.declared_of_read read (by simp), rfl, rfl⟩

end Simulate

end Forage
