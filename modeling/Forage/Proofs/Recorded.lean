import Forage.Config.Recorded
import Forage.Proofs.Course
import Forage.Proofs.Draft
import Forage.Proofs.Label

/-!
# Recorded configurations

A summary records the configuration of its world. What is recorded is read back as
it was, with one exception: the label of a tape with nothing on it is an empty text,
and from an empty text no tape is read.
-/

namespace Forage

/-- A list of settings records a configuration. -/
structure Records (fields : List (String × Datum)) (config : Config) : Prop where
  parameter : ∀ parameter : Parameter,
    Datum.lookup parameter.name fields = some (.whole (config.get parameter))
  wrapX : Datum.lookup "wrap_x" fields = some config.wrapX
  wrapY : Datum.lookup "wrap_y" fields = some config.wrapY
  vocabulary : Datum.lookup "command_set" fields = some (.text config.vocabulary.name)
  opcodes : Datum.lookup "initial_program" fields =
    some (config.initialOpcodes.elim .null fun opcodes => .text (Opcode.label opcodes))
  randomLength : Datum.lookup randomLengthName fields = some config.randomLength.toDatum

/-- A configuration whose parts were given as what they are meant to be. -/
structure Config.Proper (config : Config) : Prop where
  wrapX : ∃ wraps, config.wrapX = .truth wraps
  wrapY : ∃ wraps, config.wrapY = .truth wraps
  randomLength : ∃ length, config.randomLength = .whole length

/-- The numbers of a plan are whole. -/
structure Plan.Counted (plan : Plan) : Prop where
  steps : ∃ value, plan.steps = .whole value
  interval : ∃ value, plan.interval = .whole value
  topPrograms : ∃ value, plan.topPrograms = .whole value

/--
A configuration as a summary gives it back: what was given for a truth value is one, and what
was given for a length is a whole number.
-/
def Config.asRecorded (config : Config) (length : Int) : Config :=
  { config with
    wrapX := .truth config.wrapX.truthy
    wrapY := .truth config.wrapY.truthy
    randomLength := .whole length }

theorem Config.Proper.exists_asRecorded {config : Config} (proper : config.Proper) :
    ∃ length, Recorded.whole config.randomLength.toDatum = .ok length ∧
      config.asRecorded length = config := by
  obtain ⟨⟨wrapsX, wrapX⟩, ⟨wrapsY, wrapY⟩, length, randomLength⟩ := proper
  refine ⟨length, ?_, ?_⟩
  · rw [randomLength]
    rfl
  · rw [asRecorded, wrapX, wrapY, Datum.truthy, Datum.truthy, ← wrapX, ← wrapY, ← randomLength]

theorem Vocabulary.ofDatum_name (vocabulary : Vocabulary) :
    ofDatum (.text vocabulary.name) = .ok vocabulary := by
  cases vocabulary <;> rfl

theorem Summary.exists_records (summary : Summary) :
    ∃ fields, summary.metadata = .record fields ∧ Records fields summary.config := by
  refine ⟨_, rfl, ?_⟩
  constructor
  · intro parameter
    cases parameter <;> rfl
  all_goals rfl

theorem Summary.exists_metadata (summary : Summary) :
    ∃ entries, summary.toDatum = .record entries ∧
      Datum.lookup Recorded.metadataName entries = some summary.metadata :=
  ⟨_, rfl, rfl⟩

namespace Records

variable {fields : List (String × Datum)} {config : Config}

theorem parameter_eq (records : Records fields config) (parameter : Parameter) :
    Recorded.parameter fields parameter = .ok (config.get parameter) := by
  simp [Recorded.parameter, records.parameter, Recorded.whole]

theorem opcodes_eq (records : Records fields config) :
    Recorded.opcodes fields =
      if config.initialOpcodes = some [] then .error .emptyTape else .ok config.initialOpcodes := by
  rw [Recorded.opcodes, records.opcodes, Option.getD_some]
  cases config.initialOpcodes with
  | none => rfl
  | some opcodes =>
      simp only [Option.elim_some, Datum.asText, Tape.parse_label, Option.some.injEq]
      by_cases blank : opcodes = []
      · simp [blank, Except.map]
      · simp [blank, Except.map, Tape.ofList, Tape.startingAt, Tape.filled_of_ne_nil blank]

theorem draft_eq (records : Records fields config) :
    Recorded.draft fields =
      if config.initialOpcodes = some [] then .error .emptyTape
      else (Recorded.whole config.randomLength.toDatum).map fun length =>
        .ofConfig (config.asRecorded length) := by
  simp only [Recorded.draft, records.parameter_eq, records.vocabulary, records.opcodes_eq,
    records.randomLength, records.wrapX, records.wrapY, Option.getD_some, Vocabulary.ofDatum_name]
  by_cases blank : config.initialOpcodes = some []
  · simp [blank, bind, Except.bind]
  · cases Recorded.whole config.randomLength.toDatum with
    | error fault => simp [blank, bind, Except.bind, Except.map]
    | ok length =>
        simp only [blank, if_false, bind, Except.bind, Except.map, pure, Except.pure]
        rfl

end Records

/-- What a summary records is its configuration, unless first foragers were to carry nothing. -/
theorem Config.ofSummary_toDatum {summary : Summary} (valid : summary.config.Valid)
    (proper : summary.config.Proper) :
    Config.ofSummary summary.toDatum =
      if summary.config.initialOpcodes = some [] then .error .emptyTape
      else .ok summary.config := by
  obtain ⟨fields, metadata, records⟩ := summary.exists_records
  obtain ⟨entries, written, found⟩ := summary.exists_metadata
  obtain ⟨length, counted, same⟩ := proper.exists_asRecorded
  rw [metadata] at found
  rw [written, Config.ofSummary]
  simp only [found, records.draft_eq, counted]
  by_cases blank : summary.config.initialOpcodes = some []
  · simp [blank, bind, Except.bind]
  · simp only [blank, if_false, bind, Except.bind, Except.map, same]
    exact Draft.toConfig_eq_ok_iff.mpr (Draft.yields_ofConfig valid)

/-- If a summary is accepted at all, it gives its configuration back as it was recorded. -/
theorem Config.exists_asRecorded {summary : Summary} {decoded : Config}
    (read : Config.ofSummary summary.toDatum = .ok decoded) :
    ∃ length, Recorded.whole summary.config.randomLength.toDatum = .ok length ∧
      decoded = summary.config.asRecorded length := by
  obtain ⟨fields, metadata, records⟩ := summary.exists_records
  obtain ⟨entries, written, found⟩ := summary.exists_metadata
  rw [metadata] at found
  rw [written, Config.ofSummary] at read
  simp only [found, records.draft_eq] at read
  by_cases blank : summary.config.initialOpcodes = some []
  · simp [blank, bind, Except.bind] at read
  · rw [if_neg blank] at read
    cases counted : Recorded.whole summary.config.randomLength.toDatum with
    | error fault => simp [counted, bind, Except.bind, Except.map] at read
    | ok length =>
        simp only [counted, bind, Except.bind, Except.map] at read
        exact ⟨length, rfl, (Draft.toConfig_eq_ok_iff.mp read).eq_of_ofConfig⟩

/--
The summary of every run has the configuration of the world it ran, and from every
summary with a proper configuration that configuration is read, unless the first
foragers were to carry nothing: that they were is written down, but cannot be read.
-/
theorem Config.recording_exact {config : Config} (valid : config.Valid) (proper : config.Proper) :
    (∀ (G : Type) [WordSource G] (plan : Plan) (world after : World G) (summary : Summary)
      (disk rest : Disk), world.config = config →
      Run.perform plan world disk = .ok (summary, after) rest → summary.config = config) ∧
    ∀ summary : Summary, summary.config = config →
      Config.ofSummary summary.toDatum =
        if config.initialOpcodes = some [] then .error .emptyTape else .ok config := by
  constructor
  · intro G _ plan world after summary disk rest same done
    rw [Run.config_perform done, same]
  · rintro summary rfl
    exact ofSummary_toDatum valid proper

theorem Config.proper_default : Config.default.Proper :=
  ⟨⟨true, rfl⟩, ⟨true, rfl⟩, ⟨5, rfl⟩⟩

/-- The summary of a short run of a world with some configuration. -/
def Summary.brief (config : Config) : Summary where
  runId := config.runId
  stepsRun := 1
  finalPopulation := 1
  finalFood := 0
  births := 0
  deaths := 0
  topPrograms := []
  config
  steps := .whole 1
  interval := .whole 0
  stopped := false

theorem Config.recording_exact_default :
    Config.default.Valid ∧ Config.default.Proper ∧
      Config.ofSummary (Summary.brief Config.default).toDatum = .ok Config.default := by
  obtain ⟨-, read⟩ := Config.recording_exact valid_default proper_default
  exact ⟨valid_default, proper_default, read (Summary.brief Config.default) rfl⟩

/-- A world may be made whose first foragers carry nothing, but not from its summary. -/
theorem Config.recording_lost :
    let config := { Config.default with initialOpcodes := some [] }
    config.Valid ∧ config.Proper ∧
      Config.ofSummary (Summary.brief config).toDatum = .error .emptyTape := by
  intro config
  have valid : config.Valid := ⟨fun parameter => by cases parameter <;> decide, rfl⟩
  have proper : config.Proper := ⟨⟨true, rfl⟩, ⟨true, rfl⟩, ⟨5, rfl⟩⟩
  exact ⟨valid, proper, ofSummary_toDatum valid proper⟩

end Forage
