import Forage.Proofs.Meaning
import Forage.Proofs.Refusals
import Forage.Proofs.Tuning

/-!
# Configurations from settings

Every valid configuration can be written as a list of settings, and however its settings are
written, it is what is read from them. Of a list only those settings count that a
configuration has and that are not given directly: whatever else stands in it, and whether or
not it makes sense, the outcome is the same.
-/

namespace Forage

namespace Simulate

open Setting

variable {given : Given} {file other : List (String × Datum)} {sources : Sources}
  {config : Config} {key : String}

/-- The names of the settings of a configuration. -/
def configKeys : List String :=
  Parameter.all.map Parameter.name ++ Draft.otherNames

/-- The names of the settings of a plan that a list of settings may hold. -/
def planKeys : List String :=
  ["out_dir", "steps", "snapshot_interval", "stop_on_extinction", "top_programs"]

theorem name_mem_configKeys (parameter : Parameter) : parameter.name ∈ configKeys :=
  List.mem_append_left _ (List.mem_map_of_mem parameter.mem_all)

/-- What is said under a key: directly, or else by the file. -/
def Sources.told (sources : Sources) (key : String) : Option Datum :=
  (sources.given.get key).or (Datum.lookup key sources.file)

theorem Sources.pick_eq (sources : Sources) (key : String) (default : Datum) :
    sources.pick key default = (sources.told key).getD default := by
  unfold pick Setting.pick told
  cases sources.given.get key <;> rfl

/-- Every setting of a configuration is told, and what is told means its value. -/
structure Sources.Dictate (sources : Sources) (config : Config) : Prop where
  parameter : ∀ parameter : Parameter, ∃ datum,
    sources.told parameter.name = some datum ∧ MeansWhole (config.get parameter) datum
  wrapX : ∃ wraps datum, config.wrapX = .truth wraps ∧
    sources.told "wrap_x" = some datum ∧ MeansTruth wraps datum
  wrapY : ∃ wraps datum, config.wrapY = .truth wraps ∧
    sources.told "wrap_y" = some datum ∧ MeansTruth wraps datum
  vocabulary : ∃ datum, sources.told "command_set" = some datum ∧
    MeansVocabulary config.vocabulary datum
  opcodes : ∃ datum, sources.told "initial_program" = some datum ∧
    MeansOpcodes config.initialOpcodes datum
  randomLength : ∃ length datum, config.randomLength = .whole length ∧
    sources.told randomLengthName = some datum ∧ MeansWhole length datum

namespace Sources.Dictate

variable (dictate : sources.Dictate config)

include dictate

theorem parameter_eq (parameter : Parameter) :
    sources.parameter parameter = .ok (config.get parameter) := by
  obtain ⟨datum, told, meant⟩ := dictate.parameter parameter
  rw [Sources.parameter, whole, pick_eq, told]
  exact meant.whole_eq

theorem opcodes_eq : sources.opcodes = .ok config.initialOpcodes := by
  obtain ⟨datum, told, meant⟩ := dictate.opcodes
  obtain ⟨text, rfl⟩ := meant.exists_text
  rw [Sources.opcodes, pick_eq, told]
  exact meant.opcodes_eq

theorem asked_eq : sources.asked = .ok config := by
  obtain ⟨wrapsX, horizontal, wrapX, toldX, meantX⟩ := dictate.wrapX
  obtain ⟨wrapsY, vertical, wrapY, toldY, meantY⟩ := dictate.wrapY
  obtain ⟨name, toldName, meantName⟩ := dictate.vocabulary
  obtain ⟨length, digits, randomLength, toldLength, meantLength⟩ := dictate.randomLength
  have truthX : sources.truth "wrap_x" = .ok wrapsX := by
    rw [Sources.truth, pick_eq, toldX]
    exact meantX.truth_eq
  have truthY : sources.truth "wrap_y" = .ok wrapsY := by
    rw [Sources.truth, pick_eq, toldY]
    exact meantY.truth_eq
  have vocabulary : sources.text "command_set" Vocabulary.extended.name >>= vocabularyOf =
      .ok config.vocabulary := by
    rw [Sources.text, pick_eq, toldName]
    exact meantName.vocabulary_eq
  have counted : sources.whole randomLengthName 5 = .ok length := by
    rw [Sources.whole, pick_eq, toldLength]
    exact meantLength.whole_eq
  simp only [asked, dictate.parameter_eq, truthX, truthY, vocabulary, dictate.opcodes_eq, counted]
  cases config
  cases wrapX
  cases wrapY
  cases randomLength
  rfl

theorem config_eq (valid : config.Valid) : sources.config = .ok config := by
  rw [Sources.config_eq, dictate.asked_eq]
  exact Draft.toConfig_eq_ok_iff.mpr (Draft.yields_ofConfig valid)

end Sources.Dictate

/-- Lists of settings that say the same under each of the keys, if nothing is given directly. -/
def Alike (given : Given) (keys : List String) (file other : List (String × Datum)) : Prop :=
  ∀ key ∈ keys, given.get key = none → Datum.lookup key other = Datum.lookup key file

theorem Alike.told_eq {keys : List String} (alike : Alike given keys file other)
    (listed : key ∈ keys) : Sources.told ⟨given, other⟩ key = Sources.told ⟨given, file⟩ key := by
  unfold Sources.told
  cases direct : given.get key with
  | some datum => rfl
  | none => exact alike key listed direct

namespace Sources

variable {second : Sources}

theorem whole_congr (same : second.told key = sources.told key) (default : Int) :
    second.whole key default = sources.whole key default := by
  rw [whole, whole, pick_eq, pick_eq, same]

theorem truth_congr (same : second.told key = sources.told key) :
    second.truth key = sources.truth key := by
  rw [truth, truth, pick_eq, pick_eq, same]

theorem text_congr (same : second.told key = sources.told key) (default : String) :
    second.text key default = sources.text key default := by
  rw [text, text, pick_eq, pick_eq, same]

theorem config_congr (same : ∀ key ∈ configKeys, second.told key = sources.told key) :
    second.config = sources.config := by
  have parameter (parameter : Parameter) :
      second.parameter parameter = sources.parameter parameter :=
    whole_congr (same _ (name_mem_configKeys parameter)) _
  have wrapX := truth_congr (same "wrap_x" (by decide))
  have wrapY := truth_congr (same "wrap_y" (by decide))
  have vocabulary := text_congr (same "command_set" (by decide)) Vocabulary.extended.name
  have randomLength := whole_congr (same randomLengthName (by decide)) 5
  have opcodes : second.opcodes = sources.opcodes := by
    rw [Sources.opcodes, Sources.opcodes, pick_eq, pick_eq, same "initial_program" (by decide)]
  rw [config_eq, config_eq, asked, asked]
  simp only [parameter, wrapX, wrapY, vocabulary, opcodes, randomLength]

/-- The plan depends on the record files and on nothing but what is told under its keys. -/
theorem plan_congr (given : second.given = sources.given)
    (same : ∀ key ∈ planKeys, second.told key = sources.told key) :
    second.plan = sources.plan := by
  have outDir := text_congr (same "out_dir" (by decide)) "data"
  have steps := whole_congr (same "steps" (by decide)) 1000
  have interval := whole_congr (same "snapshot_interval" (by decide)) 10
  have stopOnExtinction := truth_congr (same "stop_on_extinction" (by decide))
  have topPrograms := whole_congr (same "top_programs" (by decide)) 10
  rw [plan, plan, outDir, steps, interval, stopOnExtinction, topPrograms, given]

end Sources

theorem request_eq {disk : Disk} (read : fileOf disk given = .ok file)
    (made : Sources.config ⟨given, file⟩ = .ok config) :
    request disk given = do
      let plan ← Sources.plan ⟨given, file⟩
      let picture ← pictureOf disk.cwd given plan
      return { config, plan, picture } := by
  rw [request, read]
  simp only [bind, Except.bind, made]

theorem request_congr {disk elsewhere : Disk} (read : fileOf disk given = .ok file)
    (readToo : fileOf elsewhere given = .ok other) (here : elsewhere.cwd = disk.cwd)
    (alike : Alike given (configKeys ++ planKeys) file other) :
    request elsewhere given = request disk given := by
  have config : Sources.config ⟨given, other⟩ = Sources.config ⟨given, file⟩ :=
    Sources.config_congr fun key listed => alike.told_eq (List.mem_append_left _ listed)
  have plan : Sources.plan ⟨given, other⟩ = Sources.plan ⟨given, file⟩ :=
    Sources.plan_congr rfl fun key listed => alike.told_eq (List.mem_append_right _ listed)
  rw [request, request, read, readToo]
  simp only [bind, Except.bind, config, plan, here]

end Simulate

/-- The settings of a configuration, written as they are. -/
def Config.settings (config : Config) : List (String × Datum) :=
  Parameter.all.map (fun parameter => (parameter.name, .whole (config.get parameter))) ++
    [("wrap_x", config.wrapX), ("wrap_y", config.wrapY),
      ("command_set", .text config.vocabulary.name),
      ("initial_program", .text (config.initialOpcodes.elim Simulate.randomWord Opcode.label)),
      (randomLengthName, config.randomLength.toDatum)]

namespace Config

variable {config : Config}

theorem keys_settings (config : Config) :
    config.settings.map Prod.fst = Simulate.configKeys := rfl

theorem nodup_settings (config : Config) : (config.settings.map Prod.fst).Nodup := by
  rw [keys_settings]
  decide

theorem told_settings {key : String} {datum : Datum} (listed : (key, datum) ∈ config.settings) :
    Simulate.Sources.told ⟨.empty, config.settings⟩ key = some datum :=
  Datum.lookup_of_mem config.nodup_settings listed

/-- The settings of a proper configuration mean it, if its first foragers carry something. -/
theorem Proper.dictate_settings (proper : config.Proper)
    (carried : config.initialOpcodes ≠ some []) :
    Simulate.Sources.Dictate ⟨.empty, config.settings⟩ config := by
  obtain ⟨⟨wrapsX, wrapX⟩, ⟨wrapsY, wrapY⟩, length, randomLength⟩ := proper
  constructor
  · intro parameter
    refine ⟨.whole (config.get parameter), told_settings ?_, .number⟩
    exact List.mem_append_left _ (List.mem_map_of_mem parameter.mem_all)
  · exact ⟨wrapsX, config.wrapX, wrapX, told_settings (by simp [settings]), wrapX ▸ .value wrapsX⟩
  · exact ⟨wrapsY, config.wrapY, wrapY, told_settings (by simp [settings]), wrapY ▸ .value wrapsY⟩
  · refine ⟨.text config.vocabulary.name, told_settings (by simp [settings]), .name ?_⟩
    cases config.vocabulary <;> decide
  · refine ⟨.text (config.initialOpcodes.elim Simulate.randomWord Opcode.label),
      told_settings (by simp [settings]), ?_⟩
    cases opcodes : config.initialOpcodes with
    | none =>
        apply Setting.MeansOpcodes.drawn
        exact ⟨[], Simulate.randomWord.toList, [], by decide, by decide, by decide, by decide⟩
    | some opcodes =>
        apply Setting.MeansOpcodes.label
        rintro rfl
        exact carried opcodes
  · refine ⟨length, config.randomLength.toDatum, randomLength,
      told_settings (by simp [settings]), ?_⟩
    rw [randomLength]
    exact .number

end Config

namespace Simulate

/--
A valid configuration whose first foragers carry something, if it is said what, can be written
as a list of settings. Settings that mean it make it, whether they are given directly or by a
file. Settings of the file that are given directly too, and settings that no configuration and
no plan has, make no difference.
-/
theorem request_eq_of_dictate {config : Config} (valid : config.Valid) (proper : config.Proper)
    (carried : config.initialOpcodes ≠ some []) :
    (∃ file : List (String × Datum), (file.map Prod.fst).Nodup ∧
      Sources.Dictate ⟨.empty, file⟩ config) ∧
    (∀ given file, Sources.Dictate ⟨given, file⟩ config →
      Sources.config ⟨given, file⟩ = .ok config ∧
      ∀ disk, fileOf disk given = .ok file →
        request disk given = do
          let plan ← Sources.plan ⟨given, file⟩
          let picture ← pictureOf disk.cwd given plan
          return { config, plan, picture }) ∧
    (∀ given file other, Alike given configKeys file other →
      Sources.config ⟨given, other⟩ = Sources.config ⟨given, file⟩) ∧
    ∀ given file other disk elsewhere, fileOf disk given = .ok file →
      fileOf elsewhere given = .ok other → elsewhere.cwd = disk.cwd →
      Alike given (configKeys ++ planKeys) file other →
      request elsewhere given = request disk given := by
  refine ⟨⟨config.settings, config.nodup_settings, proper.dictate_settings carried⟩, ?_, ?_, ?_⟩
  · intro given file dictate
    have made := dictate.config_eq valid
    exact ⟨made, fun disk read => request_eq read made⟩
  · intro given file other alike
    exact Sources.config_congr fun key => alike.told_eq
  · intro given file other disk elsewhere read readToo here
    exact request_congr read readToo here

/-- An example: a narrow world, closed to the sides, with drawn opcodes from the basic ones. -/
def alley : Config :=
  { Config.default with
    width := 7
    wrapX := .truth false
    vocabulary := .basic
    initialOpcodes := none
    randomLength := .whole 3 }

/-- A file of settings for it, with a height that makes no sense and a setting that nothing has. -/
def alleyText : String :=
  "\x7b\"width\": \" 7\\n\", \"height\": \"tall\", \"initial_food_percent\": \"25\", " ++
  "\"initial_wall_percent\": 0, \"initial_population\": 1, \"initial_energy\": 1000, " ++
  "\"mutation_rate\": 50, \"regrowth_rate\": 40, \"energy_per_food\": 10, " ++
  "\"energy_per_step\": 1, \"reproduction_threshold\": 100, \"seed\": 0, \"wrap_x\": \" No\", " ++
  "\"wrap_y\": \"ON\", \"command_set\": \"Basic\", \"initial_program\": \"Random \", " ++
  "\"random_program_length\": \"3\", \"weather\": null\x7d"

def alleyFields : List (String × Datum) :=
  [("width", .text " 7\n"), ("height", .text "tall"), ("initial_food_percent", .text "25"),
    ("initial_wall_percent", .whole 0), ("initial_population", .whole 1),
    ("initial_energy", .whole 1000), ("mutation_rate", .whole 50), ("regrowth_rate", .whole 40),
    ("energy_per_food", .whole 10), ("energy_per_step", .whole 1),
    ("reproduction_threshold", .whole 100), ("seed", .whole 0), ("wrap_x", .text " No"),
    ("wrap_y", .text "ON"), ("command_set", .text "Basic"), ("initial_program", .text "Random "),
    ("random_program_length", .text "3"), ("weather", .null)]

/-- The file is named, and the height is given directly. -/
def alleyGiven : Given :=
  ⟨[("config", .text "settings"), ("height", .whole 100)], []⟩

def alleyDisk : Disk :=
  (Disk.bare ["home"]).put ["home", "settings"] (.bytes alleyText.toUTF8.data)

set_option maxRecDepth 20000 in
theorem read_alley : fileOf alleyDisk alleyGiven = .ok alleyFields := rfl

theorem dictate_alley : Sources.Dictate ⟨alleyGiven, alleyFields⟩ alley where
  parameter parameter := by
    have width : Setting.MeansWhole 7 (.text " 7\n") :=
      @Setting.MeansWhole.digits 7 [' '] ['\n'] (by decide) (by decide) (by decide)
    have food : Setting.MeansWhole 25 (.text "25") :=
      @Setting.MeansWhole.digits 25 [] [] (by decide) (by decide) (by decide)
    cases parameter with
    | width => exact ⟨_, rfl, width⟩
    | initialFoodPercent => exact ⟨_, rfl, food⟩
    | _ => exact ⟨_, rfl, .number⟩
  wrapX := ⟨false, .text " No", rfl, rfl, @Setting.MeansTruth.no "no" " No" (by decide)
    ⟨[' '], ['N', 'o'], [], by decide, by decide, by decide, by decide⟩⟩
  wrapY := ⟨true, .text "ON", rfl, rfl, @Setting.MeansTruth.yes "on" "ON" (by decide)
    ⟨[], ['O', 'N'], [], by decide, by decide, by decide, by decide⟩⟩
  vocabulary := ⟨.text "Basic", rfl, .name (by decide)⟩
  opcodes := ⟨.text "Random ", rfl, .drawn
    ⟨[], "Random".toList, [' '], by decide, by decide, by decide, by decide⟩⟩
  randomLength := ⟨3, .text "3", rfl, rfl,
    @Setting.MeansWhole.digits 3 [] [] (by decide) (by decide) (by decide)⟩

theorem request_eq_of_dictate_alley :
    alley.Valid ∧ alley.Proper ∧ alley.initialOpcodes ≠ some [] ∧
      fileOf alleyDisk alleyGiven = .ok alleyFields ∧
      Sources.Dictate ⟨alleyGiven, alleyFields⟩ alley ∧
      Sources.config ⟨alleyGiven, alleyFields⟩ = .ok alley ∧
      ∃ made, request alleyDisk alleyGiven = .ok made ∧ made.config = alley := by
  have valid : alley.Valid := ⟨fun parameter => by cases parameter <;> decide, rfl⟩
  have proper : alley.Proper := ⟨⟨false, rfl⟩, ⟨true, rfl⟩, ⟨3, rfl⟩⟩
  have carried : alley.initialOpcodes ≠ some [] := nofun
  obtain ⟨-, settled, -⟩ := request_eq_of_dictate valid proper carried
  obtain ⟨made, requested⟩ := settled alleyGiven alleyFields dictate_alley
  refine ⟨valid, proper, carried, read_alley, dictate_alley, made, ?_⟩
  rw [requested alleyDisk read_alley]
  exact ⟨_, rfl, rfl⟩

end Simulate

end Forage
