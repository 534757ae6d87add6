import Forage.Proofs.Fallible
import Forage.Proofs.Label
import Forage.Proofs.Plain
import Forage.Run

/-!
# Places on a disk that is written to

Whatever is written goes to some places of the disk and leaves the files elsewhere as
they are, and no directory is ever taken away. A path that has led somewhere therefore
leads there still. The files of a plan have names of their own, so none of them lies
where another does.
-/

namespace Forage

namespace Disk

variable {disk before middle after : Disk} {place goal : Place} {places more : List Place}
  {path : Path} {part name : String} {parts : List String}

/-- A disk that was written to at some places, and on which directories may have been made. -/
structure Grown (places : List Place) (before after : Disk) : Prop where
  cwd : after.cwd = before.cwd
  directories : ∀ place, before.isDirectory place = true → after.isDirectory place = true
  files : ∀ place ∉ places, after.files[place]? = before.files[place]?

/-- A disk that was written to at some places, and nothing else. -/
structure Kept (places : List Place) (before after : Disk) : Prop where
  cwd : after.cwd = before.cwd
  directories : after.directories = before.directories
  files : ∀ place ∉ places, after.files[place]? = before.files[place]?

namespace Grown

theorem refl (places : List Place) (disk : Disk) : Grown places disk disk :=
  ⟨rfl, fun _ => id, fun _ _ => rfl⟩

theorem trans (first : Grown places before middle) (second : Grown places middle after) :
    Grown places before after where
  cwd := second.cwd.trans first.cwd
  directories place found := second.directories place (first.directories place found)
  files place apart := (second.files place apart).trans (first.files place apart)

theorem mono (grown : Grown places before after) (within : places ⊆ more) :
    Grown more before after where
  cwd := grown.cwd
  directories := grown.directories
  files place apart := grown.files place fun member => apart (within member)

end Grown

namespace Kept

theorem refl (places : List Place) (disk : Disk) : Kept places disk disk :=
  ⟨rfl, rfl, fun _ _ => rfl⟩

theorem trans (first : Kept places before middle) (second : Kept places middle after) :
    Kept places before after where
  cwd := second.cwd.trans first.cwd
  directories := second.directories.trans first.directories
  files place apart := (second.files place apart).trans (first.files place apart)

theorem mono (kept : Kept places before after) (within : places ⊆ more) :
    Kept more before after where
  cwd := kept.cwd
  directories := kept.directories
  files place apart := kept.files place fun member => apart (within member)

theorem grown (kept : Kept places before after) : Grown places before after where
  cwd := kept.cwd
  directories place found := by simpa only [isDirectory, kept.directories] using found
  files := kept.files

theorem symm (kept : Kept places before after) : Kept places after before :=
  ⟨kept.cwd.symm, kept.directories.symm, fun place apart => (kept.files place apart).symm⟩

theorem put (member : place ∈ places) (content : Content) :
    Kept places disk (disk.put place content) where
  cwd := rfl
  directories := rfl
  files other apart := by
    have distinct : place ≠ other := fun same => apart (same ▸ member)
    simp [Disk.put, Std.ExtTreeMap.getElem?_insert, distinct]

end Kept

/-- A disk on which bytes were written at some places, but no log anywhere. -/
structure Noted (places : List Place) (before after : Disk) : Prop extends Kept places before after where
  logs : ∀ {place : Place} {log : Log}, after.files[place]? = some (.log log) →
    before.files[place]? = some (.log log)

namespace Noted

theorem refl (places : List Place) (disk : Disk) : Noted places disk disk :=
  ⟨.refl places disk, id⟩

theorem trans (first : Noted places before middle) (second : Noted places middle after) :
    Noted places before after :=
  ⟨first.toKept.trans second.toKept, fun found => first.logs (second.logs found)⟩

theorem mono (noted : Noted places before after) (within : places ⊆ more) :
    Noted more before after :=
  ⟨noted.toKept.mono within, noted.logs⟩

theorem put (member : place ∈ places) (bytes : Array UInt8) :
    Noted places disk (disk.put place (.bytes bytes)) where
  toKept := .put member _
  logs := by
    intro other log found
    by_cases here : place = other
    · subst here
      simp [Disk.put] at found
    · simpa [Disk.put, Std.ExtTreeMap.getElem?_insert, here] using found

end Noted

@[simp]
theorem files_put_self (content : Content) : (disk.put place content).files[place]? = some content := by
  simp [put]

section Walk

theorem walk_cons_eq_ok_iff :
    disk.walk place (part :: parts) = .ok goal ↔
      disk.isDirectory place = true ∧ Path.byteCount part ≤ partLimit ∧
        disk.walk (Path.follow place part) parts = .ok goal := by
  by_cases directory : disk.isDirectory place = true
  · by_cases long : partLimit < Path.byteCount part
    · have : ¬ Path.byteCount part ≤ partLimit := Nat.not_le.mpr long
      simp [walk, directory, long, this]
    · simp [walk, directory, long, Nat.le_of_not_lt long]
  · simp only [walk, directory, if_false, Bool.false_eq_true, false_and, iff_false]
    split <;> simp

theorem walk_append_eq_ok_iff {rest : List String} :
    disk.walk place (parts ++ rest) = .ok goal ↔
      ∃ halt, disk.walk place parts = .ok halt ∧ disk.walk halt rest = .ok goal := by
  induction parts generalizing place with
  | nil => simp [walk]
  | cons part parts inductionHypothesis =>
      rw [List.cons_append, walk_cons_eq_ok_iff, inductionHypothesis]
      constructor
      · rintro ⟨directory, short, halt, first, second⟩
        exact ⟨halt, walk_cons_eq_ok_iff.mpr ⟨directory, short, first⟩, second⟩
      · rintro ⟨halt, first, second⟩
        obtain ⟨directory, short, first⟩ := walk_cons_eq_ok_iff.mp first
        exact ⟨directory, short, halt, first, second⟩

theorem getLast?_of_walk (walked : disk.walk place (parts ++ [name]) = .ok goal)
    (onward : name ≠ Path.back) : goal.getLast? = some name := by
  obtain ⟨halt, -, last⟩ := walk_append_eq_ok_iff.mp walked
  obtain ⟨-, -, arrived⟩ := walk_cons_eq_ok_iff.mp last
  obtain rfl := Except.ok.inj arrived
  rw [Path.follow, if_neg onward]
  exact List.getLast?_concat

theorem Grown.walk (grown : Grown places before after)
    (walked : before.walk place parts = .ok goal) : after.walk place parts = .ok goal := by
  induction parts generalizing place with
  | nil => exact walked
  | cons part parts inductionHypothesis =>
      obtain ⟨directory, short, rest⟩ := walk_cons_eq_ok_iff.mp walked
      apply walk_cons_eq_ok_iff.mpr
      exact ⟨grown.directories place directory, short, inductionHypothesis rest⟩

end Walk

section Locate

theorem locate_eq_ok_iff :
    disk.locate path = .ok goal ↔
      path.checkBytes = .ok () ∧ Path.byteCount path.text ≤ pathLimit ∧
        disk.walk (if path.isAbsolute then [] else disk.cwd) path.parts = .ok goal := by
  unfold locate
  cases path.checkBytes with
  | error fault => simp [bind, Except.bind]
  | ok checked =>
      by_cases long : pathLimit < Path.byteCount path.text
      · have : ¬ Path.byteCount path.text ≤ pathLimit := Nat.not_le.mpr long
        simp [bind, Except.bind, long, this, throw, throwThe, MonadExceptOf.throw]
      · simp [bind, Except.bind, long, Nat.le_of_not_lt long]

theorem Grown.locate (grown : Grown places before after) (located : before.locate path = .ok goal) :
    after.locate path = .ok goal := by
  obtain ⟨checked, short, walked⟩ := locate_eq_ok_iff.mp located
  apply locate_eq_ok_iff.mpr
  refine ⟨checked, short, ?_⟩
  rw [grown.cwd]
  exact grown.walk walked

theorem writable_eq_ok (writable : disk.writable path = .ok place) :
    disk.locate path = .ok place := by
  obtain ⟨found, located, rest⟩ := bind_eq_ok_iff.mp writable
  split at rest
  · simp [bind, Except.bind, throw, throwThe, MonadExceptOf.throw] at rest
  · obtain rfl := pure_eq_ok_iff.mp rest
    exact located

/-- Where a path may lead that names a log: along itself, or along its locator. -/
def LogLeads (disk : Disk) (path : Path) (place : Place) : Prop :=
  disk.locate path = .ok place ∨
    ∃ other, Log.writingPath path = .ok other ∧ disk.locate other = .ok place

theorem Grown.logLeads (grown : Grown places before after) (leads : before.LogLeads path place) :
    after.LogLeads path place := by
  rcases leads with located | ⟨other, named, located⟩
  · exact .inl (grown.locate located)
  · exact .inr ⟨other, named, grown.locate located⟩

theorem logLeads_of_logPlace (led : disk.logPlace path = .ok place) : disk.LogLeads path place := by
  have elsewhere (alternative : (Log.writingPath path >>= disk.writable) = .ok place) :
      disk.LogLeads path place := by
    obtain ⟨other, named, writable⟩ := bind_eq_ok_iff.mp alternative
    exact .inr ⟨other, named, writable_eq_ok writable⟩
  obtain ⟨_, -, rest⟩ := bind_eq_ok_iff.mp led
  dsimp only at rest
  split at rest
  · simp [bind, Except.bind, throw, throwThe, MonadExceptOf.throw] at rest
  · cases located : disk.locate path with
    | ok there =>
        simp only [located] at rest
        split at rest
        · exact .inl (writable_eq_ok rest)
        · exact elsewhere rest
    | error fault =>
        simp only [located] at rest
        split at rest
        · simp [throw, throwThe, MonadExceptOf.throw] at rest
        · next there => simp at there
        · exact elsewhere rest

theorem LogLeads.locate (leads : disk.LogLeads path place)
    (plain : Log.Locator.ofText? path.text = none) : disk.locate path = .ok place := by
  rcases leads with located | ⟨other, named, located⟩
  · exact located
  · simp only [Log.writingPath, plain, Except.ok.injEq] at named
    exact named ▸ located

end Locate

section Directories

theorem Grown.of_makeUnlessThere (made : before.makeUnlessThere path = .ok after) :
    Grown [] before after := by
  unfold makeUnlessThere at made
  cases result : before.makeDirectory path with
  | ok disk =>
      rw [result] at made
      obtain rfl := Except.ok.inj made
      obtain ⟨place, -, rest⟩ := bind_eq_ok_iff.mp result
      split at rest
      · simp [bind, Except.bind, throw, throwThe, MonadExceptOf.throw] at rest
      · obtain rfl := pure_eq_ok_iff.mp rest
        refine ⟨rfl, ?_, fun _ _ => rfl⟩
        intro other found
        simp only [isDirectory, Std.ExtTreeSet.contains_insert] at found ⊢
        simp [found]
  | error fault =>
      rw [result] at made
      split at made
      · simp at made
      · split at made
        · obtain rfl := Except.ok.inj made
          exact .refl [] before
        · simp at made
      · simp_all

theorem Grown.of_makeParts {root : String} (made : makeParts root parts before = .ok () after) :
    Grown [] before after := by
  induction parts generalizing after with
  | nil =>
      unfold makeParts at made
      split at made
      · next done =>
        obtain ⟨-, rfl⟩ := EStateM.Result.ok.inj made
        exact .of_makeUnlessThere done
      · simp at made
  | cons part parts inductionHypothesis =>
      unfold makeParts at made
      dsimp only at made
      split at made
      · next done =>
        obtain ⟨-, rfl⟩ := EStateM.Result.ok.inj made
        exact .of_makeUnlessThere done
      · split at made
        · simp at made
        · next first =>
          split at made
          · next done =>
            obtain ⟨-, rfl⟩ := EStateM.Result.ok.inj made
            exact (inductionHypothesis first).trans (.of_makeUnlessThere done)
          · simp at made
      · simp at made

theorem Grown.of_makeDirectories (made : makeDirectories path before = .ok () after) :
    Grown [] before after :=
  .of_makeParts made

end Directories

theorem getLast?_of_locate_child (located : disk.locate (path.child name) = .ok place)
    (onward : name ≠ Path.back) : place.getLast? = some name := by
  obtain ⟨-, -, walked⟩ := locate_eq_ok_iff.mp located
  exact getLast?_of_walk walked onward

end Disk

section Names

theorem Path.ofString_eq {text : String} (plain : '/' ∉ text.toList)
    (named : isPart text.toList = true) : Path.ofString text = ⟨"", [text]⟩ := by
  have whole : Text.splitOn '/' text.toList = [text.toList] := by
    rw [Text.splitOn_eq]
    exact List.splitOn_eq_singleton plain
  have relative : rootOf text.toList = "" := by
    cases chars : text.toList with
    | nil => rfl
    | cons first rest =>
        have : (first == '/') = false := by
          rw [chars] at plain
          simp only [List.mem_cons, not_or] at plain
          simpa using Ne.symm plain.1
        simp [rootOf, this]
  simp [ofString, whole, relative, named]

theorem Path.notMem_text {path : Path} {c : Char} (slash : c ≠ '/') (dot : c ≠ '.')
    (root : c ∉ path.root.toList) (parts : ∀ part ∈ path.parts, c ∉ part.toList) :
    c ∉ path.text.toList := by
  unfold text
  dsimp only
  split
  · simpa using dot
  · rw [String.toList_append, List.mem_append, not_or]
    exact ⟨root, Text.notMem_intercalate (by simpa using slash) parts⟩

theorem Log.Locator.ofText?_of_plain {text : String} (plain : ':' ∉ text.toList) :
    ofText? text = none := by
  unfold ofText?
  cases found : Text.cut ':' text.toList with
  | none => rfl
  | some parts =>
      obtain ⟨whole, -⟩ := Text.cut_eq_some found
      rw [whole] at plain
      simp at plain

/-- The name of the file that a summary is written to. -/
def Config.summaryName (config : Config) : String :=
  s!"{config.runId}.json"

theorem Config.toList_summaryName (config : Config) :
    config.summaryName.toList =
      "seed".toList ++ (toString config.seed).toList ++ "_w".toList ++
        (toString config.width).toList ++ "_h".toList ++ (toString config.height).toList ++
        ".json".toList := by
  simp [summaryName, runId, toString, String.toList_append]

namespace Plan

variable {disk : Disk} {outDir : Path} {place : Place} {config : Config}

/-- Neither name of a log is that of a locator, so the logs lie in the directory of the plan. -/
structure Local (plan : Plan) : Prop where
  ticks : Log.Locator.ofText? (tickLogPath plan.outDir).text = none
  foragers : Log.Locator.ofText? (foragerLogPath plan.outDir).text = none

/-- A directory without colons in its name is no locator, and so no log in it is either. -/
theorem local_of_plain {plan : Plan} (root : ':' ∉ plan.outDir.root.toList)
    (parts : ∀ part ∈ plan.outDir.parts, ':' ∉ part.toList) : plan.Local := by
  have inside {name : String} (plain : ':' ∉ name.toList) :
      ':' ∉ (((logsDir plan.outDir).child name).text).toList := by
    apply Path.notMem_text (by decide) (by decide)
    · exact root
    · simp only [logsDir, Path.child, List.forall_mem_append, List.forall_mem_singleton]
      exact ⟨⟨parts, by decide⟩, plain⟩
  constructor
  · exact Log.Locator.ofText?_of_plain (inside (by decide))
  · exact Log.Locator.ofText?_of_plain (inside (by decide))

theorem summaryPath_eq (outDir : Path) (config : Config) :
    summaryPath outDir config.runId = (runsDir outDir).child config.summaryName := by
  have number (value : Int) : '/' ∉ (toString value).toList :=
    Text.notMem_toString (by decide) (by decide) value
  have plain : '/' ∉ config.summaryName.toList := by
    rw [config.toList_summaryName]
    simp only [List.mem_append, number, or_false, not_or]
    decide
  have named : Path.isPart config.summaryName.toList = true := by
    rw [config.toList_summaryName]
    simp [Path.isPart]
  have single : Path.ofString s!"{config.runId}.json" = ⟨"", [config.summaryName]⟩ :=
    Path.ofString_eq plain named
  simp [summaryPath, single, Path.join, Path.isAbsolute, Path.child]

theorem getLast?_tickLog (located : disk.locate (tickLogPath outDir) = .ok place) :
    place.getLast? = some "population_log.parquet" :=
  Disk.getLast?_of_locate_child located (by decide)

theorem getLast?_foragerLog (located : disk.locate (foragerLogPath outDir) = .ok place) :
    place.getLast? = some "entity_log.parquet" :=
  Disk.getLast?_of_locate_child located (by decide)

theorem head?_getLast?_summary (located : disk.locate (summaryPath outDir config.runId) = .ok place) :
    place.getLast?.bind (fun name => name.toList.head?) = some 's' := by
  have first : config.summaryName.toList.head? = some 's' := by
    rw [config.toList_summaryName]
    rfl
  have onward : config.summaryName ≠ Path.back := by
    intro same
    rw [same] at first
    exact absurd first (by decide)
  rw [summaryPath_eq] at located
  rw [Disk.getLast?_of_locate_child located onward]
  exact first

variable {other : Place}

theorem tickLog_ne_foragerLog (ticks : disk.locate (tickLogPath outDir) = .ok place)
    (foragers : disk.locate (foragerLogPath outDir) = .ok other) : place ≠ other := by
  rintro rfl
  have same := (getLast?_tickLog ticks).symm.trans (getLast?_foragerLog foragers)
  exact absurd same (by decide)

theorem tickLog_ne_summary (ticks : disk.locate (tickLogPath outDir) = .ok place)
    (summary : disk.locate (summaryPath outDir config.runId) = .ok other) : place ≠ other := by
  rintro rfl
  have first := head?_getLast?_summary summary
  rw [getLast?_tickLog ticks] at first
  exact absurd first (by decide)

theorem foragerLog_ne_summary (foragers : disk.locate (foragerLogPath outDir) = .ok place)
    (summary : disk.locate (summaryPath outDir config.runId) = .ok other) : place ≠ other := by
  rintro rfl
  have first := head?_getLast?_summary summary
  rw [getLast?_foragerLog foragers] at first
  exact absurd first (by decide)

end Plan

end Names

end Forage
