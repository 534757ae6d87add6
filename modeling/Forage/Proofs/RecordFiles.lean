import Forage.Proofs.Places

/-!
# What record files hold

The bytes that were written to a record file are on the disk up to where the file left
off, and after that among those that wait. Whatever is done to one file leaves the
others alone, so a recorder whose files lie apart has in each of them its tallies through
the template of that file.
-/

namespace Forage

theorem Disk.overlay_size (held bytes : Array UInt8) :
    Disk.overlay held held.size bytes = held ++ bytes := by
  have beyond : held.extract (held.size + bytes.size) held.size = #[] := by
    apply Array.extract_empty_of_stop_le_start
    omega
  simp only [overlay, beyond]
  simp

namespace RecordFile

variable {file next : RecordFile} {disk middle after : Disk} {content : Option Content}
  {bytes more : List UInt8} {tallies : List Tally} {tally : Tally}

/-- What tells a record file from others, whatever is written to it. -/
def label (file : RecordFile) : Path × Template × Place :=
  (file.path, file.template, file.place)

/-- What was written to a file is on the disk, with the bytes that wait after it. -/
def Holds (file : RecordFile) (content : Option Content) (bytes : List UInt8) : Prop :=
  ∃ stored : Array UInt8, content = some (.bytes stored) ∧ file.offset = stored.size ∧
    stored.toList ++ file.waiting.toList = bytes

/-- A file holds tallies, each of them through its template. -/
def Records (file : RecordFile) (content : Option Content) (tallies : List Tally) : Prop :=
  ∃ lines, tallies.mapM (fun tally => file.template.render tally) = .ok lines ∧
    file.Holds content lines.flatten

/-- What an action on a file comes to that adds some bytes to what it holds. -/
structure Adds (disk : Disk) (file : RecordFile) (more : List UInt8) (after : Disk)
    (next : RecordFile) : Prop where
  label : next.label = file.label
  kept : Disk.Noted [file.place] disk after
  holds : ∀ {bytes}, file.Holds disk.files[file.place]? bytes →
    next.Holds after.files[file.place]? (bytes ++ more)

theorem place_eq (same : next.label = file.label) : next.place = file.place :=
  congrArg (fun label => label.2.2) same

theorem template_eq (same : next.label = file.label) : next.template = file.template :=
  congrArg (fun label => label.2.1) same

namespace Adds

theorem trans {first second : List UInt8} {between : RecordFile}
    (earlier : Adds disk file first middle between) (later : Adds middle between second after next) :
    Adds disk file (first ++ second) after next where
  label := later.label.trans earlier.label
  kept := by
    have same := place_eq earlier.label
    exact earlier.kept.trans (same ▸ later.kept)
  holds := by
    intro bytes holds
    have same := place_eq earlier.label
    rw [← List.append_assoc, ← same]
    apply later.holds
    rw [same]
    exact earlier.holds holds

theorem store (waiting : file.waiting = #[]) (more : Array UInt8) :
    Adds disk file more.toList (file.store disk more).1 (file.store disk more).2 where
  label := rfl
  kept := .put List.mem_cons_self _
  holds := by
    rintro bytes ⟨stored, content, offset, rfl⟩
    refine ⟨stored ++ more, ?_, ?_, ?_⟩
    · simp [RecordFile.store, Disk.bytesAt, content, offset, Disk.overlay_size]
    · simp [RecordFile.store, offset]
    · simp [RecordFile.store, waiting]

theorem flush (disk : Disk) (file : RecordFile) :
    Adds disk file [] (file.flush disk).1 (file.flush disk).2 := by
  unfold RecordFile.flush
  split
  · next empty => exact ⟨rfl, .refl _ disk, fun holds => by simpa using holds⟩
  · refine ⟨rfl, .put List.mem_cons_self _, ?_⟩
    rintro bytes ⟨stored, content, offset, rfl⟩
    refine ⟨stored ++ file.waiting, ?_, ?_, ?_⟩
    · simp [RecordFile.store, Disk.bytesAt, content, offset, Disk.overlay_size]
    · simp [RecordFile.store, offset]
    · simp [RecordFile.store]

theorem waiting_flush (disk : Disk) (file : RecordFile) : (file.flush disk).2.waiting = #[] := by
  unfold RecordFile.flush
  split
  · next empty => exact Array.isEmpty_iff.mp empty
  · rfl

theorem wait (disk : Disk) (file : RecordFile) (more : Array UInt8) :
    Adds disk file more.toList disk { file with waiting := file.waiting ++ more } where
  label := rfl
  kept := .refl _ disk
  holds := by
    rintro bytes ⟨stored, content, offset, rfl⟩
    exact ⟨stored, content, offset, by simp⟩

theorem take (disk : Disk) (file : RecordFile) (record : Array UInt8) :
    Adds disk file record.toList (file.take disk record).1 (file.take disk record).2 := by
  have flushed := flush disk file
  have empty := waiting_flush disk file
  unfold RecordFile.take
  split
  · exact wait disk file record
  · dsimp only
    split
    · exact flushed.trans (store empty record)
    · have later := wait (file.flush disk).1 (file.flush disk).2 record
      rw [empty, Array.empty_append] at later
      exact flushed.trans later

theorem close (disk : Disk) (file : RecordFile) :
    Adds disk file [] (file.close disk).1 (file.close disk).2 :=
  have flushed := flush disk file
  ⟨flushed.label, flushed.kept, flushed.holds⟩

end Adds

theorem write_eq_ok (written : file.write disk tally = .ok (after, next)) :
    ∃ line, file.template.render tally = .ok line ∧ Adds disk file line after next := by
  unfold write at written
  split at written
  · simp [bind, Except.bind, throw, throwThe, MonadExceptOf.throw] at written
  · obtain ⟨line, rendered, rest⟩ := bind_eq_ok_iff.mp written
    have taken := Adds.take disk file line.toArray
    rw [pure_eq_ok_iff.mp rest] at taken
    exact ⟨line, rendered, taken⟩

theorem Records.write (records : file.Records disk.files[file.place]? tallies)
    (written : file.write disk tally = .ok (after, next)) :
    next.Records after.files[next.place]? (tallies ++ [tally]) := by
  obtain ⟨line, rendered, adds⟩ := write_eq_ok written
  obtain ⟨lines, all, holds⟩ := records
  refine ⟨lines ++ [line], ?_, ?_⟩
  · rw [template_eq adds.label]
    exact mapM_concat_eq_ok all rendered
  · rw [place_eq adds.label]
    simpa using adds.holds holds

theorem Records.close (records : file.Records disk.files[file.place]? tallies) :
    ∃ lines, tallies.mapM (fun tally => file.template.render tally) = .ok lines ∧
      (file.close disk).1.files[file.place]? = some (.bytes lines.flatten.toArray) := by
  obtain ⟨lines, all, holds⟩ := records
  refine ⟨lines, all, ?_⟩
  obtain ⟨stored, content, -, same⟩ := (Adds.close disk file).holds holds
  have empty : (file.close disk).2.waiting = #[] := Adds.waiting_flush disk file
  rw [content, ← List.append_nil lines.flatten, ← same, empty]
  simp

end RecordFile

/-- An action on each file of a list, one after the other. -/
inductive Rounds (act : Disk → RecordFile → Disk → RecordFile → Prop) :
    Disk → List RecordFile → Disk → List RecordFile → Prop where
  | nil {disk : Disk} : Rounds act disk [] disk []
  | cons {disk middle after : Disk} {file next : RecordFile} {files others : List RecordFile} :
      act disk file middle next →
      Rounds act middle files after others →
      Rounds act disk (file :: files) after (next :: others)

namespace Rounds

variable {act : Disk → RecordFile → Disk → RecordFile → Prop} {disk after : Disk}
  {files others : List RecordFile}

/-- An action that leaves a file its label and every place but that of the file as it is. -/
def Confined (act : Disk → RecordFile → Disk → RecordFile → Prop) : Prop :=
  ∀ {disk file after next}, act disk file after next →
    next.label = file.label ∧ Disk.Noted [file.place] disk after

theorem label_eq (confined : Confined act) (rounds : Rounds act disk files after others) :
    others.map RecordFile.label = files.map RecordFile.label := by
  induction rounds with
  | nil => rfl
  | cons acted _ inductionHypothesis =>
      rw [List.map_cons, List.map_cons, (confined acted).1, inductionHypothesis]

theorem kept (confined : Confined act) (rounds : Rounds act disk files after others) :
    Disk.Noted (files.map RecordFile.place) disk after := by
  induction rounds with
  | nil => exact .refl _ _
  | cons acted _ inductionHypothesis =>
      apply ((confined acted).2.mono _).trans (inductionHypothesis.mono _)
      · simp
      · simp

/-- What the action brings about for one file it brings about for all, since they lie apart. -/
theorem forall_mem {P Q : RecordFile → Option Content → Prop} (confined : Confined act)
    (brings : ∀ {disk file after next}, act disk file after next →
      P file disk.files[file.place]? → Q next after.files[next.place]?)
    (rounds : Rounds act disk files after others)
    (distinct : (files.map RecordFile.place).Nodup)
    (before : ∀ file ∈ files, P file disk.files[file.place]?) :
    ∀ file ∈ others, Q file after.files[file.place]? := by
  induction rounds with
  | nil => simp
  | @cons disk middle after file next files others acted rest inductionHypothesis =>
      obtain ⟨same, kept⟩ := confined acted
      rw [List.map_cons, List.nodup_cons] at distinct
      rw [List.forall_mem_cons] at before ⊢
      constructor
      · -- The rounds of the other files leave what was brought about for this one.
        have apart : next.place ∉ files.map RecordFile.place := by
          rw [RecordFile.place_eq same]
          exact distinct.1
        rw [(rest.kept confined).files _ apart]
        exact brings acted before.1
      · apply inductionHypothesis distinct.2
        intro other listed
        have apart : other.place ∉ [file.place] := by
          intro here
          rw [List.mem_singleton] at here
          exact distinct.1 (here ▸ List.mem_map_of_mem listed)
        rw [kept.files _ apart]
        exact before.2 other listed

end Rounds

end Forage
