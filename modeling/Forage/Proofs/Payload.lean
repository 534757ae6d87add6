import Forage.Command
import Forage.Proofs.Documents
import Forage.Proofs.Outcome
import Forage.Proofs.Ranking
import Forage.Proofs.Recorded

/-!
# Summaries that are read back

A run writes its summary as bytes into a file, and what is read from any file with these bytes
is the summary again.
-/

namespace Forage

open Text (mark)

namespace Json

theorem plainLines_eq_self {chars : List Char} (plain : '\r' ∉ chars) : plainLines chars = chars := by
  induction chars with
  | nil => rfl
  | cons c rest inductionHypothesis =>
      rw [List.mem_cons, not_or] at plain
      unfold plainLines
      split
      · next same => exact absurd (List.cons.inj same).1.symm plain.1
      · next same => exact absurd (List.cons.inj same).1.symm plain.1
      · next same =>
        obtain ⟨rfl, rfl⟩ := List.cons.inj same
        rw [inductionHypothesis plain.2]
      · next same => exact absurd same (List.cons_ne_nil _ _)

theorem arePlain_of_forall {items : List Datum} (plain : ∀ item ∈ items, item.isPlain = true) :
    Datum.arePlain items = true := by
  induction items with
  | nil => rfl
  | cons item items inductionHypothesis =>
      rw [List.forall_mem_cons] at plain
      rw [Datum.arePlain, plain.1, inductionHypothesis plain.2, Bool.and_self]

theorem havePlain_of_forall {fields : List (String × Datum)}
    (names : ∀ field ∈ fields, mark ∉ field.1.toList)
    (plain : ∀ field ∈ fields, field.2.isPlain = true) : Datum.havePlain fields = true := by
  induction fields with
  | nil => rfl
  | cons field fields inductionHypothesis =>
      rw [List.forall_mem_cons] at names plain
      simp [Datum.havePlain, plain.1, names.1, inductionHypothesis names.2 plain.2]

theorem Legible.isPlain {room : Nat} {datum : Datum} (legible : Legible room datum) :
    datum.isPlain = true := by
  induction legible with
  | null => rfl
  | truth => rfl
  | whole => rfl
  | text plain => simpa [Datum.isPlain] using plain
  | list _ inductionHypothesis => exact arePlain_of_forall inductionHypothesis
  | record _ names _ inductionHypothesis => exact havePlain_of_forall names inductionHypothesis

theorem Legible.record_of_names {room : Nat} {fields : List (String × Datum)}
    (distinct : (fields.map Prod.fst).Nodup) (names : ∀ name ∈ fields.map Prod.fst, mark ∉ name.toList)
    (values : ∀ field ∈ fields, Legible room field.2) : Legible (room + 1) (.record fields) :=
  .record distinct (fun _ listed => names _ (List.mem_map_of_mem listed)) values

end Json

namespace Disk

variable {disk : Disk} {path : Path}

theorem readChars_of_bytes {chars : List Char} (lines : '\r' ∉ chars)
    (held : disk.read path = .ok (.bytes (chars.flatMap String.utf8EncodeChar).toArray)) :
    disk.readChars path = .ok chars := by
  simp only [readChars, held, bind, Except.bind, knownBytes, Text.decode_utf8,
    Json.plainLines_eq_self lines, pure, Except.pure]

theorem read_put {place : Place} (writable : disk.writable path = .ok place)
    (bytes : Array UInt8) : (disk.put place (.bytes bytes)).read path = .ok (.bytes bytes) := by
  obtain ⟨found, located, checked⟩ := bind_eq_ok_iff.mp writable
  split at checked
  · simp [bind, Except.bind, throw, throwThe, MonadExceptOf.throw] at checked
  · next file =>
    obtain rfl := pure_eq_ok_iff.mp checked
    have noted : Noted [found] disk (disk.put found (.bytes bytes)) := .put List.mem_cons_self bytes
    have onward := noted.grown.locate located
    have still : (disk.put found (.bytes bytes)).isDirectory found = false :=
      (Bool.not_eq_true _).mp file
    simp only [read, onward, still, bind, Except.bind, pure, Except.pure, Bool.false_eq_true,
      if_false, files_put_self]

end Disk

theorem Run.exists_read_of_writeText {disk rest : Disk} {path : Path} {text : String}
    (done : writeText path text disk = .ok () rest) :
    ∃ bytes, Text.encode Text.noByte (Text.points text.toList) = .ok bytes ∧
      rest.read path = .ok (.bytes bytes.toArray) := by
  unfold writeText at done
  split at done
  · simp at done
  next place writable =>
    split at done
    · next bytes encoded =>
      obtain ⟨-, rfl⟩ := EStateM.Result.ok.inj done
      exact ⟨bytes, encoded, Disk.read_put writable _⟩
    · simp at done

/-- A file that was written with a legible datum in it is read as that datum. -/
theorem Json.Legible.read_of_bytes {disk : Disk} {path : Path} {datum : Datum} {text : String}
    {bytes : List UInt8} {spacing : Spacing} (legible : Legible greatestDepth datum)
    (printed : print spacing datum = .ok text)
    (encoded : Text.encode Text.noByte (Text.points text.toList) = .ok bytes)
    (held : disk.read path = .ok (.bytes bytes.toArray)) :
    ∃ chars, disk.readChars path = .ok chars ∧ read chars = .ok datum := by
  obtain ⟨-, rfl⟩ := print_eq_ok_iff.mp printed
  have plain := legible.isPlain
  have whole := Text.encode_of_plain (notMem_write List.mem_cons_self spacing 0 datum plain) Text.noByte
  obtain rfl := Except.ok.inj (encoded.symm.trans whole)
  have lines := notMem_write (by simp [Text.foreign] : '\r' ∈ Text.foreign) spacing 0 datum plain
  exact ⟨_, Disk.readChars_of_bytes lines held, read_print legible printed⟩

theorem Config.mark_notMem_runId (config : Config) : mark ∉ config.runId.toList := by
  have number (value : Int) : mark ∉ (toString value).toList :=
    Text.notMem_toString (by decide) (by decide) value
  have whole : config.runId.toList =
      "seed".toList ++ (toString config.seed).toList ++ "_w".toList ++
        (toString config.width).toList ++ "_h".toList ++ (toString config.height).toList := by
    simp [runId, toString, String.toList_append]
  rw [whole]
  simp only [List.mem_append, number, or_false, not_or]
  decide

theorem Opcode.mark_notMem_label (opcodes : List Opcode) : mark ∉ (label opcodes).toList := by
  have named (opcode : Opcode) : mark ∉ opcode.name.toList := by
    cases opcode <;> decide
  refine Text.notMem_intercalate (by decide) ?_
  intro name listed
  obtain ⟨opcode, -, rfl⟩ := List.mem_map.mp listed
  exact named opcode

theorem Scene.mark_notMem_label {scene : Scene} {number : Int} {standing : Standing}
    (listed : standing ∈ scene.topPrograms number) : mark ∉ standing.label.toList := by
  have among : standing ∈ scene.ranking := by
    unfold topPrograms leading at listed
    split at listed <;> exact List.mem_of_mem_take listed
  obtain ⟨opcodes, -, rfl⟩ := mem_ranking.mp among
  exact Opcode.mark_notMem_label opcodes

namespace Summary

variable {summary : Summary}

theorem legible_metadata {room : Nat} (proper : summary.config.Proper)
    (steps : ∃ value, summary.steps = .whole value)
    (interval : ∃ value, summary.interval = .whole value) :
    Json.Legible (room + 1) summary.metadata := by
  obtain ⟨⟨wrapsX, wrapX⟩, ⟨wrapsY, wrapY⟩, length, randomLength⟩ := proper
  obtain ⟨steps, steps_eq⟩ := steps
  obtain ⟨interval, interval_eq⟩ := interval
  have vocabulary : mark ∉ summary.config.vocabulary.name.toList := by
    cases summary.config.vocabulary <;> decide
  have program : Json.Legible room
      (summary.config.initialOpcodes.elim .null fun opcodes => .text (Opcode.label opcodes)) := by
    cases summary.config.initialOpcodes with
    | none => exact .null
    | some opcodes => exact .text (Opcode.mark_notMem_label opcodes)
  have reason : Json.Legible room summary.terminationReason := by
    unfold terminationReason
    split
    · exact .text (by decide)
    · exact .null
  simp only [metadata, wrapX, wrapY, steps_eq, interval_eq, randomLength]
  refine .record_of_names ?_ ?_ ?_
  · simp only [List.map_cons, List.map_nil]
    decide +kernel
  · simp only [List.map_cons, List.map_nil]
    decide +kernel
  simp only [List.forall_mem_cons]
  refine ⟨.whole, .whole, .whole, .whole, .truth, .truth, .whole, .whole, .whole, .whole, .whole,
    .whole, .whole, .whole, .whole, .text vocabulary, program, .whole, .whole, reason, .whole,
    List.forall_mem_nil _⟩

theorem legible_toDatum (proper : summary.config.Proper)
    (steps : ∃ value, summary.steps = .whole value)
    (interval : ∃ value, summary.interval = .whole value)
    (named : summary.runId = summary.config.runId)
    (labels : ∀ standing ∈ summary.topPrograms, mark ∉ standing.label.toList) :
    Json.Legible Json.greatestDepth summary.toDatum := by
  have runId : mark ∉ summary.runId.toList := by
    rw [named]
    exact summary.config.mark_notMem_runId
  have ranked : Json.Legible 987 (.list (summary.topPrograms.map standing)) := by
    refine .list ?_
    intro item listed
    obtain ⟨row, among, rfl⟩ := List.mem_map.mp listed
    refine .record_of_names ?_ ?_ ?_
    · simp only [List.map_cons, List.map_nil]
      decide
    · simp only [List.map_cons, List.map_nil]
      decide
    · simp only [List.forall_mem_cons]
      exact ⟨.text (labels row among), .whole, List.forall_mem_nil _⟩
  refine .record_of_names ?_ ?_ ?_
  · simp only [List.map_cons, List.map_nil]
    decide +kernel
  · simp only [List.map_cons, List.map_nil]
    decide +kernel
  simp only [List.forall_mem_cons]
  exact ⟨.text runId, .whole, .whole, .whole, .truth, .whole, .whole, ranked,
    legible_metadata proper steps interval, List.forall_mem_nil _⟩

/--
A summary stands in a file that a run has written, and if all numbers and truth values were given as
such, then any file with the same bytes in it is read as the summary.
-/
structure Payload (summary : Summary) (plan : Plan) (rest : Disk) (bytes : List UInt8) : Prop where
  encoded : Text.encode Text.noByte
    (Text.points (Json.write .indented 0 summary.toDatum).toList) = .ok bytes
  written : rest.read (Plan.summaryPath plan.outDir summary.config.runId) = .ok (.bytes bytes.toArray)
  reads : summary.config.Proper → plan.Counted → ∀ (disk : Disk) path,
    disk.read path = .ok (.bytes bytes.toArray) →
    ∃ chars, disk.readChars path = .ok chars ∧ Json.read chars = .ok summary.toDatum

end Summary

namespace Run

variable {G : Type} [WordSource G] {plan : Plan} {world after : World G} {summary : Summary}
  {disk rest : Disk}

theorem Outcome.legible_summary (outcome : Outcome plan world disk summary after rest)
    (same : summary.config = world.config) (proper : summary.config.Proper)
    (counted : plan.Counted) :
    Json.Legible Json.greatestDepth summary.toDatum := by
  obtain ⟨number, -, made⟩ := bind_eq_ok_iff.mp outcome.finish.made
  have made := pure_eq_ok_iff.mp made
  apply Summary.legible_toDatum proper
  · rw [← made]
    exact counted.steps
  · rw [← made]
    exact counted.interval
  · rw [same, ← made]
  · intro standing listed
    rw [← made] at listed
    exact Scene.mark_notMem_label listed

theorem exists_payload (done : Run.perform plan world disk = .ok (summary, after) rest) :
    ∃ bytes, summary.Payload plan rest bytes := by
  obtain ⟨outcome⟩ := exists_outcome done
  obtain ⟨bytes, encoded, written⟩ := exists_read_of_writeText outcome.finish.text
  have same := config_perform done
  rw [← same] at written
  refine ⟨bytes, encoded, written, ?_⟩
  intro proper counted disk path copied
  have printed : Json.print .indented summary.toDatum = .ok (Json.write .indented 0 summary.toDatum) :=
    Json.print_eq_ok_iff.mpr ⟨outcome.finish.short, rfl⟩
  exact (outcome.legible_summary same proper counted).read_of_bytes printed encoded copied

end Run

end Forage
