import Forage.Command
import Forage.Proofs.Kinds
import Forage.Proofs.Recorded

/-!
# Malformed summaries

A summary is decoded as a valid configuration or refused, unless it is not even a record, lacks
its metadata, or has among them something that can be neither read nor refused as a whole number.
The readings are made in a fixed order, and the first that fails decides.
-/

namespace Forage

namespace Recorded

/-- Data that are not even refused where a whole number is wanted, and what they lead to. -/
inductive Unfit : Datum → Fault → Prop where
  | null : Unfit .null .wrongShape
  | list (items : List Datum) : Unfit (.list items) .wrongShape
  | record (fields : List (String × Datum)) : Unfit (.record fields) .wrongShape
  | infinite {number : Binary64} : number.IsInfinite → Unfit (.real number) .tooLarge

theorem kind_of_numeral {text : String} {fault : Fault} (failed : numeral text = .error fault) :
    fault.kind = .invalid := by
  unfold numeral at failed
  split at failed
  · simp at failed
  · exact Except.error.inj failed ▸ rfl
  · exact Except.error.inj failed ▸ rfl

theorem whole_eq_error {datum : Datum} {fault : Fault} (failed : whole datum = .error fault) :
    fault.kind = .invalid ∨ Unfit datum fault := by
  cases datum with
  | whole value => simp [whole] at failed
  | truth value => simp [whole] at failed
  | text text => exact .inl (kind_of_numeral failed)
  | real number =>
      rcases Setting.truncate_eq_error failed with rfl | ⟨infinite, rfl⟩
      · exact .inl rfl
      · exact .inr (.infinite infinite)
  | null => exact .inr (Except.error.inj failed ▸ .null)
  | list items => exact .inr (Except.error.inj failed ▸ .list items)
  | record fields => exact .inr (Except.error.inj failed ▸ .record fields)

theorem Unfit.whole_eq {datum : Datum} {fault : Fault} (unfit : Unfit datum fault) :
    whole datum = .error fault := by
  cases unfit with
  | infinite infinite => exact Setting.truncate_of_isInfinite infinite
  | null | list | record => rfl

theorem Unfit.failure {datum : Datum} {fault : Fault} (unfit : Unfit datum fault) :
    Halt.ofFault fault = .failure fault := by
  cases unfit <;> rfl

/-- What is read from the metadata of a summary. -/
inductive Reading where
  | parameter (parameter : Parameter)
  | vocabulary
  | opcodes
  | randomLength

namespace Reading

/-- The readings in the order in which they are made. -/
def all : List Reading :=
  Parameter.all.map .parameter ++ [.vocabulary, .opcodes, .randomLength]

/-- The datum that is to be read as a whole number, if there is one. -/
def number? (fields : List (String × Datum)) : Reading → Option Datum
  | .parameter wanted => Datum.lookup wanted.name fields
  | .randomLength => Datum.lookup randomLengthName fields
  | .vocabulary | .opcodes => none

/-- A reading of which only matters whether it succeeds. -/
def check (fields : List (String × Datum)) : Reading → Except Fault Unit
  | .parameter wanted => (Recorded.parameter fields wanted).map fun _ => ()
  | .vocabulary =>
      (Vocabulary.ofDatum ((Datum.lookup "command_set" fields).getD
        (.text Vocabulary.extended.name))).map fun _ => ()
  | .opcodes => (Recorded.opcodes fields).map fun _ => ()
  | .randomLength =>
      match Datum.lookup randomLengthName fields with
      | some datum => (whole datum).map fun _ => ()
      | none => .ok ()

variable {fields : List (String × Datum)}

theorem check_eq_error {reading : Reading} {fault : Fault}
    (failed : reading.check fields = .error fault) :
    fault.kind = .invalid ∨ ∃ datum, reading.number? fields = some datum ∧ Unfit datum fault := by
  cases reading with
  | vocabulary => exact .inl (Vocabulary.kind_of_ofDatum (map_eq_error_iff.mp failed))
  | opcodes =>
      have failed := map_eq_error_iff.mp failed
      unfold Recorded.opcodes at failed
      split at failed
      · simp at failed
      · exact .inl (Tape.kind_of_parse (map_eq_error_iff.mp failed))
  | parameter wanted =>
      have failed := map_eq_error_iff.mp failed
      unfold Recorded.parameter at failed
      split at failed
      · next datum found =>
          exact (whole_eq_error failed).imp_right fun unfit => ⟨datum, found, unfit⟩
      · simp at failed
  | randomLength =>
      rw [check] at failed
      split at failed
      · next datum found =>
          have failed := map_eq_error_iff.mp failed
          exact (whole_eq_error failed).imp_right fun unfit => ⟨datum, found, unfit⟩
      · simp at failed

theorem check_of_unfit {reading : Reading} {datum : Datum} {fault : Fault}
    (found : reading.number? fields = some datum) (unfit : Unfit datum fault) :
    reading.check fields = .error fault := by
  cases reading with
  | parameter wanted =>
      rw [check, Recorded.parameter, show Datum.lookup wanted.name fields = some datum from found]
      exact map_eq_error_iff.mpr unfit.whole_eq
  | randomLength =>
      rw [check, show Datum.lookup randomLengthName fields = some datum from found]
      exact map_eq_error_iff.mpr unfit.whole_eq
  | vocabulary | opcodes => simp [number?] at found

theorem draft_eq_error_iff {fault : Fault} :
    draft fields = .error fault ↔ all.forM (check fields) = .error fault := by
  unfold draft
  simp only [all, Parameter.all, List.map_cons, List.map_nil, List.cons_append, List.nil_append,
    List.forM_eq_forM, List.forM_cons, List.forM_nil, check]
  iterate 14 refine bind_eq_error_congr fun _ => ?_
  cases Datum.lookup randomLengthName fields with
  | none => simp [bind, Except.bind, pure, Except.pure]
  | some datum =>
      cases read : whole datum <;> simp [read, bind, Except.bind, pure, Except.pure, Except.map]

end Reading

/-- A fault that a summary leads to without being refused for it. -/
inductive Escapes : Datum → Fault → Prop where
  | shapeless {summary : Datum} : (∀ fields, summary ≠ .record fields) →
      Escapes summary .wrongShape
  | lacking {fields : List (String × Datum)} : Datum.lookup metadataName fields = none →
      Escapes (.record fields) .missingKey
  | number {fields metadata : List (String × Datum)} {reading : Reading} {datum : Datum}
      {fault : Fault} : Datum.lookup metadataName fields = some (.record metadata) →
      Reaches (Reading.check metadata) Reading.all reading →
      reading.number? metadata = some datum → Unfit datum fault →
      Escapes (.record fields) fault

/-- Metadata that can be read ask for a configuration whose parts are what they are meant to be. -/
theorem exists_proper_of_draft {metadata : List (String × Datum)} {draft : Draft}
    (read : Recorded.draft metadata = .ok draft) :
    ∃ config : Config, draft = .ofConfig config ∧ config.Proper := by
  unfold Recorded.draft at read
  iterate 14
    obtain ⟨_, -, read⟩ := bind_eq_ok_iff.mp read
  split at read
  · obtain ⟨length, counted, made⟩ := bind_eq_ok_iff.mp read
    obtain ⟨value, -, rfl⟩ := map_eq_ok_iff.mp counted
    exact ⟨_, (Except.ok.inj made).symm, ⟨_, rfl⟩, ⟨_, rfl⟩, _, rfl⟩
  · exact ⟨_, (Except.ok.inj read).symm, ⟨_, rfl⟩, ⟨_, rfl⟩, _, rfl⟩

/-- Metadata are refused unless the first reading that fails finds no number. -/
theorem escapes_of_draft {fields metadata : List (String × Datum)} {fault : Fault}
    (found : Datum.lookup metadataName fields = some (.record metadata))
    (failed : draft metadata = .error fault) :
    fault.kind = .invalid ∨ Escapes (.record fields) fault := by
  obtain ⟨reading, reached, fails⟩ :=
    forM_eq_error_iff.mp (Reading.draft_eq_error_iff.mp failed)
  refine (Reading.check_eq_error fails).imp_right ?_
  rintro ⟨datum, read, unfit⟩
  exact .number found reached read unfit

theorem Escapes.failure {summary : Datum} {fault : Fault} (escapes : Escapes summary fault) :
    Halt.ofFault fault = .failure fault := by
  cases escapes with
  | shapeless | lacking => rfl
  | number _ _ _ unfit => exact unfit.failure

theorem Escapes.ofSummary_eq {summary : Datum} {fault : Fault} (escapes : Escapes summary fault) :
    Config.ofSummary summary = .error fault := by
  cases escapes with
  | shapeless other =>
      unfold Config.ofSummary
      split
      · next fields => exact absurd rfl (other fields)
      · rfl
  | lacking absent => simp only [Config.ofSummary, absent]
  | number found reached read unfit =>
      have failed := Reading.draft_eq_error_iff.mpr
        (forM_eq_error_iff.mpr ⟨_, reached, Reading.check_of_unfit read unfit⟩)
      simp only [Config.ofSummary, found, failed]
      rfl

end Recorded

namespace Config

/--
A summary is decoded as a valid configuration or refused, with exactly these exceptions: one that
is no record, one without metadata, and one in which the first reading that fails finds null, a
list, a record or an infinity where a whole number is wanted. Those faults are let through.
-/
theorem ofSummary_refused (summary : Datum) :
    (∀ config, ofSummary summary = .ok config → config.Valid ∧ config.Proper) ∧
    (∀ fault, ofSummary summary = .error fault →
      fault.kind = .invalid ∨ Recorded.Escapes summary fault) ∧
    ∀ fault, Recorded.Escapes summary fault →
      ofSummary summary = .error fault ∧ Halt.ofFault fault = .failure fault := by
  refine ⟨?_, ?_, fun fault escapes => ⟨escapes.ofSummary_eq, escapes.failure⟩⟩
  · intro config decoded
    unfold ofSummary at decoded
    split at decoded
    · split at decoded
      · simp at decoded
      · obtain ⟨draft, read, made⟩ := bind_eq_ok_iff.mp decoded
        obtain ⟨asked, rfl, proper⟩ := Recorded.exists_proper_of_draft read
        have yields := Draft.toConfig_eq_ok_iff.mp made
        exact ⟨yields.valid, yields.eq_of_ofConfig ▸ proper⟩
      · simp at decoded
    · simp at decoded
  · intro fault failed
    unfold ofSummary at failed
    split at failed
    · split at failed
      · next absent => exact .inr (Except.error.inj failed ▸ .lacking absent)
      · next found =>
          rcases bind_eq_error_iff.mp failed with failed | ⟨draft, read, failed⟩
          · exact Recorded.escapes_of_draft found failed
          · obtain ⟨asked, rfl, -⟩ := Recorded.exists_proper_of_draft read
            exact .inl (Draft.kind_of_toConfig rfl (Draft.checkedOpcodes_ofConfig _) failed)
      · exact .inl (Except.error.inj failed ▸ rfl)
    · next other => exact .inr (Except.error.inj failed ▸ .shapeless other)

theorem ofSummary_refused_endless :
    (∃ config, ofSummary (.record [("metadata", .record [])]) = .ok config ∧ config.Valid) ∧
      ofSummary (.record [("metadata", .record [("width", .real (.infinity false))])]) =
        .error .tooLarge ∧
      Halt.ofFault .tooLarge = .failure .tooLarge := by
  have decoded : ofSummary (.record [("metadata", .record [])]) =
      .ok { Config.default with initialOpcodes := none } := rfl
  have endless : (Binary64.infinity false).IsInfinite := ⟨false, by decide⟩
  have reached : Reaches (Recorded.Reading.check [("width", .real (.infinity false))])
      Recorded.Reading.all (.parameter .width) := reaches_cons_iff.mpr (.inl rfl)
  have escapes : Recorded.Escapes
      (.record [("metadata", .record [("width", .real (.infinity false))])]) .tooLarge :=
    .number rfl reached rfl (.infinite endless)
  exact ⟨⟨_, decoded, ((ofSummary_refused _).1 _ decoded).1⟩, (ofSummary_refused _).2.2 _ escapes⟩

/-- A summary without metadata is not refused. -/
theorem ofSummary_keyless :
    ofSummary (.record []) = .error .missingKey ∧
      Halt.ofFault .missingKey = .failure .missingKey :=
  ⟨rfl, rfl⟩

end Config

end Forage
