import Forage.Tape.Reader

/-!
# Labels

The label of a tape is its opcodes' names between commas. Reading takes such a text
apart again: what was joined by commas is split at them, and each name is that of
one opcode.
-/

namespace Forage

namespace Text

theorem splitOn_eq (separator : Char) (chars : List Char) :
    splitOn separator chars = chars.splitOn separator := by
  induction chars with
  | nil => rfl
  | cons c rest inductionHypothesis =>
      rw [List.splitOn_cons_eq_if_modifyHead, splitOn, inductionHypothesis]
      by_cases same : c = separator
      · simp [same]
      · simp only [same, beq_iff_eq, if_false]
        cases parted : rest.splitOn separator with
        | nil => exact absurd parted (List.splitOn_ne_nil separator rest)
        | cons part parts => rfl

/-- Parts without commas come back from a text in which they are joined by commas. -/
theorem commaParts_intercalate {parts : List (List Char)} (free : ∀ part ∈ parts, ',' ∉ part)
    (nonempty : parts ≠ []) :
    commaParts ([','].intercalate parts) =
      (parts.map trim).filter fun part => !part.isEmpty := by
  rw [commaParts, splitOn_eq, List.splitOn_intercalate ',' free nonempty]

end Text

namespace Opcode

theorem comma_notMem_name (opcode : Opcode) : ',' ∉ opcode.name.toList := by
  cases opcode <;> decide

theorem trim_name (opcode : Opcode) : Text.trim opcode.name.toList = opcode.name.toList := by
  cases opcode <;> decide +kernel

theorem upper_name (opcode : Opcode) : Text.upper opcode.name.toList = opcode.name.toList := by
  cases opcode <;> decide +kernel

theorem isEmpty_name (opcode : Opcode) : opcode.name.toList.isEmpty = false := by
  cases opcode <;> decide

theorem trimmed_names (opcodes : List Opcode) :
    ((opcodes.map fun opcode => opcode.name.toList).map Text.trim).filter
      (fun part => !part.isEmpty) = opcodes.map fun opcode => opcode.name.toList := by
  rw [List.map_map, List.filter_eq_self.mpr]
  · simp [Function.comp_def, trim_name]
  · intro part listed
    obtain ⟨opcode, -, rfl⟩ := List.mem_map.mp listed
    simp [trim_name, isEmpty_name]

theorem toList_label (opcodes : List Opcode) :
    (label opcodes).toList = [','].intercalate (opcodes.map fun opcode => opcode.name.toList) := by
  rw [label, String.toList_intercalate, List.map_map]
  rfl

end Opcode

namespace Tape

theorem opcodesOfNames_map_name (opcodes : List Opcode) :
    opcodesOfNames (opcodes.map Opcode.name) = .ok opcodes := by
  induction opcodes with
  | nil => rfl
  | cons opcode opcodes inductionHypothesis =>
      simp [opcodesOfNames, inductionHypothesis, Except.map]

theorem namesOf_label (opcodes : List Opcode) :
    namesOf (Opcode.label opcodes) = opcodes.map Opcode.name := by
  rw [namesOf, Opcode.toList_label]
  cases opcodes with
  | nil => rfl
  | cons opcode opcodes =>
      rw [Text.commaParts_intercalate]
      · rw [Opcode.trimmed_names, List.map_map]
        simp [Function.comp_def, Opcode.upper_name]
      · intro part listed
        obtain ⟨opcode, -, rfl⟩ := List.mem_map.mp listed
        exact opcode.comma_notMem_name
      · simp

/-- A label is read as the tape it was made from, unless nothing was on that tape. -/
theorem parse_label (opcodes : List Opcode) :
    parse (Opcode.label opcodes) =
      if opcodes = [] then .error .emptyTape else .ok (ofList opcodes) := by
  rw [parse, namesOf_label]
  cases opcodes with
  | nil => rfl
  | cons opcode opcodes =>
      have named := opcodesOfNames_map_name (opcode :: opcodes)
      rw [List.map_cons] at named ⊢
      simp only [named]
      rfl

end Tape

end Forage
