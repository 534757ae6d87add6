import Forage.Proofs.Kinds
import Forage.Proofs.Label
import Mathlib.Data.List.DropRight

/-!
# How tapes are worded

A tape has many wordings besides its label: the case of the letters is free, and so are blanks
around the names and parts between the commas with nothing but blanks in them. All of them are
read as the tape. Any other text is refused, on account of the first of its parts that is neither
blank nor a name, or for want of names.
-/

namespace Forage

namespace Text

variable {part core before after : List Char}

def Blank (part : List Char) : Prop :=
  ∀ c ∈ part, isBlank c = true

instance (part : List Char) : Decidable (Blank part) :=
  decidable_of_iff (part.all isBlank = true) List.all_eq_true

/-- What is left of a part without the blanks before it and after it. -/
structure Core (part core : List Char) : Prop where
  framed : ∃ before after, Blank before ∧ Blank after ∧ part = before ++ core ++ after
  head : ∀ c, core.head? = some c → isBlank c = false
  last : ∀ c, core.getLast? = some c → isBlank c = false

theorem dropWhile_append_of_blank (blank : Blank before) (rest : List Char) :
    (before ++ rest).dropWhile isBlank = rest.dropWhile isBlank := by
  rw [List.dropWhile_append, List.dropWhile_eq_nil_iff.mpr blank]
  rfl

theorem rdropWhile_append_of_blank (blank : Blank after) (rest : List Char) :
    (rest ++ after).rdropWhile isBlank = rest.rdropWhile isBlank := by
  have back : Blank after.reverse := fun c listed => blank c (List.mem_reverse.mp listed)
  rw [List.rdropWhile, List.reverse_append, dropWhile_append_of_blank back]
  rfl

theorem trim_eq (part : List Char) :
    trim part = (part.dropWhile isBlank).rdropWhile isBlank := rfl

theorem trim_framed (blank : Blank before) (blankToo : Blank after) (part : List Char) :
    trim (before ++ part ++ after) = trim part := by
  rw [trim_eq, trim_eq, List.append_assoc, dropWhile_append_of_blank blank, List.dropWhile_append]
  split
  next nothing =>
    rw [List.isEmpty_iff.mp nothing, List.dropWhile_eq_nil_iff.mpr blankToo]
  next => exact rdropWhile_append_of_blank blankToo _

theorem core_trim (part : List Char) : Core part (trim part) := by
  refine ⟨⟨part.takeWhile isBlank, (part.dropWhile isBlank).rtakeWhile isBlank, ?_, ?_, ?_⟩, ?_, ?_⟩
  · exact fun c => List.mem_takeWhile_imp
  · exact fun c => List.mem_rtakeWhile_imp
  · rw [trim_eq, List.append_assoc, List.rdropWhile_append_rtakeWhile,
      List.takeWhile_append_dropWhile]
  · intro c first
    obtain ⟨rest, whole⟩ := List.rdropWhile_prefix isBlank (part.dropWhile isBlank)
    have left : (trim part ++ rest).head? = some c := by
      rw [List.head?_append, first]
      rfl
    have stopped := List.head?_dropWhile_not isBlank part
    rwa [← whole, ← trim_eq, left] at stopped
  · intro c last
    obtain ⟨nonempty, rfl⟩ := List.mem_getLast?_eq_getLast last
    exact Bool.not_eq_true _ ▸ List.rdropWhile_last_not isBlank _ nonempty

theorem trim_of_core (left : Core part core) : trim part = core := by
  obtain ⟨⟨before, after, blank, blankToo, rfl⟩, head, last⟩ := left
  rw [trim_framed blank blankToo, trim_eq]
  have front : core.dropWhile isBlank = core := by
    rw [List.dropWhile_eq_self_iff]
    intro some
    rw [Bool.not_eq_true]
    exact head _ (by simp [List.head?_eq_getElem?])
  rw [front, List.rdropWhile_eq_self_iff]
  intro some
  rw [Bool.not_eq_true]
  exact last _ (List.getLast?_eq_getLast_of_ne_nil some)

theorem trim_eq_nil_iff : trim part = [] ↔ Blank part := by
  constructor
  · intro nothing
    obtain ⟨before, after, blank, blankToo, whole⟩ := (core_trim part).framed
    rw [nothing, List.append_nil] at whole
    rw [whole, Blank, List.forall_mem_append]
    exact ⟨blank, blankToo⟩
  · intro blank
    have framed := trim_framed blank (List.forall_mem_nil _) []
    rwa [List.append_nil, List.append_nil] at framed

theorem upperChar_of_lt {c : Char} (ascii : c.toNat < 128) : upperChar c = [c.toUpper] := by
  have checked : ∀ code : Fin 128,
      upperChar (Char.ofNat code) = [(Char.ofNat code).toUpper] := by decide +kernel
  have same := checked ⟨c.toNat, ascii⟩
  rwa [Char.ofNat_toNat] at same

theorem lt_of_toUpper_lt {c : Char} (ascii : c.toUpper.toNat < 128) : c.toNat < 128 := by
  unfold Char.toUpper at ascii
  split at ascii
  next letter => exact Nat.lt_of_le_of_lt (UInt32.le_iff_toNat_le.mp letter.2) (by decide)
  next => exact ascii

theorem upper_of_ascii (ascii : ∀ c ∈ part.map Char.toUpper, c.toNat < 128) :
    upper part = part.map Char.toUpper := by
  rw [upper, List.map_eq_flatMap]
  apply List.flatMap_congr
  intro c listed
  exact upperChar_of_lt (lt_of_toUpper_lt (ascii _ (List.mem_map_of_mem listed)))

theorem comma_notMem_of_blank (blank : Blank part) : ',' ∉ part :=
  fun listed => absurd (blank ',' listed) (by decide)

theorem toUpper_of_isBlank {c : Char} (blank : isBlank c = true) : c.toUpper = c := by
  unfold Char.toUpper
  split
  next letter =>
    have first : 97 ≤ c.toNat := UInt32.le_iff_toNat_le.mp letter.1
    have last : c.toNat ≤ 122 := UInt32.le_iff_toNat_le.mp letter.2
    simp [isBlank, blankRanges] at blank
    omega
  next => rfl

end Text

namespace Opcode

variable {opcode : Opcode} {word : List Char}

theorem ascii_name (opcode : Opcode) : ∀ c ∈ opcode.name.toList, c.toNat < 128 := by
  have all : (opcode.name.toList.all fun c => decide (c.toNat < 128)) = true := by
    cases opcode <;> decide
  exact fun c listed => of_decide_eq_true (List.all_eq_true.mp all c listed)

theorem not_isBlank_name (opcode : Opcode) : ∀ c ∈ opcode.name.toList, Text.isBlank c = false := by
  have none : opcode.name.toList.any Text.isBlank = false := by cases opcode <;> decide
  exact fun c listed => Bool.not_eq_true _ ▸ List.any_eq_false.mp none c listed

theorem name_ne_nil (opcode : Opcode) : opcode.name.toList ≠ [] := by
  cases opcode <;> decide

/-! A word that is a name but for the case of its letters. -/

theorem cased_name (opcode : Opcode) :
    opcode.name.toList.map Char.toUpper = opcode.name.toList := by
  cases opcode <;> decide

theorem upper_of_cased (cased : word.map Char.toUpper = opcode.name.toList) :
    Text.upper word = opcode.name.toList := by
  rw [Text.upper_of_ascii, cased]
  rw [cased]
  exact opcode.ascii_name

theorem not_isBlank_of_cased (cased : word.map Char.toUpper = opcode.name.toList) {c : Char}
    (listed : c ∈ word) : Text.isBlank c = false := by
  have named : c.toUpper ∈ opcode.name.toList := cased ▸ List.mem_map_of_mem listed
  rw [← Bool.not_eq_true]
  intro blank
  rw [Text.toUpper_of_isBlank blank] at named
  exact absurd blank (Bool.not_eq_true _ ▸ opcode.not_isBlank_name c named)

theorem comma_notMem_of_cased (cased : word.map Char.toUpper = opcode.name.toList) : ',' ∉ word :=
  fun listed => opcode.comma_notMem_name (cased ▸ List.mem_map_of_mem listed)

theorem core_of_cased (cased : word.map Char.toUpper = opcode.name.toList)
    {before after : List Char} (blank : Text.Blank before) (blankToo : Text.Blank after) :
    Text.Core (before ++ word ++ after) word where
  framed := ⟨before, after, blank, blankToo, rfl⟩
  head _ first := not_isBlank_of_cased cased (List.mem_of_head? first)
  last _ last := not_isBlank_of_cased cased (List.mem_of_getLast? last)

end Opcode

namespace Tape

variable {part : List Char} {parts : List (List Char)} {opcode : Opcode} {opcodes : List Opcode}
  {text name : String} {names : List String} {tape : Tape} {fault : Fault}

/-- A part is not blank, and the name is what is left of it without blanks, in upper case. -/
def Shows (part : List Char) (name : String) : Prop :=
  ∃ core, core ≠ [] ∧ Text.Core part core ∧ String.ofList (Text.upper core) = name

/-- Parts that name opcodes one after the other, with blank parts among them. -/
inductive Wording : List (List Char) → List Opcode → Prop where
  | nil : Wording [] []
  | blank {part : List Char} {parts : List (List Char)} {opcodes : List Opcode} :
      Text.Blank part → Wording parts opcodes → Wording (part :: parts) opcodes
  | named {part : List Char} {parts : List (List Char)} {opcode : Opcode} {opcodes : List Opcode} :
      Shows part opcode.name → Wording parts opcodes → Wording (part :: parts) (opcode :: opcodes)

/-- After blank parts and parts that name opcodes comes one that shows another name. -/
def Stumbles (parts : List (List Char)) (name : String) : Prop :=
  ∃ before part after opcodes, parts = before ++ part :: after ∧ Wording before opcodes ∧
    Shows part name ∧ ∀ opcode, Opcode.name opcode ≠ name

/-- The names that parts show, without the blank ones. -/
def namesIn (parts : List (List Char)) : List String :=
  ((parts.map Text.trim).filter fun part => !part.isEmpty).map fun part =>
    String.ofList (Text.upper part)

/-- The first of the names that is not the name of an opcode. -/
def FirstForeign (names : List String) (name : String) : Prop :=
  ∃ (opcodes : List Opcode) (rest : List String),
    names = opcodes.map Opcode.name ++ name :: rest ∧ ∀ opcode, Opcode.name opcode ≠ name

theorem namesOf_eq (text : String) : namesOf text = namesIn (text.toList.splitOn ',') := by
  rw [namesOf, Text.commaParts, Text.splitOn_eq, namesIn]

theorem namesIn_append (parts others : List (List Char)) :
    namesIn (parts ++ others) = namesIn parts ++ namesIn others := by
  simp [namesIn]

theorem namesIn_cons_of_blank (blank : Text.Blank part) :
    namesIn (part :: parts) = namesIn parts := by
  simp [namesIn, Text.trim_eq_nil_iff.mpr blank]

theorem namesIn_cons_of_shows (shown : Shows part name) :
    namesIn (part :: parts) = name :: namesIn parts := by
  obtain ⟨core, some, left, rfl⟩ := shown
  simp [namesIn, Text.trim_of_core left, some]

theorem blank_or_shows (part : List Char) : Text.Blank part ∨ ∃ name, Shows part name := by
  by_cases nothing : Text.trim part = []
  · exact .inl (Text.trim_eq_nil_iff.mp nothing)
  · exact .inr ⟨_, _, nothing, Text.core_trim part, rfl⟩

theorem Shows.not_blank (shown : Shows part name) : ¬ Text.Blank part := by
  obtain ⟨core, some, left, -⟩ := shown
  rw [← Text.trim_eq_nil_iff, Text.trim_of_core left]
  exact some

theorem namesIn_eq_nil_iff : namesIn parts = [] ↔ ∀ part ∈ parts, Text.Blank part := by
  induction parts with
  | nil => simp [namesIn]
  | cons part parts inductionHypothesis =>
      rw [List.forall_mem_cons]
      rcases blank_or_shows part with blank | ⟨name, shown⟩
      · rw [namesIn_cons_of_blank blank, inductionHypothesis]
        exact (and_iff_right blank).symm
      · rw [namesIn_cons_of_shows shown]
        simp [shown.not_blank]

theorem wording_iff : Wording parts opcodes ↔ namesIn parts = opcodes.map Opcode.name := by
  constructor
  · intro wording
    induction wording with
    | nil => rfl
    | blank blank _ inductionHypothesis => rw [namesIn_cons_of_blank blank, inductionHypothesis]
    | named shown _ inductionHypothesis =>
        rw [namesIn_cons_of_shows shown, inductionHypothesis, List.map_cons]
  · intro same
    induction parts generalizing opcodes with
    | nil =>
        obtain rfl := List.map_eq_nil_iff.mp same.symm
        exact .nil
    | cons part parts inductionHypothesis =>
        rcases blank_or_shows part with blank | ⟨name, shown⟩
        · rw [namesIn_cons_of_blank blank] at same
          exact .blank blank (inductionHypothesis same)
        · rw [namesIn_cons_of_shows shown] at same
          obtain ⟨opcode, later, rfl, rfl, rest⟩ := List.map_eq_cons_iff.mp same.symm
          exact .named shown (inductionHypothesis rest.symm)

theorem stumbles_iff : Stumbles parts name ↔ FirstForeign (namesIn parts) name := by
  constructor
  · rintro ⟨before, part, after, opcodes, rfl, wording, shown, foreign⟩
    refine ⟨opcodes, namesIn after, ?_, foreign⟩
    rw [namesIn_append, wording_iff.mp wording, namesIn_cons_of_shows shown]
  · rintro ⟨opcodes, rest, same, foreign⟩
    induction parts generalizing opcodes with
    | nil => simp [namesIn] at same
    | cons part parts inductionHypothesis =>
        rcases blank_or_shows part with blank | ⟨first, shown⟩
        · rw [namesIn_cons_of_blank blank] at same
          obtain ⟨before, later, after, earlier, rfl, wording, stumbled⟩ :=
            inductionHypothesis opcodes same
          exact ⟨part :: before, later, after, earlier, rfl, .blank blank wording, stumbled⟩
        · rw [namesIn_cons_of_shows shown] at same
          cases opcodes with
          | nil =>
              obtain ⟨rfl, -⟩ := List.cons.inj same
              exact ⟨[], part, parts, [], rfl, .nil, shown, foreign⟩
          | cons opcode opcodes =>
              obtain ⟨rfl, others⟩ := List.cons.inj same
              obtain ⟨before, later, after, earlier, rfl, wording, stumbled⟩ :=
                inductionHypothesis opcodes others
              exact ⟨part :: before, later, after, opcode :: earlier, rfl, .named shown wording,
                stumbled⟩

theorem opcodesOfNames_eq_ok_iff : opcodesOfNames names = .ok opcodes ↔
    names = opcodes.map Opcode.name := by
  constructor
  · intro read
    induction names generalizing opcodes with
    | nil =>
        obtain rfl := Except.ok.inj read
        rfl
    | cons name names inductionHypothesis =>
        unfold opcodesOfNames at read
        split at read
        next => cases read
        next opcode found =>
          obtain ⟨later, others, rfl⟩ := map_eq_ok_iff.mp read
          rw [List.map_cons, Opcode.name_of_ofName? found, inductionHypothesis others]
  · rintro rfl
    exact opcodesOfNames_map_name opcodes

theorem opcodesOfNames_eq_error_iff : opcodesOfNames names = .error fault ↔
    ∃ name, fault = .unknownOpcode name ∧ FirstForeign names name := by
  constructor
  · intro failed
    induction names with
    | nil => cases failed
    | cons name names inductionHypothesis =>
        unfold opcodesOfNames at failed
        split at failed
        next unknown =>
          obtain rfl := Except.error.inj failed
          refine ⟨name, rfl, [], names, rfl, ?_⟩
          rintro opcode rfl
          simp at unknown
        next opcode found =>
          obtain ⟨later, rfl, opcodes, rest, rfl, foreign⟩ :=
            inductionHypothesis (map_eq_error_iff.mp failed)
          refine ⟨later, rfl, opcode :: opcodes, rest, ?_, foreign⟩
          rw [List.map_cons, Opcode.name_of_ofName? found]
          rfl
  · rintro ⟨name, rfl, opcodes, rest, rfl, foreign⟩
    induction opcodes with
    | nil =>
        have unknown : Opcode.ofName? name = none :=
          Option.eq_none_iff_forall_ne_some.mpr fun opcode found =>
            foreign opcode (Opcode.name_of_ofName? found)
        simp [opcodesOfNames, unknown]
    | cons opcode opcodes inductionHypothesis =>
        simp [opcodesOfNames, inductionHypothesis, Except.map]

theorem ofList_of_ne_nil (some : opcodes ≠ []) : ofList opcodes = ⟨opcodes, 0⟩ := by
  rw [ofList, startingAt, filled_of_ne_nil some, Int.zero_emod]

/-- What is read has the opcodes that the text words, in this order, and stands at the first. -/
theorem parse_eq_ok_iff : parse text = .ok tape ↔
    ∃ opcodes, opcodes ≠ [] ∧ Wording (text.toList.splitOn ',') opcodes ∧ tape = ⟨opcodes, 0⟩ := by
  rw [parse, namesOf_eq]
  constructor
  · intro read
    split at read
    next => cases read
    next names some =>
      obtain ⟨opcodes, named, rfl⟩ := map_eq_ok_iff.mp read
      have same := opcodesOfNames_eq_ok_iff.mp named
      have nonempty : opcodes ≠ [] := by
        rintro rfl
        exact some same
      exact ⟨opcodes, nonempty, wording_iff.mpr same, ofList_of_ne_nil nonempty⟩
  · rintro ⟨opcodes, nonempty, wording, rfl⟩
    have same := wording_iff.mp wording
    split
    next nothing =>
      rw [nothing] at same
      exact absurd (List.map_eq_nil_iff.mp same.symm) nonempty
    next =>
      rw [opcodesOfNames_eq_ok_iff.mpr same, ← ofList_of_ne_nil nonempty]
      rfl

/-- A text is refused for want of names, or on account of the first name that is none. -/
theorem parse_eq_error_iff : parse text = .error fault ↔
    fault = .emptyTape ∧ (∀ part ∈ text.toList.splitOn ',', Text.Blank part) ∨
      ∃ name, fault = .unknownOpcode name ∧ Stumbles (text.toList.splitOn ',') name := by
  simp only [← namesIn_eq_nil_iff, stumbles_iff]
  rw [parse, namesOf_eq]
  split
  next nothing =>
    rw [nothing]
    constructor
    · intro failed
      exact .inl ⟨(Except.error.inj failed).symm, rfl⟩
    · rintro (⟨rfl, -⟩ | ⟨name, -, opcodes, rest, same, -⟩)
      · rfl
      · simp at same
  next names some =>
    rw [map_eq_error_iff, opcodesOfNames_eq_error_iff]
    constructor
    · exact .inr
    · rintro (⟨-, nothing⟩ | stumbled)
      · exact absurd nothing some
      · exact stumbled

theorem Shows.unique {other : String} (shown : Shows part name) (again : Shows part other) :
    name = other := by
  obtain ⟨core, -, left, rfl⟩ := shown
  obtain ⟨_, -, leftToo, rfl⟩ := again
  rw [← Text.trim_of_core left, ← Text.trim_of_core leftToo]

theorem Wording.blank_or_named (wording : Wording parts opcodes) :
    ∀ part ∈ parts, Text.Blank part ∨ ∃ opcode, Shows part (Opcode.name opcode) := by
  induction wording with
  | nil => simp
  | blank blank _ inductionHypothesis =>
      exact List.forall_mem_cons.mpr ⟨.inl blank, inductionHypothesis⟩
  | named shown _ inductionHypothesis =>
      exact List.forall_mem_cons.mpr ⟨.inr ⟨_, shown⟩, inductionHypothesis⟩

theorem exists_parse_eq_error_iff : (∃ fault, parse text = .error fault) ↔
    (∀ part ∈ text.toList.splitOn ',', Text.Blank part) ∨
      ∃ part ∈ text.toList.splitOn ',', ¬ Text.Blank part ∧
        ∀ opcode, ¬ Shows part (Opcode.name opcode) := by
  constructor
  · rintro ⟨fault, failed⟩
    rcases parse_eq_error_iff.mp failed with ⟨-, blank⟩ | ⟨name, -, stumbles⟩
    · exact .inl blank
    · obtain ⟨before, part, after, opcodes, whole, -, shown, foreign⟩ := stumbles
      refine .inr ⟨part, ?_, shown.not_blank, fun opcode named => foreign opcode ?_⟩
      · rw [whole]
        exact List.mem_append_right _ List.mem_cons_self
      · exact named.unique shown
  · intro poor
    cases read : parse text with
    | error fault => exact ⟨fault, rfl⟩
    | ok tape =>
        obtain ⟨opcodes, some, wording, -⟩ := parse_eq_ok_iff.mp read
        rcases poor with blank | ⟨part, listed, written, unnamed⟩
        · rw [← namesIn_eq_nil_iff, wording_iff.mp wording, List.map_eq_nil_iff] at blank
          exact absurd blank some
        · rcases wording.blank_or_named part listed with blank | ⟨opcode, named⟩
          · exact absurd blank written
          · exact absurd named (unnamed opcode)

/--
Parts that spell opcodes: each name in any case and with blanks around it, and any number of
blank parts among them.
-/
inductive Spelling : List (List Char) → List Opcode → Prop where
  | nil : Spelling [] []
  | blank {part : List Char} {parts : List (List Char)} {opcodes : List Opcode} :
      Text.Blank part → Spelling parts opcodes → Spelling (part :: parts) opcodes
  | named {before word after : List Char} {parts : List (List Char)} {opcode : Opcode}
      {opcodes : List Opcode} :
      Text.Blank before → Text.Blank after → word.map Char.toUpper = opcode.name.toList →
      Spelling parts opcodes →
      Spelling ((before ++ word ++ after) :: parts) (opcode :: opcodes)

/-- The text of parts between commas. -/
def joined (parts : List (List Char)) : String :=
  String.ofList ([','].intercalate parts)

theorem joined_names (opcodes : List Opcode) :
    joined (opcodes.map fun opcode => opcode.name.toList) = Opcode.label opcodes := by
  rw [joined, ← Opcode.toList_label, String.ofList_toList]

namespace Spelling

theorem wording (spelling : Spelling parts opcodes) : Wording parts opcodes := by
  induction spelling with
  | nil => exact .nil
  | blank blank _ inductionHypothesis => exact .blank blank inductionHypothesis
  | named blank blankToo cased _ inductionHypothesis =>
      refine .named ⟨_, ?_, Opcode.core_of_cased cased blank blankToo, ?_⟩ inductionHypothesis
      · rintro rfl
        exact Opcode.name_ne_nil _ cased.symm
      · rw [Opcode.upper_of_cased cased, String.ofList_toList]

theorem comma_notMem (spelling : Spelling parts opcodes) : ∀ part ∈ parts, ',' ∉ part := by
  induction spelling with
  | nil => simp
  | blank blank _ inductionHypothesis =>
      exact List.forall_mem_cons.mpr ⟨Text.comma_notMem_of_blank blank, inductionHypothesis⟩
  | named blank blankToo cased _ inductionHypothesis =>
      refine List.forall_mem_cons.mpr ⟨?_, inductionHypothesis⟩
      simp only [List.mem_append, not_or]
      exact ⟨⟨Text.comma_notMem_of_blank blank, Opcode.comma_notMem_of_cased cased⟩,
        Text.comma_notMem_of_blank blankToo⟩

theorem plain (opcodes : List Opcode) :
    Spelling (opcodes.map fun opcode => opcode.name.toList) opcodes := by
  induction opcodes with
  | nil => exact .nil
  | cons opcode opcodes inductionHypothesis =>
      have none : Text.Blank [] := List.forall_mem_nil _
      have named := inductionHypothesis.named none none opcode.cased_name
      rwa [List.nil_append, List.append_nil] at named

theorem parse_joined (spelling : Spelling parts opcodes) (some : opcodes ≠ []) :
    parse (joined parts) = .ok ⟨opcodes, 0⟩ := by
  have nonempty : parts ≠ [] := by
    rintro rfl
    cases spelling
    exact some rfl
  refine parse_eq_ok_iff.mpr ⟨opcodes, some, ?_, rfl⟩
  rw [joined, String.toList_ofList, List.splitOn_intercalate ',' spelling.comma_notMem nonempty]
  exact spelling.wording

end Spelling

/-- A tape is read from its label, and from every text that is spelled like it. -/
structure Readable (opcodes : List Opcode) : Prop where
  label : parse (ofList opcodes).label = .ok ⟨opcodes, 0⟩
  plain : joined (opcodes.map fun opcode => opcode.name.toList) = (ofList opcodes).label ∧
    Spelling (opcodes.map fun opcode => opcode.name.toList) opcodes
  spelled : ∀ parts, Spelling parts opcodes → parse (joined parts) = .ok ⟨opcodes, 0⟩

theorem readable (some : opcodes ≠ []) : Readable opcodes := by
  have whole : joined (opcodes.map fun opcode => opcode.name.toList) = (ofList opcodes).label := by
    rw [joined_names, ofList_of_ne_nil some]
    rfl
  refine ⟨?_, ⟨whole, .plain opcodes⟩, fun parts spelling => spelling.parse_joined some⟩
  rw [← whole]
  exact (Spelling.plain opcodes).parse_joined some

/-- What is read from a text, or why nothing is. -/
structure Reading (text : String) : Prop where
  /-- A tape that is read is read again from its own label. -/
  again : ∀ tape, parse text = .ok tape → tape.opcodes ≠ [] ∧ parse tape.label = .ok tape
  invalid : ∀ fault, parse text = .error fault → fault.kind = .invalid
  refused_iff : (∃ fault, parse text = .error fault) ↔
    (∀ part ∈ text.toList.splitOn ',', Text.Blank part) ∨
      ∃ part ∈ text.toList.splitOn ',', ¬ Text.Blank part ∧
        ∀ opcode, ¬ Shows part (Opcode.name opcode)
  /-- A name that is none is told, and it is the first one. -/
  told : (∃ part ∈ text.toList.splitOn ',', ¬ Text.Blank part ∧
      ∀ opcode, ¬ Shows part (Opcode.name opcode)) →
    ∃ fault name, parse text = .error fault ∧ Stumbles (text.toList.splitOn ',') name ∧
      fault.message = "unknown command " ++ Text.quoted name ++ "; expected one of " ++
        ", ".intercalate (Opcode.all.map Opcode.name)

theorem reading (text : String) : Reading text where
  again tape read := by
    obtain ⟨opcodes, some, -, rfl⟩ := parse_eq_ok_iff.mp read
    refine ⟨some, ?_⟩
    rw [label, parse_label, if_neg some, ofList_of_ne_nil some]
  invalid _ := kind_of_parse
  refused_iff := exists_parse_eq_error_iff
  told := by
    rintro ⟨part, listed, written, unnamed⟩
    obtain ⟨fault, failed⟩ := exists_parse_eq_error_iff.mpr (.inr ⟨part, listed, written, unnamed⟩)
    rcases parse_eq_error_iff.mp failed with ⟨-, blank⟩ | ⟨name, rfl, stumbles⟩
    · exact absurd (blank part listed) written
    · exact ⟨_, name, failed, stumbles, rfl⟩

/--
The label of a tape, and whatever is spelled like it, is read as the tape; any text is read as a
tape that comes back from its label, or refused for what it words.
-/
theorem parse_label_exact : (∀ opcodes, opcodes ≠ [] → Readable opcodes) ∧ ∀ text, Reading text :=
  ⟨fun _ => readable, reading⟩

theorem parse_label_exact_hop : parse " move,, \t,sKip2 " = .ok ⟨[.move, .skip2], 0⟩ := by
  have none : Text.Blank [] := List.forall_mem_nil _
  have space : Text.Blank [' '] := by decide
  have tab : Text.Blank [' ', '\t'] := by decide
  have move : "move".toList.map Char.toUpper = Opcode.move.name.toList := by decide
  have skip2 : "sKip2".toList.map Char.toUpper = Opcode.skip2.name.toList := by decide
  have spelling := Spelling.named space none move
    (.blank none (.blank tab (.named none space skip2 .nil)))
  exact (parse_label_exact.1 _ (List.cons_ne_nil _ _)).spelled _ spelling

end Tape
end Forage
