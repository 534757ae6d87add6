import Forage.Command.Simulate
import Forage.Proofs.Plain
import Forage.Proofs.Wording

/-!
# What settings mean

A setting can say the same in several ways. A whole number is said by the number or by its
digits, a truth value by itself or by a word, and words may be written in letters of either
case with blanks around them. Each way of saying something is read as what it says.
-/

namespace Forage

namespace Text

variable {before after core part word : List Char} {c : Char}

theorem lowerChar_of_lt (ascii : c.toNat < 128) : lowerChar c = [c.toLower] := by
  have checked : ∀ code : Fin 128,
      lowerChar (Char.ofNat code) = [(Char.ofNat code).toLower] := by decide +kernel
  have same := checked ⟨c.toNat, ascii⟩
  rwa [Char.ofNat_toNat] at same

theorem lt_of_toLower_lt (ascii : c.toLower.toNat < 128) : c.toNat < 128 := by
  unfold Char.toLower at ascii
  split at ascii
  next letter => exact Nat.lt_of_le_of_lt (UInt32.le_iff_toNat_le.mp letter.2) (by decide)
  next => exact ascii

theorem lowerFrom_of_ascii (ascii : ∀ c ∈ part, c.toNat < 128) :
    lowerFrom before part = part.map Char.toLower := by
  induction part generalizing before with
  | nil => rfl
  | cons c part inductionHypothesis =>
      obtain ⟨here, others⟩ := List.forall_mem_cons.mp ascii
      have plain : c ≠ 'Σ' := by
        rintro rfl
        exact absurd here (by decide)
      rw [lowerFrom, if_neg plain, lowerChar_of_lt here, inductionHypothesis others]
      rfl

theorem toLower_of_isBlank (blank : isBlank c = true) : c.toLower = c := by
  unfold Char.toLower
  split
  next letter =>
    have first : 65 ≤ c.toNat := UInt32.le_iff_toNat_le.mp letter.1
    have last : c.toNat ≤ 90 := UInt32.le_iff_toNat_le.mp letter.2
    simp [isBlank, blankRanges] at blank
    omega
  next => rfl

/-- Characters that all belong to the plain alphabet, with no blank among them. -/
def Solid (word : List Char) : Prop :=
  ∀ c ∈ word, c.toNat < 128 ∧ isBlank c = false

instance (word : List Char) : Decidable (Solid word) :=
  List.decidableBAll _ word

/-- A text means a word: it is the word in letters of either case, with blanks around it. -/
def Means (word text : String) : Prop :=
  ∃ before core after, Blank before ∧ Blank after ∧
    core.map Char.toLower = word.toList ∧ text.toList = before ++ core ++ after

theorem trim_between (blank : Blank before) (blankToo : Blank after)
    (solid : ∀ c ∈ core, isBlank c = false) : trim (before ++ core ++ after) = core :=
  trim_of_core {
    framed := ⟨before, after, blank, blankToo, rfl⟩
    head := fun c first => solid c (List.mem_of_head? first)
    last := fun c last => solid c (List.mem_of_getLast? last) }

theorem isBlank_eq_false_of_cased (solid : Solid word) (cased : core.map Char.toLower = word)
    (listed : c ∈ core) : isBlank c = false := by
  rw [← Bool.not_eq_true]
  intro blank
  have lowered : c.toLower ∈ word := cased ▸ List.mem_map_of_mem listed
  rw [toLower_of_isBlank blank] at lowered
  exact absurd blank (Bool.not_eq_true _ ▸ (solid c lowered).2)

theorem lower_of_cased (solid : Solid word) (cased : core.map Char.toLower = word) :
    lower core = word := by
  rw [lower, lowerFrom_of_ascii, cased]
  intro c listed
  have lowered : c.toLower ∈ word := cased ▸ List.mem_map_of_mem listed
  exact lt_of_toLower_lt (solid _ lowered).1

theorem plain_of_means {word text : String} (solid : Solid word.toList) (meant : Means word text) :
    Setting.plain text = word := by
  obtain ⟨before, core, after, blank, blankToo, cased, whole⟩ := meant
  have bare : ∀ c ∈ core, isBlank c = false := fun c => isBlank_eq_false_of_cased solid cased
  rw [Setting.plain, whole, trim_between blank blankToo bare, lower_of_cased solid cased,
    String.ofList_toList]

theorem digitValue?_of_isDigit (digit : c.isDigit = true) :
    digitValue? c = some (c.toNat - 48) := by
  have checked : ∀ value : Fin 10,
      digitValue? (Char.ofNat (48 + value)) = some (value : Nat) := by decide +kernel
  obtain ⟨least, greatest⟩ : 48 ≤ c.toNat ∧ c.toNat ≤ 57 := Char.isDigit_iff_toNat.mp digit
  have same := checked ⟨c.toNat - 48, by omega⟩
  rwa [Nat.add_sub_cancel' least, Char.ofNat_toNat] at same

theorem digitValues?_of_isDigit (digits : ∀ c ∈ part, c.isDigit = true) :
    digitValues? part = some (part.map fun c => c.toNat - 48) := by
  induction part with
  | nil => rfl
  | cons c part inductionHypothesis =>
      obtain ⟨here, others⟩ := List.forall_mem_cons.mp digits
      have rest := inductionHypothesis others
      have value := digitValue?_of_isDigit here
      cases part with
      | nil => simp [digitValues?, value]
      | cons next part =>
          have apart : next ≠ '_' := by
            rintro rfl
            exact absurd (others '_' List.mem_cons_self) (by decide)
          simp [digitValues?, value, apart, rest]

theorem readWhole_of_takeSign {chars : List Char} {negative : Bool}
    (signed : takeSign (chars.dropWhile isNumberBlank) = (negative, part))
    (digits : ∀ c ∈ part, c.isDigit = true) (nonempty : part ≠ []) (short : part.length ≤ digitLimit) :
    readWhole chars =
      .ok (if negative then -(Nat.ofDigitChars 10 part 0 : Nat) else Nat.ofDigitChars 10 part 0) := by
  have numerals : ∀ c ∈ part, isNumeral c = true := by
    intro c listed
    simp [isNumeral, isDecimalDigit, digitValue?_of_isDigit (digits c listed)]
  have front : part.takeWhile isNumeral = part := List.takeWhile_eq_self_iff.mpr numerals
  have rest : part.dropWhile isNumeral = [] := List.dropWhile_eq_nil_iff.mpr numerals
  have sum : ofDecimals (part.map fun c => c.toNat - 48) = Nat.ofDigitChars 10 part 0 := by
    rw [ofDecimals, List.foldl_map, Nat.ofDigitChars_eq_foldl]
    rfl
  have few : ¬digitLimit < (part.map fun c => c.toNat - 48).length := by
    rw [List.length_map]
    omega
  rw [readWhole, signed]
  simp only [front, rest, digitValues?_of_isDigit digits]
  cases values : part.map fun c => c.toNat - 48 with
  | nil => exact absurd (List.map_eq_nil_iff.mp values) nonempty
  | cons value values' =>
      rw [values] at few sum
      simp only [few, sum, if_false, List.all_nil, if_true]

theorem not_isNumberBlank_of_isDigit (digit : c.isDigit = true) : isNumberBlank c = false := by
  obtain ⟨least, greatest⟩ : 48 ≤ c.toNat ∧ c.toNat ≤ 57 := Char.isDigit_iff_toNat.mp digit
  simp [isNumberBlank, isBlank, blankRanges]
  omega

theorem takeSign_of_isDigit (digits : ∀ c ∈ part, c.isDigit = true) :
    takeSign (part.dropWhile isNumberBlank) = (false, part) := by
  cases part with
  | nil => rfl
  | cons c part =>
      have digit := digits c List.mem_cons_self
      have bare := not_isNumberBlank_of_isDigit digit
      rw [List.dropWhile_cons_of_neg (by simp [bare])]
      unfold takeSign
      split
      · next same =>
          obtain ⟨rfl, -⟩ := List.cons.inj same
          exact absurd digit (by decide)
      · next same =>
          obtain ⟨rfl, -⟩ := List.cons.inj same
          exact absurd digit (by decide)
      · rfl

/-- A whole number is read from its own digits, if there are not too many of them. -/
theorem readWhole_toString {value : Int}
    (short : (Nat.toDigits 10 value.natAbs).length ≤ digitLimit) :
    readWhole (toString value).toList = .ok value := by
  have digits (number : Nat) : ∀ c ∈ Nat.toDigits 10 number, c.isDigit = true :=
    fun c => Nat.isDigit_of_mem_toDigits (by decide) (by decide)
  have number (number : Nat) : Nat.ofDigitChars 10 (Nat.toDigits 10 number) 0 = number :=
    Nat.ofDigitChars_toDigits (by decide) (by decide)
  cases value with
  | ofNat count =>
      rw [toList_toString_ofNat, readWhole_of_takeSign (takeSign_of_isDigit (digits count))
        (digits count) Nat.toDigits_ne_nil short, number]
      rfl
  | negSucc count =>
      have signed : takeSign (('-' :: Nat.toDigits 10 (count + 1)).dropWhile isNumberBlank) =
          (true, Nat.toDigits 10 (count + 1)) := by
        rw [List.dropWhile_cons_of_neg (by decide)]
        rfl
      rw [toList_toString_negSucc,
        readWhole_of_takeSign signed (digits _) Nat.toDigits_ne_nil short, number]
      rfl

theorem isBlank_eq_false_of_mem_toString {value : Int} (listed : c ∈ (toString value).toList) :
    isBlank c = false := by
  rw [← Bool.not_eq_true]
  intro blank
  have digit : c.isDigit = false := by
    rw [← Bool.not_eq_true]
    intro digit
    obtain ⟨least, greatest⟩ : 48 ≤ c.toNat ∧ c.toNat ≤ 57 := Char.isDigit_iff_toNat.mp digit
    simp [isBlank, blankRanges] at blank
    omega
  have sign : c ≠ '-' := by
    rintro rfl
    exact absurd blank (by decide)
  exact notMem_toString digit sign value listed

end Text

namespace Opcode

theorem solid_name (opcode : Opcode) : Text.Solid opcode.name.toList :=
  fun c listed => ⟨opcode.ascii_name c listed, opcode.not_isBlank_name c listed⟩

theorem solid_label (opcodes : List Opcode) : Text.Solid (label opcodes).toList := by
  intro c listed
  by_contra hollow
  refine Text.notMem_intercalate ?_ ?_ listed
  · intro comma
    obtain rfl := List.mem_singleton.mp comma
    exact hollow (by decide)
  · intro name named among
    obtain ⟨opcode, -, rfl⟩ := List.mem_map.mp named
    exact hollow (opcode.solid_name c among)

theorem plain_label (opcodes : List Opcode) :
    Setting.plain (label opcodes) = String.ofList ((label opcodes).toList.map Char.toLower) := by
  have solid := solid_label opcodes
  have trimmed := Text.trim_between (List.forall_mem_nil _) (List.forall_mem_nil _)
    fun c listed => (solid c listed).2
  rw [List.nil_append, List.append_nil] at trimmed
  rw [Setting.plain, trimmed, Text.lower, Text.lowerFrom_of_ascii fun c listed =>
    (solid c listed).1]

theorem exists_toList_label (opcode : Opcode) (opcodes : List Opcode) :
    ∃ rest, (label (opcode :: opcodes)).toList = opcode.name.toList ++ rest := by
  rw [toList_label]
  cases opcodes with
  | nil => exact ⟨[], by simp⟩
  | cons next opcodes =>
      exact ⟨[','] ++ [','].intercalate ((next :: opcodes).map fun opcode => opcode.name.toList),
        by simp [List.intercalate]⟩

/-- No label is the word for opcodes that are drawn: none begins as that word does. -/
theorem plain_label_ne (opcodes : List Opcode) :
    Setting.plain (label opcodes) ≠ Simulate.randomWord := by
  intro same
  have letters : (label opcodes).toList.map Char.toLower = Simulate.randomWord.toList := by
    rw [← same, plain_label, String.toList_ofList]
  cases opcodes with
  | nil => exact absurd letters (by decide)
  | cons opcode opcodes =>
      obtain ⟨rest, whole⟩ := exists_toList_label opcode opcodes
      rw [whole, List.map_append] at letters
      have front := congrArg (List.take 2) letters
      cases opcode <;> exact absurd front (by simp [name]; decide)

end Opcode

namespace Setting

variable {key : String} {datum : Datum}

/-- The data that mean a whole number: the number, and its digits with blanks around them. -/
inductive MeansWhole (value : Int) : Datum → Prop where
  | number : MeansWhole value (.whole value)
  | digits {before after : List Char} (blank : Text.Blank before) (blankToo : Text.Blank after)
      (short : (Nat.toDigits 10 value.natAbs).length ≤ Text.digitLimit) :
      MeansWhole value (.text (String.ofList (before ++ (toString value).toList ++ after)))

/-- The data that mean a truth value: the value itself, and the words for it. -/
inductive MeansTruth : Bool → Datum → Prop where
  | value (value : Bool) : MeansTruth value (.truth value)
  | yes {word text : String} (known : word ∈ trueWords) (meant : Text.Means word text) :
      MeansTruth true (.text text)
  | no {word text : String} (known : word ∈ falseWords) (meant : Text.Means word text) :
      MeansTruth false (.text text)

/-- The data that mean a vocabulary: its name in letters of either case. -/
inductive MeansVocabulary (vocabulary : Vocabulary) : Datum → Prop where
  | name {text : String} (cased : text.toList.map Char.toLower = vocabulary.name.toList) :
      MeansVocabulary vocabulary (.text text)

/-- The data that mean the opcodes of the first foragers: a label, or the word for drawn ones. -/
inductive MeansOpcodes : Option (List Opcode) → Datum → Prop where
  | drawn {text : String} (meant : Text.Means Simulate.randomWord text) :
      MeansOpcodes none (.text text)
  | label {opcodes : List Opcode} (carried : opcodes ≠ []) :
      MeansOpcodes (some opcodes) (.text (Opcode.label opcodes))

theorem MeansWhole.whole_eq {value : Int} (meant : MeansWhole value datum) :
    whole key datum = .ok value := by
  cases meant with
  | number => rfl
  | digits blank blankToo short =>
      rw [whole, String.toList_ofList,
        Text.trim_between blank blankToo fun c => Text.isBlank_eq_false_of_mem_toString,
        Text.readWhole_toString short]

theorem MeansTruth.truth_eq {value : Bool} (meant : MeansTruth value datum) :
    truth key datum = .ok value := by
  cases meant with
  | value => rfl
  | yes known meant =>
      have solid : ∀ word ∈ trueWords, Text.Solid word.toList := by decide
      rw [truth, Text.plain_of_means (solid _ known) meant]
      simp [known]
  | no known meant =>
      have solid : ∀ word ∈ falseWords, Text.Solid word.toList := by decide
      have other : ∀ word ∈ falseWords, trueWords.contains word = false := by decide
      rw [truth, Text.plain_of_means (solid _ known) meant, other _ known]
      simp [known]

theorem MeansVocabulary.vocabulary_eq {vocabulary : Vocabulary}
    (meant : MeansVocabulary vocabulary datum) :
    text key datum >>= Simulate.vocabularyOf = .ok vocabulary := by
  obtain ⟨cased⟩ := meant
  have solid : Text.Solid vocabulary.name.toList := by cases vocabulary <;> decide
  have named : Vocabulary.ofName? vocabulary.name = some vocabulary := by
    cases vocabulary <;> decide
  simp only [text, bind, Except.bind, Simulate.vocabularyOf]
  rw [Text.lower_of_cased solid cased, String.ofList_toList, named]

theorem MeansOpcodes.exists_text {opcodes : Option (List Opcode)}
    (meant : MeansOpcodes opcodes datum) : ∃ text, datum = .text text := by
  cases meant with
  | drawn meant => exact ⟨_, rfl⟩
  | label carried => exact ⟨_, rfl⟩

theorem MeansOpcodes.opcodes_eq {opcodes : Option (List Opcode)}
    (meant : MeansOpcodes opcodes datum) :
    text key datum >>= Simulate.opcodesOf = .ok opcodes := by
  cases meant with
  | drawn meant =>
      have solid : Text.Solid Simulate.randomWord.toList := by decide
      simp only [text, bind, Except.bind, Simulate.opcodesOf]
      rw [Text.plain_of_means solid meant]
      simp
  | label carried =>
      simp only [text, bind, Except.bind, Simulate.opcodesOf]
      rw [beq_false_of_ne (Opcode.plain_label_ne _), Tape.parse_label, if_neg carried]
      simp [Except.map, Tape.ofList, Tape.startingAt, Tape.filled_of_ne_nil carried]

end Setting

end Forage
