import Forage.Json.Reader
import Forage.Proofs.Plain

/-!
# Numbers and texts that are read back

A whole number is read from its digits, where what follows does not carry it on, and a text from
between its quotes, where every character is read from what it is escaped as.
-/

namespace Forage.Json

open Text (mark)

variable {rest : List Char} {c : Char}

/-- What may follow a value: nothing, a comma, a closing bracket or white space. -/
def Ends (rest : List Char) : Prop :=
  ∀ c ∈ rest.head?, c = ',' ∨ c = ']' ∨ c = '\x7d' ∨ isSpace c = true

theorem digitsValue_toDigits (number : Nat) :
    Binary64.digitsValue (Nat.toDigits 10 number) = number := by
  rw [Binary64.digitsValue, ← Nat.ofDigitChars_eq_foldl]
  exact Nat.ofDigitChars_toDigits (by decide) (by decide)

theorem toDigits_ne_zero_cons {number : Nat} (positive : number ≠ 0) :
    Nat.toDigits 10 number ≠ '0' :: rest := by
  induction number using Nat.strongRecOn generalizing rest with
  | ind number inductionHypothesis =>
      rcases Nat.lt_or_ge number 10 with small | large
      · rw [Nat.toDigits_of_lt_base small]
        have digit : ∀ value < 10, value ≠ 0 → Nat.digitChar value ≠ '0' := by decide
        exact fun same => digit number small positive (List.cons.inj same).1
      · rw [Nat.toDigits_of_base_le (by decide) large]
        obtain ⟨first, others, front⟩ := List.exists_cons_of_ne_nil
          (Nat.toDigits_ne_nil : Nat.toDigits 10 (number / 10) ≠ [])
        rw [front, List.cons_append]
        intro same
        obtain ⟨rfl, -⟩ := List.cons.inj same
        exact inductionHypothesis (number / 10) (by omega) (by omega) front

namespace Ends

theorem nil : Ends [] := by simp [Ends]

theorem cons_of_mem (known : c ∈ [',', ']', '\x7d']) : Ends (c :: rest) := by
  simp only [List.mem_cons, List.not_mem_nil, or_false] at known
  rintro _ ⟨⟩
  rcases known with rfl | rfl | rfl <;> simp

theorem cons_of_isSpace (space : isSpace c = true) : Ends (c :: rest) := by
  rintro _ ⟨⟩
  exact .inr (.inr (.inr space))

theorem ne (ends : Ends (c :: rest)) : c.isDigit = false ∧ c ≠ '.' ∧ c ≠ 'e' ∧ c ≠ 'E' := by
  have known := ends c rfl
  simp only [isSpace, Bool.or_eq_true, beq_iff_eq, or_assoc] at known
  rcases known with rfl | rfl | rfl | rfl | rfl | rfl | rfl <;> decide

theorem takeWhile_isDigit (ends : Ends rest) : rest.takeWhile Char.isDigit = [] := by
  cases rest with
  | nil => rfl
  | cons c rest => simp [ends.ne.1]

theorem fractionPart (ends : Ends rest) : Json.fractionPart rest = [] := by
  cases rest with
  | nil => rfl
  | cons c rest =>
      unfold Json.fractionPart
      split
      · next same => exact absurd (List.cons.inj same).1 ends.ne.2.1
      · rfl

theorem exponentPart (ends : Ends rest) : Json.exponentPart rest = [] := by
  cases rest with
  | nil => rfl
  | cons c rest => simp [Json.exponentPart, ends.ne.2.2.1, ends.ne.2.2.2]

end Ends

theorem wholePart_toDigits (ends : Ends rest) (number : Nat) :
    wholePart (Nat.toDigits 10 number ++ rest) = Nat.toDigits 10 number := by
  by_cases zero : number = 0
  · rw [zero]
    rfl
  · have digits : ∀ c ∈ Nat.toDigits 10 number, c.isDigit = true :=
      fun c => Nat.isDigit_of_mem_toDigits (by decide) (by decide)
    obtain ⟨first, others, written⟩ := List.exists_cons_of_ne_nil
      (Nat.toDigits_ne_nil : Nat.toDigits 10 number ≠ [])
    unfold wholePart
    split
    · next same =>
        rw [written, List.cons_append] at same
        obtain ⟨rfl, -⟩ := List.cons.inj same
        exact absurd written (toDigits_ne_zero_cons zero)
    · rw [List.takeWhile_append_of_pos digits, ends.takeWhile_isDigit, List.append_nil]

theorem readMagnitude_toDigits {number : Nat} (ends : Ends rest)
    (short : (Nat.toDigits 10 number).length ≤ Text.digitLimit) (negative : Bool)
    (start : List Char) :
    readMagnitude negative start (Nat.toDigits 10 number ++ rest) =
      .ok (.whole (if negative then -(number : Int) else number), rest) := by
  have some : (Nat.toDigits 10 number).isEmpty = false := by
    rw [List.isEmpty_eq_false_iff]
    exact Nat.toDigits_ne_nil
  simp only [readMagnitude, wholePart_toDigits ends, List.drop_left, ends.fractionPart,
    ends.exponentPart, some, List.isEmpty_nil, List.length_nil, List.drop_zero, if_true,
    Bool.and_self, Nat.not_lt.mpr short, digitsValue_toDigits, if_false, Bool.false_eq_true]

theorem readScalar_of_isDigit (digit : c.isDigit = true) (rest : List Char) :
    readScalar (c :: rest) = readNumber (c :: rest) := by
  have other {first : Char} (known : first.isDigit = false) : first ≠ c := by
    rintro rfl
    rw [digit] at known
    exact absurd known (by decide)
  have nameless : (names.findSome? fun name =>
      (after? name.1 (c :: rest)).map fun rest => (name.2, rest)) = none := by
    simp [names, after?, other]
  rw [readScalar, nameless]

theorem readScalar_of_minus (digit : c.isDigit = true) (rest : List Char) :
    readScalar ('-' :: c :: rest) = readNumber ('-' :: c :: rest) := by
  have other : 'I' ≠ c := by
    rintro rfl
    exact absurd digit (by decide)
  have nameless : (names.findSome? fun name =>
      (after? name.1 ('-' :: c :: rest)).map fun rest => (name.2, rest)) = none := by
    simp [names, after?, other]
  rw [readScalar, nameless]

theorem exists_toDigits (number : Nat) :
    ∃ first others, Nat.toDigits 10 number = first :: others ∧ first.isDigit = true := by
  obtain ⟨first, others, written⟩ := List.exists_cons_of_ne_nil
    (Nat.toDigits_ne_nil : Nat.toDigits 10 number ≠ [])
  refine ⟨first, others, written, ?_⟩
  exact Nat.isDigit_of_mem_toDigits (by decide) (by decide) (written ▸ List.mem_cons_self)

theorem exists_toString_cons (value : Int) : ∃ c others, (toString value).toList = c :: others ∧
    c ≠ '"' ∧ c ≠ '[' ∧ c ≠ '\x7b' := by
  cases value with
  | ofNat number =>
      obtain ⟨first, others, written, digit⟩ := exists_toDigits number
      have other {c : Char} (known : c.isDigit = false) : first ≠ c := by
        rintro rfl
        rw [digit] at known
        exact absurd known (by decide)
      exact ⟨first, others, (Text.toList_toString_ofNat number).trans written, other rfl, other rfl,
        other rfl⟩
  | negSucc number =>
      exact ⟨'-', _, Text.toList_toString_negSucc number, by decide, by decide, by decide⟩

/-- A whole number is read from its own digits, if there are not too many of them. -/
theorem readScalar_toString {value : Int} (short : Text.IsShort value) (ends : Ends rest) :
    readScalar ((toString value).toList ++ rest) = .ok (.whole value, rest) := by
  cases value with
  | ofNat number =>
      obtain ⟨first, others, written, digit⟩ := exists_toDigits number
      have small : (Nat.toDigits 10 number).length ≤ Text.digitLimit := short _ rfl
      have magnitude := readMagnitude_toDigits ends small false (Nat.toDigits 10 number ++ rest)
      rw [Text.toList_toString_ofNat]
      rw [written, List.cons_append] at magnitude ⊢
      rw [readScalar_of_isDigit digit, readNumber, magnitude]
      · rfl
      · rintro others' same
        obtain ⟨rfl, -⟩ := List.cons.inj same
        exact absurd digit (by decide)
  | negSucc number =>
      obtain ⟨first, others, written, digit⟩ := exists_toDigits (number + 1)
      have small : (Nat.toDigits 10 (number + 1)).length ≤ Text.digitLimit := short _ rfl
      have magnitude := readMagnitude_toDigits ends small true
        ('-' :: Nat.toDigits 10 (number + 1) ++ rest)
      rw [Text.toList_toString_negSucc, List.cons_append]
      rw [List.cons_append] at magnitude
      rw [written, List.cons_append] at magnitude ⊢
      rw [readScalar_of_minus digit, readNumber, magnitude]
      rfl

theorem hexFour?_hexDigits {number : Nat} (small : number < 0x10000) :
    hexFour? (Text.hexDigits 4 number) = some number := by
  have value (digit : Nat) : Text.hexValue? (Text.hexDigit (digit % 16)) = some (digit % 16) :=
    Text.hexValue?_hexDigit _ (Nat.mod_lt _ (by decide))
  simp only [Text.hexDigits, List.nil_append, List.cons_append, hexFour?, value, bind,
    Option.bind, pure, Option.some.injEq]
  omega

theorem readUnit_hexDigits (control : c.toNat < 0x20) (nonempty : rest ≠ []) (start : List Char) :
    readUnit start (Text.hexDigits 4 c.toNat ++ rest) = .ok (.char c, rest) := by
  have four : (Text.hexDigits 4 c.toNat).length = 4 := Text.length_hexDigits 4 c.toNat
  have front : (Text.hexDigits 4 c.toNat ++ rest).take 4 = Text.hexDigits 4 c.toNat :=
    List.take_left' four
  have back : (Text.hexDigits 4 c.toNat ++ rest).drop 4 = rest := List.drop_left' four
  have low : isHigh c.toNat = false := by
    simp only [isHigh, Bool.and_eq_false_iff, decide_eq_false_iff_not]
    omega
  have whole : ofUnit c.toNat = .char c := by
    have apart : ¬(c.toNat - Text.firstHalf < Text.halves ∧ Text.firstHalf ≤ c.toNat) := by
      simp only [Text.firstHalf]
      omega
    rw [ofUnit, Text.Point.half?, dif_neg apart, Option.getD_none, Char.ofNat_toNat]
  obtain ⟨next, others, rfl⟩ := List.exists_cons_of_ne_nil nonempty
  simp only [readUnit, front, back, hexFour?_hexDigits (by omega : c.toNat < 0x10000), low, whole]

theorem readText_cons (quote : c ≠ '"') (backslash : c ≠ '\\') (printed : ¬c.toNat < 0x20)
    (start : List Char) (fuel : Nat) (done : List Text.Point) (rest : List Char) :
    readText start (fuel + 1) done (c :: rest) = readText start fuel (.char c :: done) rest := by
  have printable : ¬c.toNat ≤ 0x1f := by omega
  rw [readText.eq_7 start done fuel c rest (by simp [backslash]) quote (by simp [backslash])
    (by simp [backslash]), if_neg printable]

theorem readText_escape {letter : Char} (escape : simpleEscape? letter = some c)
    (start : List Char) (fuel : Nat) (done : List Text.Point) (rest : List Char) :
    readText start (fuel + 1) done ('\\' :: letter :: rest) =
      readText start fuel (.char c :: done) rest := by
  have other : letter ≠ 'u' := by
    rintro rfl
    simp [simpleEscape?] at escape
  rw [readText.eq_6 start done fuel letter rest other, escape]

theorem readText_escapeChar (nonempty : rest ≠ []) (start : List Char) (fuel : Nat)
    (done : List Text.Point) (c : Char) :
    readText start (fuel + 1) done (escapeChar c ++ rest) =
      readText start fuel (.char c :: done) rest := by
  unfold escapeChar
  split_ifs with quote backslash line back tab form erase control
  · exact readText_escape (by rw [quote]; rfl) start fuel done rest
  · exact readText_escape (by rw [backslash]; rfl) start fuel done rest
  · exact readText_escape (by rw [line]; rfl) start fuel done rest
  · exact readText_escape (by rw [back]; rfl) start fuel done rest
  · exact readText_escape (by rw [tab]; rfl) start fuel done rest
  · exact readText_escape (by rw [form]; rfl) start fuel done rest
  · exact readText_escape (by rw [erase]; rfl) start fuel done rest
  · simp only [List.cons_append]
    rw [readText.eq_def]
    simp only [readUnit_hexDigits control nonempty]
  · exact readText_cons quote backslash control start fuel done rest

theorem readText_chars (start : List Char) {fuel : Nat} (done : List Text.Point)
    (chars rest : List Char) (enough : chars.length < fuel) :
    readText start fuel done (chars.flatMap escapeChar ++ '"' :: rest) =
      .ok (Text.ofPoints (done.reverse ++ chars.map .char), rest) := by
  induction chars generalizing fuel done with
  | nil =>
      obtain ⟨fuel, rfl⟩ := Nat.exists_eq_add_one_of_ne_zero (Nat.ne_zero_of_lt enough)
      simp [readText]
  | cons c chars inductionHypothesis =>
      obtain ⟨fuel, rfl⟩ := Nat.exists_eq_add_one_of_ne_zero (Nat.ne_zero_of_lt enough)
      have further : chars.length < fuel := by simpa using enough
      rw [List.flatMap_cons, List.append_assoc, readText_escapeChar (by simp),
        inductionHypothesis _ further]
      simp

theorem ofPoints_map_char {text : String} (plain : mark ∉ text.toList) :
    Text.ofPoints (text.toList.map .char) = text := by
  have held : ∀ c ∈ text.toList, Text.Point.held (.char c) = [c] := by
    intro c listed
    rw [Text.Point.held, if_neg (ne_of_mem_of_not_mem listed plain)]
  rw [Text.ofPoints, List.flatMap_map, List.flatMap_def, List.map_congr_left held,
    ← List.flatMap_def, List.flatMap_singleton', String.ofList_toList]

theorem length_le_length_escaped (chars : List Char) :
    chars.length ≤ (chars.flatMap escapeChar).length := by
  induction chars with
  | nil => exact Nat.le_refl 0
  | cons c chars inductionHypothesis =>
      have written : 1 ≤ (escapeChar c).length := by
        unfold escapeChar
        split_ifs <;> simp
      rw [List.flatMap_cons, List.length_append, List.length_cons]
      omega

theorem readText_textOf {text : String} (plain : mark ∉ text.toList) (start : List Char) {fuel : Nat}
    (rest : List Char) (enough : (textOf text).length < fuel) :
    readText start fuel [] (text.toList.flatMap escapeChar ++ '"' :: rest) = .ok (text, rest) := by
  have few : text.toList.length < fuel := by
    have longer := length_le_length_escaped text.toList
    simp only [textOf, String.length_append, String.length_ofList] at enough
    omega
  rw [readText_chars start [] _ rest few, List.reverse_nil, List.nil_append,
    ofPoints_map_char plain]

end Forage.Json
