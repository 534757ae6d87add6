import Forage.Text.Utf8
import Mathlib.Data.List.TakeWhile

/-!
# The bytes of texts

A text without marks holds no halves of surrogate pairs, so all of it has bytes, and from
these bytes its characters are decoded again.
-/

namespace Forage.Text

theorem points_of_plain {chars : List Char} (plain : mark ∉ chars) :
    points chars = chars.map .char := by
  induction chars with
  | nil => rfl
  | cons c rest inductionHypothesis =>
      rw [List.mem_cons, not_or] at plain
      rw [points_cons_of_ne (Ne.symm plain.1), inductionHypothesis plain.2, List.map_cons]

theorem unencodable?_chars (byte? : Fin halves → Option UInt8) (chars : List Char) :
    unencodable? byte? (chars.map .char) = none := by
  have whole : ((chars.map Point.char).takeWhile fun point => !isLoose byte? point) =
      chars.map Point.char := by
    rw [List.takeWhile_eq_self_iff]
    simp [isLoose]
  simp only [unencodable?, whole, List.drop_length]

theorem encode_of_plain {chars : List Char} (plain : mark ∉ chars)
    (byte? : Fin halves → Option UInt8) :
    encode byte? (points chars) = .ok (chars.flatMap String.utf8EncodeChar) := by
  rw [points_of_plain plain]
  simp only [encode, unencodable?_chars, List.flatMap_map]
  rfl

section Decoding

variable {position start number : Nat} {done : List Char} {first byte : UInt8}
  {ranges : List (Nat × Nat)} {rest : List UInt8}

theorem decodeFrom_alone (led : lead? byte.toNat = some (number, [])) :
    decodeFrom position done none (byte :: rest) =
      decodeFrom (position + 1) (Char.ofNat number :: done) none rest := by
  simp only [decodeFrom, led]

theorem decodeFrom_first (led : lead? byte.toNat = some (number, ranges)) (more : ranges ≠ []) :
    decodeFrom position done none (byte :: rest) =
      decodeFrom (position + 1) done (some ⟨byte, position, number, ranges⟩) rest := by
  obtain ⟨range, ranges, rfl⟩ := List.exists_cons_of_ne_nil more
  simp only [decodeFrom, led]

theorem decodeFrom_next {low high : Nat} (within : low ≤ byte.toNat ∧ byte.toNat ≤ high)
    (more : ranges ≠ []) :
    decodeFrom position done (some ⟨first, start, number, (low, high) :: ranges⟩) (byte :: rest) =
      decodeFrom (position + 1) done
        (some ⟨first, start, 0x40 * number + (byte.toNat - 0x80), ranges⟩) rest := by
  obtain ⟨range, ranges, rfl⟩ := List.exists_cons_of_ne_nil more
  have inside : ¬(byte.toNat < low ∨ high < byte.toNat) := by omega
  simp only [decodeFrom, if_neg inside]

theorem decodeFrom_last {low high : Nat} (within : low ≤ byte.toNat ∧ byte.toNat ≤ high) :
    decodeFrom position done (some ⟨first, start, number, [(low, high)]⟩) (byte :: rest) =
      decodeFrom (position + 1) (Char.ofNat (0x40 * number + (byte.toNat - 0x80)) :: done) none
        rest := by
  have inside : ¬(byte.toNat < low ∨ high < byte.toNat) := by omega
  simp only [decodeFrom, if_neg inside]

end Decoding

theorem lead?_of_two {code : Nat} (wide : 0x7f < code) (narrow : code ≤ 0x7ff) :
    lead? (code / 64 % 32 + 192) = some (code / 64, [tail]) := by
  have front : code / 64 % 32 + 192 - 0xc0 = code / 64 := by omega
  rw [lead?, if_neg (by omega), if_neg (by omega), if_pos (by omega), front]

/-- What the first of three bytes allows the second to be is met by the characters with three. -/
theorem exists_lead?_of_three {code : Nat} (wide : 0x7ff < code) (narrow : code ≤ 0xffff)
    (apart : code < 0xd800 ∨ 0xdfff < code) :
    ∃ low high, lead? (code / 4096 % 16 + 224) = some (code / 4096, [(low, high), tail]) ∧
      low ≤ code / 64 % 64 + 128 ∧ code / 64 % 64 + 128 ≤ high := by
  have front : code / 4096 % 16 + 224 - 0xe0 = code / 4096 := by omega
  rw [lead?, if_neg (by omega), if_neg (by omega), if_neg (by omega), if_pos (by omega), front]
  split
  · exact ⟨0xa0, 0xbf, rfl, by omega, by omega⟩
  · split
    · exact ⟨0x80, 0x9f, rfl, by omega, by omega⟩
    · exact ⟨0x80, 0xbf, rfl, by omega, by omega⟩

theorem exists_lead?_of_four {code : Nat} (wide : 0xffff < code) (narrow : code < 0x110000) :
    ∃ low high, lead? (code / 262144 % 8 + 240) = some (code / 262144, [(low, high), tail, tail]) ∧
      low ≤ code / 4096 % 64 + 128 ∧ code / 4096 % 64 + 128 ≤ high := by
  have front : code / 262144 % 8 + 240 - 0xf0 = code / 262144 := by omega
  rw [lead?, if_neg (by omega), if_neg (by omega), if_neg (by omega), if_neg (by omega),
    if_pos (by omega), front]
  split
  · exact ⟨0x90, 0xbf, rfl, by omega, by omega⟩
  · split
    · exact ⟨0x80, 0x8f, rfl, by omega, by omega⟩
    · exact ⟨0x80, 0xbf, rfl, by omega, by omega⟩

theorem exists_decodeFrom_utf8EncodeChar (position : Nat) (done : List Char) (c : Char)
    (rest : List UInt8) :
    ∃ next, decodeFrom position done none (String.utf8EncodeChar c ++ rest) =
      decodeFrom next (c :: done) none rest := by
  have apart : c.toNat < 0xd800 ∨ 0xdfff < c.toNat ∧ c.toNat < 0x110000 := c.valid
  have ended (next : Nat) {number : Nat} (same : number = c.toNat) :
      decodeFrom next (Char.ofNat number :: done) none rest =
        decodeFrom next (c :: done) none rest := by
    rw [same, Char.ofNat_toNat]
  have byte (number : Nat) (small : number < 256) : (UInt8.ofNat number).toNat = number :=
    UInt8.toNat_ofNat_of_lt' small
  have last (number : Nat) : (UInt8.ofNat (number % 64 + 128)).toNat = number % 64 + 128 :=
    byte _ (by omega)
  have within (number : Nat) : 0x80 ≤ (UInt8.ofNat (number % 64 + 128)).toNat ∧
      (UInt8.ofNat (number % 64 + 128)).toNat ≤ 0xbf := by
    rw [last]
    omega
  unfold String.utf8EncodeChar
  simp only [show c.val.toNat = c.toNat from rfl]
  split
  · have led : lead? (UInt8.ofNat c.toNat).toNat = some (c.toNat, []) := by
      rw [byte _ (by omega), lead?, if_pos (by omega)]
    exact ⟨_, (decodeFrom_alone led).trans (ended _ rfl)⟩
  · split
    · have led := @lead?_of_two c.toNat (by omega) (by omega)
      rw [← byte (c.toNat / 64 % 32 + 192) (by omega)] at led
      refine ⟨_, (decodeFrom_first led (by simp)).trans ((decodeFrom_last (within _)).trans
        (ended _ ?_))⟩
      rw [last]
      omega
    · split
      · obtain ⟨low, high, led, second⟩ :=
          @exists_lead?_of_three c.toNat (by omega) (by omega) (by omega)
        rw [← byte (c.toNat / 4096 % 16 + 224) (by omega)] at led
        rw [← last] at second
        refine ⟨_, (decodeFrom_first led (by simp)).trans ((decodeFrom_next second (by simp)).trans
          ((decodeFrom_last (within _)).trans (ended _ ?_)))⟩
        rw [last, last]
        omega
      · obtain ⟨low, high, led, second⟩ :=
          @exists_lead?_of_four c.toNat (by omega) (by omega)
        rw [← byte (c.toNat / 262144 % 8 + 240) (by omega)] at led
        rw [← last] at second
        refine ⟨_, (decodeFrom_first led (by simp)).trans ((decodeFrom_next second (by simp)).trans
          ((decodeFrom_next (within _) (by simp)).trans
            ((decodeFrom_last (within _)).trans (ended _ ?_))))⟩
        rw [last, last, last]
        omega

theorem decode_utf8 (chars : List Char) :
    decode (chars.flatMap String.utf8EncodeChar) = .ok chars := by
  have onward (position : Nat) (done chars : List Char) :
      decodeFrom position done none (chars.flatMap String.utf8EncodeChar) =
        .ok (done.reverse ++ chars) := by
    induction chars generalizing position done with
    | nil => simp [decodeFrom]
    | cons c chars inductionHypothesis =>
        obtain ⟨next, decoded⟩ := exists_decodeFrom_utf8EncodeChar position done c
          (chars.flatMap String.utf8EncodeChar)
        rw [List.flatMap_cons, decoded, inductionHypothesis]
        simp
  exact onward 0 [] chars

end Forage.Text
