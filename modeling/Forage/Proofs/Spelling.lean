import Forage.Proofs.Fallible
import Forage.Proofs.Plain
import Forage.Template
import Mathlib.Tactic.SplitIfs

/-!
# How templates are spelled

A text is a template if it is a row of characters that stand for themselves and of escapes with
one of eleven letters, and no text is one otherwise. How the characters between two escapes are
put together makes no difference to what is written.
-/

namespace Forage

namespace Text

theorem points_ofChars (chars : List Char) : points (ofChars chars).toList = chars.map .char := by
  rw [ofChars, ofPoints, String.toList_ofList, points_flatMap_held]

/-- None but a capital letter has another one of these four as its lower case. -/
theorem distance_of_lower : ∀ run ∈ lowerRuns, ∀ small ∈ ['p', 'd', 'g', 'f'],
    run.holds (small.toNat - run.distance).toNat = true → run.distance = 32 := by
  have every : (lowerRuns.all fun run => ['p', 'd', 'g', 'f'].all fun small =>
      !run.holds (small.toNat - run.distance).toNat || run.distance == 32) = true := by
    decide +kernel
  simp only [List.all_eq_true] at every
  intro run listed small known holds
  simpa [holds] using every run listed small known

theorem code_of_ofNat {code : Nat} {char : Char} (made : Char.ofNat code = char)
    (positive : char.toNat ≠ 0) : code = char.toNat := by
  subst made
  by_cases valid : code.isValidChar
  · rw [Char.ofNat, dif_pos valid]
    exact rfl
  · rw [Char.ofNat, dif_neg valid] at positive
    exact absurd rfl positive

theorem eq_or_capital_of_lowerChar {letter small : Char} (known : small ∈ ['p', 'd', 'g', 'f'])
    (lowered : lowerChar letter = [small]) : letter = small ∨ letter.toNat + 32 = small.toNat := by
  have positive : small.toNat ≠ 0 := by
    simp only [List.mem_cons, List.not_mem_nil, or_false] at known
    rcases known with rfl | rfl | rfl | rfl <;> decide
  unfold lowerChar at lowered
  split at lowered
  · simp at lowered
  split at lowered
  · next run found =>
      have listed := List.mem_of_find?_eq_some found
      have holds : run.holds letter.toNat = true := by simpa using List.find?_some found
      have code := code_of_ofNat (List.singleton_inj.mp lowered) positive
      have back : (small.toNat - run.distance).toNat = letter.toNat := by omega
      have distance := distance_of_lower run listed small known (back ▸ holds)
      rw [distance] at code
      omega
  · exact .inl (List.singleton_inj.mp lowered)

theorem eq_or_capital_of_lower {letter small : Char} (known : small ∈ ['p', 'd', 'g', 'f'])
    (lowered : lower [letter] = [small]) : letter = small ∨ letter.toNat + 32 = small.toNat := by
  rw [lower, lowerFrom, lowerFrom, List.append_nil] at lowered
  by_cases sigma : letter = 'Σ'
  · rw [if_pos sigma] at lowered
    have small_eq := List.singleton_inj.mp lowered
    split at small_eq <;> exact absurd (small_eq ▸ known) (by decide)
  · rw [if_neg sigma] at lowered
    exact eq_or_capital_of_lowerChar known lowered

end Text

namespace Template

/-- What a stretch of a template stands for. -/
inductive Sign where
  | plain (char : Char)
  | decimal (entry : Entry)
  | word (entry : Entry)
  | percent
  | lineFeed
  | carriageReturn
deriving DecidableEq, Repr

/-- The letters of escapes, and what they stand for. -/
def letters : List (Char × Sign) :=
  [('P', .decimal .population), ('D', .decimal .change), ('G', .decimal .step),
    ('F', .decimal .food), ('p', .word .population), ('d', .word .change), ('g', .word .step),
    ('f', .word .food), ('%', .percent), ('n', .lineFeed), ('r', .carriageReturn)]

/-- A text spells signs, each of them by a character or by a percent sign and a letter. -/
inductive Spells : List Char → List Sign → Prop where
  | nil : Spells [] []
  | plain {char : Char} {rest : List Char} {signs : List Sign} :
      char ≠ '%' → Spells rest signs → Spells (char :: rest) (.plain char :: signs)
  | escape {letter : Char} {sign : Sign} {rest : List Char} {signs : List Sign} :
      (letter, sign) ∈ letters → Spells rest signs →
      Spells ('%' :: letter :: rest) (sign :: signs)

open Element

/-- The element that puts a sign down. -/
def Sign.element : Sign → Element
  | plain char => .stretch [char]
  | decimal entry => .decimal entry
  | word entry => .word entry
  | percent => .mark '%'
  | lineFeed => .mark '\n'
  | carriageReturn => .mark '\r'

theorem ofLetter?_of_mem {letter : Char} {sign : Sign} (listed : (letter, sign) ∈ letters) :
    Element.ofLetter? letter = some sign.element := by
  have every : ∀ row ∈ letters, Element.ofLetter? row.1 = some row.2.element := by decide +kernel
  exact every _ listed

theorem mem_of_entry {letter : Char} {entry : Entry} (named : Entry.ofLetter? letter = some entry) :
    letter ∈ ['p', 'd', 'g', 'f'] := by
  unfold Entry.ofLetter? at named
  split at named
  all_goals first | decide | simp at named

theorem mem_of_control {letter char : Char} (given : Element.control? letter = some char) :
    letter ∈ ['%', 'n', 'r'] := by
  unfold Element.control? at given
  split at given
  all_goals first | decide | simp at given

theorem mem_letters_of_control {letter : Char} (known : letter ∈ ['%', 'n', 'r']) :
    letter ∈ letters.map Prod.fst := by
  simp only [List.mem_cons, List.not_mem_nil, or_false] at known
  rcases known with rfl | rfl | rfl <;> decide

theorem mem_letters_of_entry {small : Char} (known : small ∈ ['p', 'd', 'g', 'f']) :
    small ∈ letters.map Prod.fst ∧ Char.ofNat (small.toNat - 32) ∈ letters.map Prod.fst := by
  simp only [List.mem_cons, List.not_mem_nil, or_false] at known
  rcases known with rfl | rfl | rfl | rfl <;> decide

/-- Of the letters of all scripts only those of the table are looked up with success. -/
theorem exists_sign_of_ofLetter? {letter : Char} {element : Element}
    (found : Element.ofLetter? letter = some element) : ∃ sign, (letter, sign) ∈ letters := by
  have listed (known : letter ∈ letters.map Prod.fst) : ∃ sign, (letter, sign) ∈ letters := by
    obtain ⟨⟨_, sign⟩, member, rfl⟩ := List.mem_map.mp known
    exact ⟨sign, member⟩
  apply listed
  unfold Element.ofLetter? at found
  split at found
  · next given => exact mem_letters_of_control (mem_of_control given)
  split at found
  · next named => exact (mem_letters_of_entry (mem_of_entry named)).1
  split at found
  · next small lowered =>
      obtain ⟨entry, named, -⟩ := Option.map_eq_some_iff.mp found
      have known := mem_of_entry named
      rcases Text.eq_or_capital_of_lower known lowered with rfl | capital
      · exact (mem_letters_of_entry known).1
      · have code : small.toNat - 32 = letter.toNat := by omega
        have member := (mem_letters_of_entry known).2
        rwa [code, Char.ofNat_toNat] at member
  · simp at found

/-- A text is gone through character by character, but an escape is taken as a whole. -/
theorem spelledInduction {motive : List Char → Prop} (nil : motive [])
    (plain : ∀ char rest, char ≠ '%' → motive rest → motive (char :: rest))
    (dangling : motive ['%'])
    (escape : ∀ letter rest, motive rest → motive ('%' :: letter :: rest)) :
    (chars : List Char) → motive chars
  | [] => nil
  | [char] => by
      by_cases percent : char = '%'
      · exact percent ▸ dangling
      · exact plain char [] percent nil
  | char :: letter :: rest => by
      by_cases percent : char = '%'
      · exact percent ▸ escape letter rest (spelledInduction nil plain dangling escape rest)
      · exact plain char _ percent (spelledInduction nil plain dangling escape (letter :: rest))

theorem pieces_plain {char : Char} (other : char ≠ '%') (points : List Text.Point) :
    pieces (.char char :: points) =
      match pieces points with
      | .stretch more :: rest => .stretch (.char char :: more) :: rest
      | rest => .stretch [.char char] :: rest := by
  exact pieces.eq_4 (.char char) points (by simp [other]) (by simp [other])

theorem exists_chars_of_stretch {chars : List Char} {points : List Text.Point}
    (stretch : .stretch points ∈ pieces (chars.map .char)) :
    ∃ within : List Char, points = within.map .char := by
  induction chars using spelledInduction generalizing points with
  | nil => simp [pieces] at stretch
  | dangling => simp [pieces] at stretch
  | escape letter rest inductionHypothesis =>
      simp only [List.map_cons, pieces, List.mem_cons, reduceCtorEq, false_or] at stretch
      exact inductionHypothesis stretch
  | plain char rest other inductionHypothesis =>
      rw [List.map_cons, pieces_plain other] at stretch
      split at stretch
      · next more others parted =>
          rcases List.mem_cons.mp stretch with same | later
          · obtain ⟨within, rfl⟩ := inductionHypothesis (parted ▸ List.mem_cons_self)
            exact ⟨char :: within, Piece.stretch.inj same⟩
          · exact inductionHypothesis (parted ▸ List.mem_cons_of_mem _ later)
      · rcases List.mem_cons.mp stretch with same | later
        · exact ⟨[char], Piece.stretch.inj same⟩
        · exact inductionHypothesis later

theorem renderWithin_stretch_cons (limit : Option Nat) (tally : Tally) (char : Char)
    (chars : List Char) (template : Template) :
    renderWithin limit tally (.stretch (char :: chars) :: template) =
      renderWithin limit tally (.stretch [char] :: .stretch chars :: template) := by
  cases rest : renderWithin limit tally template <;>
    simp [renderWithin, Element.render, utf8, rest, bind, Except.bind, pure, Except.pure]

section Pieces

variable {whole : String}

theorem elementOf_stretch (chars : List Char) :
    elementOf whole (.stretch (chars.map .char)) = .ok (.stretch chars) := by
  simp [elementOf, Text.unencodable?_chars, List.filterMap_map, Function.comp_def, Text.Point.char?]

theorem ofPieces_cons_of_ok {piece : Piece} {element : Element} (pieces : List Piece)
    (one : elementOf whole piece = .ok element) :
    ofPieces whole (piece :: pieces) = (ofPieces whole pieces).map (element :: ·) := by
  rw [ofPieces, one]
  rfl

/-- With a character in front of it a text fails as before, or is written after the character. -/
theorem ofPieces_plain {char : Char} (other : char ≠ '%') (chars : List Char) :
    (∀ fault, ofPieces whole (pieces (chars.map .char)) = .error fault →
      ofPieces whole (pieces ((char :: chars).map .char)) = .error fault) ∧
    ∀ template, ofPieces whole (pieces (chars.map .char)) = .ok template →
      ∃ longer, ofPieces whole (pieces ((char :: chars).map .char)) = .ok longer ∧
        ∀ limit tally, longer.renderWithin limit tally =
          renderWithin limit tally (.stretch [char] :: template) := by
  rw [List.map_cons, pieces_plain other]
  split
  · next points rest parted =>
      obtain ⟨within, rfl⟩ := exists_chars_of_stretch (parted ▸ List.mem_cons_self)
      rw [parted, ofPieces_cons_of_ok rest (elementOf_stretch within), ← List.map_cons,
        ofPieces_cons_of_ok rest (elementOf_stretch (char :: within))]
      cases ofPieces whole rest with
      | error fault => simp [Except.map]
      | ok template =>
          refine ⟨by simp [Except.map], fun made same => ?_⟩
          obtain rfl := Except.ok.inj same
          exact ⟨_, rfl, fun limit tally => renderWithin_stretch_cons limit tally char within template⟩
  · have one : elementOf whole (.stretch [.char char]) = .ok (.stretch [char]) :=
      elementOf_stretch [char]
    rw [ofPieces_cons_of_ok _ one]
    cases ofPieces whole (pieces (chars.map .char)) with
    | error fault => simp [Except.map]
    | ok template => simp [Except.map]

/-- A text that spells signs is a template, through which is written what they stand for. -/
theorem exists_template {chars : List Char} {signs : List Sign} (spells : Spells chars signs) :
    ∃ template, ofPieces whole (pieces (chars.map .char)) = .ok template ∧
      ∀ limit tally, template.renderWithin limit tally =
        renderWithin limit tally (signs.map Sign.element) := by
  induction spells with
  | nil => exact ⟨[], rfl, fun _ _ => rfl⟩
  | plain other _ inductionHypothesis =>
      obtain ⟨template, made, same⟩ := inductionHypothesis
      obtain ⟨longer, found, written⟩ := (ofPieces_plain other _).2 template made
      refine ⟨longer, found, fun limit tally => ?_⟩
      rw [written, List.map_cons, renderWithin, renderWithin, same]
      rfl
  | @escape letter sign rest signs listed _ inductionHypothesis =>
      obtain ⟨template, made, same⟩ := inductionHypothesis
      have one : elementOf whole (.escape (.char letter)) = .ok sign.element := by
        simp [elementOf, Text.Point.char?, ofLetter?_of_mem listed]
      refine ⟨sign.element :: template, ?_, fun limit tally => ?_⟩
      · rw [List.map_cons, List.map_cons, pieces, ofPieces_cons_of_ok _ one, made]
        rfl
      · rw [List.map_cons, renderWithin, renderWithin, same]

theorem exists_signs_or_fault (chars : List Char) :
    (∃ signs, Spells chars signs) ∨
      ∃ fault, ofPieces whole (pieces (chars.map .char)) = .error fault ∧
        fault.kind = .invalid := by
  induction chars using spelledInduction with
  | nil => exact .inl ⟨[], .nil⟩
  | dangling => exact .inr ⟨_, rfl, rfl⟩
  | plain char rest other inductionHypothesis =>
      rcases inductionHypothesis with ⟨signs, spells⟩ | ⟨fault, failed, kind⟩
      · exact .inl ⟨_, .plain other spells⟩
      · exact .inr ⟨fault, (ofPieces_plain other rest).1 fault failed, kind⟩
  | escape letter rest inductionHypothesis =>
      cases found : Element.ofLetter? letter with
      | none =>
          have one : elementOf whole (.escape (.char letter)) =
              .error (.unknownEscape (.char letter) whole) := by
            simp [elementOf, Text.Point.char?, found]
          refine .inr ⟨.unknownEscape (.char letter) whole, ?_, rfl⟩
          rw [List.map_cons, List.map_cons, pieces, ofPieces, one]
          rfl
      | some element =>
          obtain ⟨sign, listed⟩ := exists_sign_of_ofLetter? found
          rcases inductionHypothesis with ⟨signs, spells⟩ | ⟨fault, failed, kind⟩
          · exact .inl ⟨_, .escape listed spells⟩
          · have one : elementOf whole (.escape (.char letter)) = .ok element := by
              simp [elementOf, Text.Point.char?, found]
            refine .inr ⟨fault, ?_, kind⟩
            rw [List.map_cons, List.map_cons, pieces, ofPieces_cons_of_ok _ one, failed]
            rfl

end Pieces

end Template

end Forage
