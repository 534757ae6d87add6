import Forage.Proofs.Scalars

/-!
# Documents that are read back

A datum without real numbers is read back from the text it is printed as, if it is not nested too
deeply, no field of its records has the name of another, and its texts have no marks.
-/

namespace Forage.Json

open Text (mark)

variable {rest chars : List Char} {c : Char}

/-- A datum of which nothing is lost when it is written, nested no deeper than there is room for. -/
inductive Legible : (room : Nat) → Datum → Prop where
  | null {room : Nat} : Legible room .null
  | truth {room : Nat} {value : Bool} : Legible room (.truth value)
  | whole {room : Nat} {value : Int} : Legible room (.whole value)
  | text {room : Nat} {text : String} : mark ∉ text.toList → Legible room (.text text)
  | list {room : Nat} {items : List Datum} :
      (∀ item ∈ items, Legible room item) → Legible (room + 1) (.list items)
  | record {room : Nat} {fields : List (String × Datum)} :
      (fields.map Prod.fst).Nodup → (∀ field ∈ fields, mark ∉ field.1.toList) →
      (∀ field ∈ fields, Legible room field.2) → Legible (room + 1) (.record fields)

/-- White space and nothing else. -/
def Spaces (chars : List Char) : Prop :=
  ∀ c ∈ chars, isSpace c = true

theorem skipSpaces_append {spaces : List Char} (blank : Spaces spaces) (rest : List Char) :
    skipSpaces (spaces ++ rest) = skipSpaces rest :=
  List.dropWhile_append_of_pos blank

theorem skipSpaces_cons (solid : isSpace c = false) (rest : List Char) :
    skipSpaces (c :: rest) = c :: rest :=
  List.dropWhile_cons_of_neg (by simp [solid])

theorem Ends.spaces {spaces : List Char} (blank : Spaces spaces) (ends : Ends rest) :
    Ends (spaces ++ rest) := by
  cases spaces with
  | nil => exact ends
  | cons c spaces => exact .cons_of_isSpace (blank c List.mem_cons_self)

/-- Values are set apart by white space, and between two of them there is a comma. -/
theorem exists_around (spacing : Spacing) (level : Nat) :
    ∃ first gap last, (spacing.around level).1.toList = first ∧
      (spacing.around level).2.1.toList = ',' :: gap ∧ (spacing.around level).2.2.toList = last ∧
      Spaces first ∧ Spaces gap ∧ Spaces last := by
  have line (level : Nat) : Spaces ('\n' :: List.replicate (indentation * level) ' ') := by
    intro c listed
    rcases List.mem_cons.mp listed with rfl | blank
    · rfl
    · rw [List.eq_of_mem_replicate blank]
      rfl
  cases spacing with
  | oneLine =>
      refine ⟨[], [' '], [], ?_, ?_, ?_, ?_, ?_, ?_⟩ <;> simp [Spacing.around, Spaces, isSpace]
  | indented =>
      refine ⟨_, _, _, ?_, ?_, ?_, line (level + 1), line (level + 1), line level⟩ <;>
        simp [Spacing.around]

theorem writeItems_eq (spacing : Spacing) (level : Nat) (items : List Datum) :
    writeItems spacing level items = items.map (write spacing level) := by
  induction items with
  | nil => rfl
  | cons item items inductionHypothesis => rw [writeItems, inductionHypothesis, List.map_cons]

theorem writeFields_eq (spacing : Spacing) (level : Nat) (fields : List (String × Datum)) :
    writeFields spacing level fields =
      fields.map fun field => textOf field.1 ++ ": " ++ write spacing level field.2 := by
  induction fields with
  | nil => rfl
  | cons field fields inductionHypothesis => rw [writeFields, inductionHypothesis, List.map_cons]

/-- A text begins as a value does. -/
def Begins (chars : List Char) : Prop :=
  ∃ c rest, chars = c :: rest ∧ (c.isDigit = true ∨ c ∈ ['n', 't', 'f', '-', '"', '[', '\x7b'])

theorem Begins.exists_cons (begins : Begins chars) :
    ∃ c rest, chars = c :: rest ∧ isSpace c = false ∧ c ≠ ']' ∧ c ≠ '\x7d' ∧ c ≠ '\ufeff' := by
  obtain ⟨c, rest, rfl, digit | known⟩ := begins
  · have other {solid : Char} (known : solid.isDigit = false) : c ≠ solid := by
      rintro rfl
      rw [digit] at known
      exact absurd known (by decide)
    refine ⟨c, rest, rfl, ?_, other rfl, other rfl, other rfl⟩
    simp [isSpace, other]
  · refine ⟨c, rest, rfl, ?_⟩
    simp only [List.mem_cons, List.not_mem_nil, or_false] at known
    rcases known with rfl | rfl | rfl | rfl | rfl | rfl | rfl <;> decide

theorem Begins.append (begins : Begins chars) (more : List Char) : Begins (chars ++ more) := by
  obtain ⟨c, rest, rfl, known⟩ := begins
  exact ⟨c, rest ++ more, rfl, known⟩

theorem toList_textOf (text : String) :
    (textOf text).toList = '"' :: (text.toList.flatMap escapeChar ++ ['"']) := by
  simp [textOf]

theorem toList_enclose {spacing : Spacing} {level : Nat} {left right : String}
    {items : List String} (nonempty : items ≠ []) :
    (enclose spacing level left right items).toList =
      left.toList ++ ((spacing.around level).1.toList ++
        ((spacing.around level).2.1.toList.intercalate (items.map String.toList) ++
          ((spacing.around level).2.2.toList ++ right.toList))) := by
  obtain ⟨item, items, rfl⟩ := List.exists_cons_of_ne_nil nonempty
  simp [enclose]

theorem begins_enclose (spacing : Spacing) (level : Nat) (items : List String) :
    Begins (enclose spacing level "[" "]" items).toList ∧
      Begins (enclose spacing level "\x7b" "\x7d" items).toList := by
  cases items with
  | nil => exact ⟨⟨'[', [']'], by simp [enclose], by simp⟩, ⟨'\x7b', ['\x7d'], by simp [enclose], by simp⟩⟩
  | cons item items =>
      rw [toList_enclose (by simp), toList_enclose (by simp)]
      exact ⟨⟨'[', _, rfl, by simp⟩, ⟨'\x7b', _, rfl, by simp⟩⟩

theorem Legible.begins {room : Nat} {datum : Datum} (legible : Legible room datum)
    (spacing : Spacing) (level : Nat) : Begins (write spacing level datum).toList := by
  cases legible with
  | null => exact ⟨'n', ['u', 'l', 'l'], by simp [write], by simp⟩
  | @truth _ value =>
      cases value with
      | false => exact ⟨'f', ['a', 'l', 's', 'e'], by simp [write], by simp⟩
      | true => exact ⟨'t', ['r', 'u', 'e'], by simp [write], by simp⟩
  | @whole _ value =>
      rw [write]
      cases value with
      | ofNat number =>
          obtain ⟨first, others, written, digit⟩ := exists_toDigits number
          exact ⟨first, others, (Text.toList_toString_ofNat number).trans written, .inl digit⟩
      | negSucc number => exact ⟨'-', _, Text.toList_toString_negSucc number, by simp⟩
  | @text _ text plain =>
      rw [write]
      exact ⟨'"', _, toList_textOf text, by simp⟩
  | list _ =>
      rw [write]
      exact (begins_enclose spacing level _).1
  | record _ _ _ =>
      rw [write]
      exact (begins_enclose spacing level _).2

theorem put_of_notMem {name : String} {fields : List (String × Datum)}
    (absent : name ∉ fields.map Prod.fst) (value : Datum) :
    put name value fields = fields ++ [(name, value)] := by
  induction fields with
  | nil => rfl
  | cons field fields inductionHypothesis =>
      rw [List.map_cons, List.mem_cons, not_or] at absent
      rw [put, if_neg (by simpa using Ne.symm absent.1), inductionHypothesis absent.2]
      rfl

/-- The characters of a datum. -/
def written (spacing : Spacing) (level : Nat) (datum : Datum) : List Char :=
  (write spacing level datum).toList

/-- The characters of a field: its name, and what it holds. -/
def writtenField (spacing : Spacing) (level : Nat) (field : String × Datum) : List Char :=
  '"' :: (field.1.toList.flatMap escapeChar ++ '"' :: ':' :: ' ' :: written spacing level field.2)

theorem areShort_iff {items : List Datum} :
    areShort items = true ↔ ∀ item ∈ items, isShort item = true := by
  induction items with
  | nil => simp [areShort]
  | cons item items inductionHypothesis =>
      rw [areShort, Bool.and_eq_true, inductionHypothesis, List.forall_mem_cons]

theorem haveShort_iff {fields : List (String × Datum)} :
    haveShort fields = true ↔ ∀ field ∈ fields, isShort field.2 = true := by
  induction fields with
  | nil => simp [haveShort]
  | cons field fields inductionHypothesis =>
      rw [haveShort, Bool.and_eq_true, inductionHypothesis, List.forall_mem_cons]

/-- A datum is read back from its text, whatever follows the text. -/
def Returns (room : Nat) (datum : Datum) : Prop :=
  ∀ spacing level fuel rest, (written spacing level datum).length < fuel → Ends rest →
    readValue fuel room (written spacing level datum ++ rest) = .ok (datum, rest)

theorem Begins.intercalate (begins : Begins chars) (others : List (List Char)) {gap : List Char} :
    Begins ((',' :: gap).intercalate (chars :: others)) := by
  cases others with
  | nil => rwa [List.intercalate_singleton]
  | cons other others =>
      rw [List.intercalate_cons_cons, List.append_assoc]
      exact begins.append _

theorem Begins.skipSpaces (begins : Begins chars) (more : List Char) :
    Json.skipSpaces (chars ++ more) = chars ++ more := by
  obtain ⟨c, rest, rfl, solid, -⟩ := begins.exists_cons
  exact skipSpaces_cons solid _

section Lists

variable {room fuel : Nat} {gap last : List Char} {spacing : Spacing} {level : Nat}

theorem intercalate_map_append {α : Type} (text : α → List Char) (item next : α) (items : List α)
    (rest : List Char) :
    (',' :: gap).intercalate ((item :: next :: items).map text) ++ rest =
      text item ++ ',' :: (gap ++ ((',' :: gap).intercalate ((next :: items).map text) ++ rest)) := by
  simp [List.intercalate_cons_cons]

theorem length_intercalate_map {α : Type} (text : α → List Char) (item next : α) (items : List α) :
    ((',' :: gap).intercalate ((item :: next :: items).map text)).length =
      (text item).length + gap.length +
        ((',' :: gap).intercalate ((next :: items).map text)).length + 1 := by
  simp only [List.map_cons, List.intercalate_cons_cons, List.length_append, List.length_cons]
  omega

/-- Items are read back one after the other, up to the bracket that closes their list. -/
theorem readItems_written {items : List Datum} (legible : ∀ item ∈ items, Legible room item)
    (returns : ∀ item ∈ items, Returns room item) (nonempty : items ≠ []) (gapBlank : Spaces gap)
    (lastBlank : Spaces last) (done : List Datum) (rest : List Char)
    (enough : ((',' :: gap).intercalate (items.map (written spacing level))).length + 1 < fuel) :
    readItems fuel room done ((',' :: gap).intercalate (items.map (written spacing level)) ++
      (last ++ ']' :: rest)) = .ok (.list (done.reverse ++ items), rest) := by
  induction items generalizing fuel done with
  | nil => exact absurd rfl nonempty
  | cons item items inductionHypothesis =>
      obtain ⟨fuel, rfl⟩ := Nat.exists_eq_add_one_of_ne_zero (Nat.ne_zero_of_lt enough)
      obtain ⟨here, others⟩ := List.forall_mem_cons.mp returns
      obtain ⟨-, onward⟩ := List.forall_mem_cons.mp legible
      cases items with
      | nil =>
          simp only [List.map_cons, List.map_nil, List.intercalate_singleton] at enough ⊢
          have ends : Ends (last ++ ']' :: rest) := .spaces lastBlank (.cons_of_mem (by simp))
          rw [readItems, here spacing level fuel _ (by omega) ends]
          simp only [skipSpaces_append lastBlank, skipSpaces_cons (rfl : isSpace ']' = false),
            List.reverse_cons]
      | cons next items =>
          have begins : Begins ((',' :: gap).intercalate ((next :: items).map (written spacing level))) :=
            .intercalate ((onward next List.mem_cons_self).begins spacing level) _
          have ends (rest : List Char) : Ends (',' :: rest) := .cons_of_mem (by simp)
          rw [length_intercalate_map] at enough
          rw [intercalate_map_append, readItems,
            here spacing level fuel _ (by omega) (ends _)]
          simp only [skipSpaces_cons (rfl : isSpace ',' = false), skipSpaces_append gapBlank,
            begins.skipSpaces]
          rw [inductionHypothesis onward others (by simp) (item :: done) (by omega),
            List.reverse_cons, List.append_assoc, List.singleton_append]

theorem readFields_writtenField {field : String × Datum} (plain : mark ∉ field.1.toList)
    (begins : Begins (written spacing level field.2)) (returns : Returns room field.2)
    (enough : (writtenField spacing level field).length < fuel) (done : List (String × Datum))
    {rest more : List Char} (ends : Ends rest) :
    (skipSpaces rest = '\x7d' :: more →
      readFields (fuel + 1) room done (writtenField spacing level field ++ rest) =
        .ok (.record (put field.1 field.2 done), more)) ∧
    (skipSpaces rest = ',' :: more →
      readFields (fuel + 1) room done (writtenField spacing level field ++ rest) =
        readFields fuel room (put field.1 field.2 done) (skipSpaces more)) := by
  obtain ⟨name, value⟩ := field
  have split : writtenField spacing level (name, value) ++ rest =
      '"' :: (name.toList.flatMap escapeChar ++ '"' ::
        (':' :: ' ' :: (written spacing level value ++ rest))) := by
    simp [writtenField]
  have lengths : (textOf name).length < fuel + 1 ∧ (written spacing level value).length < fuel := by
    rw [← String.length_toList, toList_textOf]
    simp only [writtenField, List.length_cons, List.length_append] at enough ⊢
    simp only [List.length_nil]
    omega
  rw [split, readFields, readText_textOf plain _ _ lengths.1]
  have colon (rest : List Char) : skipSpaces (':' :: rest) = ':' :: rest := skipSpaces_cons rfl rest
  have blank (rest : List Char) : skipSpaces (' ' :: rest) = skipSpaces rest :=
    @skipSpaces_append [' '] (by simp [Spaces, isSpace]) rest
  simp only [colon, blank, begins.skipSpaces, returns spacing level fuel rest lengths.2 ends]
  constructor
  · intro closed
    simp only [closed]
  · intro further
    simp only [further]

/-- Fields are read back one after the other, up to the bracket that closes their record. -/
theorem readFields_written {fields : List (String × Datum)}
    (plain : ∀ field ∈ fields, mark ∉ field.1.toList)
    (legible : ∀ field ∈ fields, Legible room field.2)
    (returns : ∀ field ∈ fields, Returns room field.2) (nonempty : fields ≠ [])
    (gapBlank : Spaces gap) (lastBlank : Spaces last) (done : List (String × Datum))
    (distinct : ((done ++ fields).map Prod.fst).Nodup) (rest : List Char)
    (enough : ((',' :: gap).intercalate (fields.map (writtenField spacing level))).length + 1 < fuel) :
    readFields fuel room done ((',' :: gap).intercalate (fields.map (writtenField spacing level)) ++
      (last ++ '\x7d' :: rest)) = .ok (.record (done ++ fields), rest) := by
  induction fields generalizing fuel done with
  | nil => exact absurd rfl nonempty
  | cons field fields inductionHypothesis =>
      obtain ⟨fuel, rfl⟩ := Nat.exists_eq_add_one_of_ne_zero (Nat.ne_zero_of_lt enough)
      obtain ⟨here, others⟩ := List.forall_mem_cons.mp returns
      obtain ⟨first, onward⟩ := List.forall_mem_cons.mp legible
      obtain ⟨named, names⟩ := List.forall_mem_cons.mp plain
      have added : put field.1 field.2 done = done ++ [field] := by
        apply put_of_notMem
        intro member
        rw [List.map_append, List.map_cons, List.nodup_append] at distinct
        exact distinct.2.2 field.1 member field.1 List.mem_cons_self rfl
      cases fields with
      | nil =>
          simp only [List.map_cons, List.map_nil, List.intercalate_singleton] at enough ⊢
          have ends : Ends (last ++ '\x7d' :: rest) := .spaces lastBlank (.cons_of_mem (by simp))
          have closed : skipSpaces (last ++ '\x7d' :: rest) = '\x7d' :: rest :=
            (skipSpaces_append lastBlank _).trans (skipSpaces_cons rfl rest)
          have read := (@readFields_writtenField room fuel _ _ _ named (first.begins spacing level)
            here (by omega) done _ _ ends).1 closed
          rw [read, added]
      | cons next fields =>
          have begins : Begins
              ((',' :: gap).intercalate ((next :: fields).map (writtenField spacing level))) :=
            .intercalate ⟨'"', _, rfl, by simp⟩ _
          have ends (rest : List Char) : Ends (',' :: rest) := .cons_of_mem (by simp)
          rw [length_intercalate_map] at enough
          have further (rest : List Char) : skipSpaces (',' :: rest) = ',' :: rest :=
            skipSpaces_cons rfl rest
          have read (rest : List Char) :=
            (@readFields_writtenField room fuel _ _ _ named (first.begins spacing level) here
              (by omega) done _ _ (ends rest)).2 (further rest)
          rw [intercalate_map_append, read, skipSpaces_append gapBlank, begins.skipSpaces, added]
          rw [inductionHypothesis names onward others (by simp) (done ++ [field])
            (by simpa using distinct) (by omega), List.append_assoc, List.singleton_append]

end Lists

theorem readValue_cons (quote : c ≠ '"') (bracket : c ≠ '[') (brace : c ≠ '\x7b') (fuel room : Nat)
    (rest : List Char) : readValue (fuel + 1) room (c :: rest) = readScalar (c :: rest) := by
  rw [readValue.eq_def]
  split
  all_goals simp_all

theorem exists_written_list {items : List Datum} (nonempty : items ≠ []) (spacing : Spacing)
    (level : Nat) : ∃ first gap last, Spaces first ∧ Spaces gap ∧ Spaces last ∧
      written spacing level (.list items) = '[' :: (first ++ ((',' :: gap).intercalate
        (items.map (written spacing (level + 1))) ++ (last ++ [']']))) := by
  obtain ⟨first, gap, last, opening, between, closing, firstBlank, gapBlank, lastBlank⟩ :=
    exists_around spacing level
  refine ⟨first, gap, last, firstBlank, gapBlank, lastBlank, ?_⟩
  rw [written, write, writeItems_eq, toList_enclose (by simpa using nonempty), opening, between,
    closing, List.map_map]
  rfl

theorem exists_written_record {fields : List (String × Datum)} (nonempty : fields ≠ [])
    (spacing : Spacing) (level : Nat) : ∃ first gap last, Spaces first ∧ Spaces gap ∧ Spaces last ∧
      written spacing level (.record fields) = '\x7b' :: (first ++ ((',' :: gap).intercalate
        (fields.map (writtenField spacing (level + 1))) ++ (last ++ ['\x7d']))) := by
  obtain ⟨first, gap, last, opening, between, closing, firstBlank, gapBlank, lastBlank⟩ :=
    exists_around spacing level
  refine ⟨first, gap, last, firstBlank, gapBlank, lastBlank, ?_⟩
  rw [written, write, writeFields_eq, toList_enclose (by simpa using nonempty), opening, between,
    closing, List.map_map]
  have field (field : String × Datum) :
      (textOf field.1 ++ ": " ++ write spacing (level + 1) field.2).toList =
        writtenField spacing (level + 1) field := by
    simp [toList_textOf, writtenField, written]
  simp only [Function.comp_def, field]
  rfl

theorem returns_list {room : Nat} {items : List Datum} (legible : ∀ item ∈ items, Legible room item)
    (returns : ∀ item ∈ items, Returns room item) : Returns (room + 1) (.list items) := by
  intro spacing level fuel rest enough ends
  obtain ⟨fuel, rfl⟩ := Nat.exists_eq_add_one_of_ne_zero (Nat.ne_zero_of_lt enough)
  by_cases empty : items = []
  · have closed : skipSpaces (']' :: rest) = ']' :: rest := skipSpaces_cons rfl rest
    have same : written spacing level (.list []) ++ rest = '[' :: ']' :: rest := by
      simp [written, write, writeItems, enclose]
    rw [empty, same, readValue, closed]
    rfl
  · obtain ⟨first, gap, last, firstBlank, gapBlank, lastBlank, same⟩ :=
      exists_written_list empty spacing level
    rw [same] at enough ⊢
    simp only [List.length_cons, List.length_append, List.length_nil] at enough
    obtain ⟨item, items, rfl⟩ := List.exists_cons_of_ne_nil empty
    have begins : Begins
        ((',' :: gap).intercalate ((item :: items).map (written spacing (level + 1)))) :=
      .intercalate ((legible item List.mem_cons_self).begins spacing (level + 1)) _
    have few : ((',' :: gap).intercalate
        ((item :: items).map (written spacing (level + 1)))).length + 1 < fuel := by omega
    have read := readItems_written legible returns empty gapBlank lastBlank [] rest few
    simp only [List.cons_append, List.append_assoc, List.nil_append]
    rw [readValue, skipSpaces_append firstBlank, begins.skipSpaces]
    obtain ⟨c, rest', front, -, other, -⟩ := begins.exists_cons
    rw [front, List.cons_append] at read ⊢
    split
    · next same =>
      exact absurd (List.cons.inj same).1 other
    · exact read

theorem returns_record {room : Nat} {fields : List (String × Datum)}
    (distinct : (fields.map Prod.fst).Nodup) (plain : ∀ field ∈ fields, mark ∉ field.1.toList)
    (legible : ∀ field ∈ fields, Legible room field.2)
    (returns : ∀ field ∈ fields, Returns room field.2) : Returns (room + 1) (.record fields) := by
  intro spacing level fuel rest enough ends
  obtain ⟨fuel, rfl⟩ := Nat.exists_eq_add_one_of_ne_zero (Nat.ne_zero_of_lt enough)
  by_cases empty : fields = []
  · have closed : skipSpaces ('\x7d' :: rest) = '\x7d' :: rest := skipSpaces_cons rfl rest
    have same : written spacing level (.record []) ++ rest = '\x7b' :: '\x7d' :: rest := by
      simp [written, write, writeFields, enclose]
    rw [empty, same, readValue, closed]
    rfl
  · obtain ⟨first, gap, last, firstBlank, gapBlank, lastBlank, same⟩ :=
      exists_written_record empty spacing level
    rw [same] at enough ⊢
    simp only [List.length_cons, List.length_append, List.length_nil] at enough
    have few : ((',' :: gap).intercalate
        (fields.map (writtenField spacing (level + 1)))).length + 1 < fuel := by omega
    have read := readFields_written plain legible returns empty gapBlank lastBlank [] distinct rest few
    obtain ⟨field, fields, rfl⟩ := List.exists_cons_of_ne_nil empty
    have begins : Begins
        ((',' :: gap).intercalate ((field :: fields).map (writtenField spacing (level + 1)))) :=
      .intercalate ⟨'"', _, rfl, by simp⟩ _
    simp only [List.cons_append, List.append_assoc, List.nil_append]
    rw [readValue, skipSpaces_append firstBlank, begins.skipSpaces]
    obtain ⟨c, others, front, -, -, other, -⟩ := begins.exists_cons
    rw [front, List.cons_append] at read ⊢
    split
    · next same => exact absurd (List.cons.inj same).1 other
    · exact read

/-- A value is read back if it is written as a scalar, which is read back. -/
theorem returns_of_readScalar {room : Nat} {datum : Datum}
    (scalar : ∀ spacing level, ∃ c others, written spacing level datum = c :: others ∧
      (c ≠ '"' ∧ c ≠ '[' ∧ c ≠ '\x7b') ∧
      ∀ rest, Ends rest → readScalar (c :: (others ++ rest)) = .ok (datum, rest)) :
    Returns room datum := by
  intro spacing level fuel rest enough ends
  obtain ⟨fuel, rfl⟩ := Nat.exists_eq_add_one_of_ne_zero (Nat.ne_zero_of_lt enough)
  obtain ⟨c, others, same, ⟨quote, bracket, brace⟩, read⟩ := scalar spacing level
  rw [same, List.cons_append, readValue_cons quote bracket brace]
  exact read rest ends

theorem returns_null (room : Nat) : Returns room .null := by
  refine returns_of_readScalar fun spacing level => ⟨'n', ['u', 'l', 'l'], ?_, by decide, ?_⟩
  · simp [written, write]
  · exact fun _ _ => rfl

theorem returns_truth (room : Nat) (value : Bool) : Returns room (.truth value) := by
  refine returns_of_readScalar fun spacing level => ?_
  cases value with
  | false =>
      refine ⟨'f', ['a', 'l', 's', 'e'], ?_, by decide, fun _ _ => rfl⟩
      simp [written, write]
  | true =>
      refine ⟨'t', ['r', 'u', 'e'], ?_, by decide, fun _ _ => rfl⟩
      simp [written, write]

theorem returns_whole (room : Nat) {value : Int} (short : Text.IsShort value) :
    Returns room (.whole value) := by
  refine returns_of_readScalar fun spacing level => ?_
  obtain ⟨c, others, front, other⟩ := exists_toString_cons value
  refine ⟨c, others, ?_, other, fun rest ends => ?_⟩
  · rw [written, write, front]
  · have read := readScalar_toString short ends
    rwa [front, List.cons_append] at read

theorem returns_text (room : Nat) {text : String} (plain : mark ∉ text.toList) :
    Returns room (.text text) := by
  intro spacing level fuel rest enough ends
  obtain ⟨fuel, rfl⟩ := Nat.exists_eq_add_one_of_ne_zero (Nat.ne_zero_of_lt enough)
  have few : (textOf text).length < fuel + 1 := enough
  rw [written, write, toList_textOf, List.cons_append, readValue, List.append_assoc,
    List.singleton_append, readText_textOf plain _ rest few]
  rfl

theorem Legible.returns {room : Nat} {datum : Datum} (legible : Legible room datum)
    (short : isShort datum = true) : Returns room datum := by
  induction legible with
  | @null room => exact returns_null room
  | @truth room value => exact returns_truth room value
  | @whole room value => exact returns_whole room (of_decide_eq_true short)
  | @text room text plain => exact returns_text room plain
  | @list room items legible inductionHypothesis =>
      rw [isShort, areShort_iff] at short
      exact returns_list legible fun item listed => inductionHypothesis item listed (short item listed)
  | @record room fields distinct plain legible inductionHypothesis =>
      rw [isShort, haveShort_iff] at short
      exact returns_record distinct plain legible fun field listed =>
        inductionHypothesis field listed (short field listed)

theorem read_print {datum : Datum} {spacing : Spacing} {text : String}
    (legible : Legible greatestDepth datum) (printed : print spacing datum = .ok text) :
    read text.toList = .ok datum := by
  obtain ⟨short, rfl⟩ := print_eq_ok_iff.mp printed
  have returned := legible.returns short spacing 0 (2 * (written spacing 0 datum).length + 2) []
    (by omega) .nil
  obtain ⟨c, others, front, solid, -, -, markless⟩ := (legible.begins spacing 0).exists_cons
  have begins := skipSpaces_cons solid others
  rw [List.append_nil, written] at returned
  rw [front] at returned ⊢
  have read : readDocument (c :: others) = .ok datum := by
    unfold readDocument
    split
    · next same => exact absurd (List.cons.inj same).1 markless
    · rw [begins, returned]
      rfl
  rw [Json.read, read]

end Forage.Json
