import Forage.Json.Printer
import Forage.Proofs.Bytes

/-!
# Plain documents

A datum whose texts have no marks is written as a text without marks, and without carriage
returns.
-/

namespace Forage

namespace Text

theorem toList_toString_ofNat (number : Nat) :
    (toString (Int.ofNat number)).toList = Nat.toDigits 10 number := by
  have same : toString (Int.ofNat number) = String.ofList (Nat.toDigits 10 number) := rfl
  rw [same, String.toList_ofList]

theorem toList_toString_negSucc (number : Nat) :
    (toString (Int.negSucc number)).toList = '-' :: Nat.toDigits 10 (number + 1) := by
  have same : toString (Int.negSucc number) =
      "-" ++ String.ofList (Nat.toDigits 10 (number + 1)) := rfl
  simp [same]

theorem notMem_toString {c : Char} (digit : c.isDigit = false) (sign : c ≠ '-') (number : Int) :
    c ∉ (toString number).toList := by
  have absent (value : Nat) : c ∉ Nat.toDigits 10 value := by
    intro member
    have isDigit := Nat.isDigit_of_mem_toDigits (by decide) (by decide) member
    rw [digit] at isDigit
    exact absurd isDigit (by decide)
  cases number with
  | ofNat value =>
      rw [toList_toString_ofNat]
      exact absent value
  | negSucc value =>
      rw [toList_toString_negSucc, List.mem_cons, not_or]
      exact ⟨sign, absent _⟩

theorem notMem_intercalate {c : Char} {between : String} {items : List String}
    (separate : c ∉ between.toList) (plain : ∀ item ∈ items, c ∉ item.toList) :
    c ∉ (between.intercalate items).toList := by
  rw [String.toList_intercalate, List.intercalate]
  induction items with
  | nil => simp
  | cons item items inductionHypothesis =>
      rw [List.forall_mem_cons] at plain
      cases items with
      | nil => simpa using plain.1
      | cons next items =>
          rw [List.map_cons, List.map_cons, List.intersperse_cons_cons, List.flatten_cons,
            List.flatten_cons, List.mem_append, List.mem_append, not_or, not_or]
          exact ⟨plain.1, separate, inductionHypothesis plain.2⟩

/-- What the text of a datum does not have of its own. -/
def foreign : List Char := [mark, '\r']

theorem forall_foreign {motive : Char → Prop} (first : motive mark) (second : motive '\r') :
    ∀ c ∈ foreign, motive c :=
  List.forall_mem_cons.mpr ⟨first, List.forall_mem_singleton.mpr second⟩

theorem notMem_hexDigits {c : Char} (other : c ∈ foreign) (width number : Nat) :
    c ∉ hexDigits width number := by
  have digit : ∀ c ∈ foreign, ∀ value < 16, c ≠ hexDigit value :=
    forall_foreign (by decide) (by decide)
  induction width generalizing number with
  | zero => simp [hexDigits]
  | succ width inductionHypothesis =>
      rw [hexDigits, List.mem_append, not_or, List.mem_singleton]
      exact ⟨inductionHypothesis _, digit c other _ (Nat.mod_lt _ (by decide))⟩

end Text

namespace Datum

mutual

/-- No text of a datum has a mark, and no number of it is real. -/
def isPlain : Datum → Bool
  | null => true
  | truth _ => true
  | whole _ => true
  | real _ => false
  | text value => !value.toList.contains Text.mark
  | list items => arePlain items
  | record fields => havePlain fields

def arePlain : List Datum → Bool
  | [] => true
  | item :: items => isPlain item && arePlain items

def havePlain : List (String × Datum) → Bool
  | [] => true
  | field :: fields =>
      !field.1.toList.contains Text.mark && isPlain field.2 && havePlain fields

end

end Datum

namespace Json

open Text (mark foreign)

variable {c : Char}

theorem notMem_escapeChar {d : Char} (other : c ∈ foreign) (plain : d ≠ mark) :
    c ∉ escapeChar d := by
  have known : ∀ c ∈ foreign, c ∉ ['"', '\\', 'n', 'r', 't', 'f', 'b', 'u'] :=
    Text.forall_foreign (by decide) (by decide)
  have apart {d : Char} (listed : d ∈ ['"', '\\', 'n', 'r', 't', 'f', 'b', 'u']) : c ≠ d :=
    (ne_of_mem_of_not_mem listed (known c other)).symm
  unfold escapeChar
  split_ifs with quote backslash line back
  · simp [apart]
  · simp [apart]
  · simp [apart]
  · simp [apart]
  · simp [apart]
  · simp [apart]
  · simp [apart]
  · simp [apart, Text.notMem_hexDigits other]
  · rw [List.mem_singleton]
    rintro rfl
    rcases List.mem_cons.mp other with same | same
    · exact plain same
    · exact back (List.mem_singleton.mp same)

theorem notMem_textOf {text : String} (other : c ∈ foreign) (plain : mark ∉ text.toList) :
    c ∉ (textOf text).toList := by
  have inside : c ∉ text.toList.flatMap escapeChar := by
    intro member
    obtain ⟨d, listed, escaped⟩ := List.mem_flatMap.mp member
    exact notMem_escapeChar other (ne_of_mem_of_not_mem listed plain) escaped
  have quote : ∀ c ∈ foreign, c ∉ "\"".toList := Text.forall_foreign (by decide) (by decide)
  simp only [textOf, String.toList_append, String.toList_ofList, List.mem_append, not_or]
  exact ⟨⟨quote c other, inside⟩, quote c other⟩

theorem notMem_around (other : c ∈ foreign) (spacing : Spacing) (level : Nat) :
    c ∉ (spacing.around level).1.toList ∧ c ∉ (spacing.around level).2.1.toList ∧
      c ∉ (spacing.around level).2.2.toList := by
  have known : ∀ c ∈ foreign, c ≠ ' ' ∧ c ∉ "\n".toList ∧ c ∉ ",".toList ∧ c ∉ ", ".toList :=
    Text.forall_foreign (by decide) (by decide)
  obtain ⟨blank, line, comma, both⟩ := known c other
  cases spacing with
  | oneLine =>
      change c ∉ "".toList ∧ c ∉ ", ".toList ∧ c ∉ "".toList
      exact ⟨List.not_mem_nil, both, List.not_mem_nil⟩
  | indented =>
      simp only [Spacing.around, String.toList_append, String.toList_ofList, List.mem_append,
        List.mem_replicate, line, comma, blank, and_false, or_false, not_false_eq_true, and_self]

theorem notMem_enclose {spacing : Spacing} {level : Nat} {left right : String}
    {items : List String} (other : c ∈ foreign) (opening : c ∉ left.toList)
    (closing : c ∉ right.toList) (plain : ∀ item ∈ items, c ∉ item.toList) :
    c ∉ (enclose spacing level left right items).toList := by
  obtain ⟨first, between, last⟩ := notMem_around other spacing level
  unfold enclose
  split
  · simp [opening, closing]
  · have inside := Text.notMem_intercalate between plain
    simp only [String.toList_append, List.mem_append, not_or]
    exact ⟨⟨⟨⟨opening, first⟩, inside⟩, last⟩, closing⟩

theorem notMem_known (other : c ∈ foreign) {text : String}
    (known : text ∈ ["null", "true", "false", "[", "]", "\x7b", "\x7d", ": "]) :
    c ∉ text.toList := by
  have each : ∀ c ∈ foreign, ∀ text ∈ ["null", "true", "false", "[", "]", "\x7b", "\x7d", ": "],
      c ∉ text.toList := Text.forall_foreign (by decide) (by decide)
  exact each c other text known

mutual

theorem notMem_write (other : c ∈ foreign) (spacing : Spacing) (level : Nat) :
    (datum : Datum) → datum.isPlain = true → c ∉ (write spacing level datum).toList
  | .null, _ => by
      rw [write]
      exact notMem_known other (by simp)
  | .truth value, _ => by
      rw [write]
      cases value <;> exact notMem_known other (by simp)
  | .whole value, _ => by
      have known : ∀ c ∈ foreign, c.isDigit = false ∧ c ≠ '-' :=
        Text.forall_foreign (by decide) (by decide)
      exact Text.notMem_toString (known c other).1 (known c other).2 value
  | .text value, plain => by
      apply notMem_textOf other
      simpa [Datum.isPlain] using plain
  | .list items, plain => by
      rw [write]
      exact notMem_enclose other (notMem_known other (by simp)) (notMem_known other (by simp))
        (notMem_writeItems other spacing (level + 1) items plain)
  | .record fields, plain => by
      rw [write]
      exact notMem_enclose other (notMem_known other (by simp)) (notMem_known other (by simp))
        (notMem_writeFields other spacing (level + 1) fields plain)

theorem notMem_writeItems (other : c ∈ foreign) (spacing : Spacing) (level : Nat) :
    (items : List Datum) → Datum.arePlain items = true →
      ∀ written ∈ writeItems spacing level items, c ∉ written.toList
  | [], _ => by simp [writeItems]
  | item :: items, plain => by
      simp only [Datum.arePlain, Bool.and_eq_true] at plain
      rw [writeItems, List.forall_mem_cons]
      exact ⟨notMem_write other spacing level item plain.1,
        notMem_writeItems other spacing level items plain.2⟩

theorem notMem_writeFields (other : c ∈ foreign) (spacing : Spacing) (level : Nat) :
    (fields : List (String × Datum)) → Datum.havePlain fields = true →
      ∀ written ∈ writeFields spacing level fields, c ∉ written.toList
  | [], _ => by simp [writeFields]
  | field :: fields, plain => by
      simp only [Datum.havePlain, Bool.and_eq_true, Bool.not_eq_true', List.contains_eq_mem,
        decide_eq_false_iff_not] at plain
      have value := notMem_write other spacing level field.2 plain.1.2
      rw [writeFields, List.forall_mem_cons]
      refine ⟨?_, notMem_writeFields other spacing level fields plain.2⟩
      simp only [String.toList_append, List.mem_append, not_or]
      exact ⟨⟨notMem_textOf other plain.1.1, notMem_known other (by simp)⟩, value⟩

end

end Json

end Forage
