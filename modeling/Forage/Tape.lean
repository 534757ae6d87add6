import Forage.Opcode
import Forage.Text.Quoted

/-!
# Tapes

A tape is a circle of opcodes with a pointer to the one that is run next. Two
tapes are the same program when they hold the same opcodes, wherever their
pointers stand.
-/

namespace Forage

/-- A circle of opcodes and the place of the one that is run next. -/
structure Tape where
  opcodes : List Opcode
  pointer : Int
deriving DecidableEq, Repr, Inhabited

def Opcode.label (opcodes : List Opcode) : String :=
  ",".intercalate (opcodes.map Opcode.name)

namespace Tape

/-- A tape of the given opcodes; a tape without any is given one that does nothing. -/
def filled (opcodes : List Opcode) : List Opcode :=
  match opcodes with
  | [] => [.sleep]
  | opcodes => opcodes

/-- A tape with its pointer at the given place, counted round the circle. -/
def startingAt (opcodes : List Opcode) (place : Int) : Tape :=
  ⟨filled opcodes, place % (filled opcodes).length⟩

def ofList (opcodes : List Opcode) : Tape :=
  startingAt opcodes 0

def length (tape : Tape) : Nat :=
  tape.opcodes.length

def label (tape : Tape) : String :=
  Opcode.label tape.opcodes

def shown (tape : Tape) : String :=
  s!"Program({Text.quoted tape.label}, pointer={tape.pointer})"

def sameProgram (a b : Tape) : Bool :=
  a.opcodes == b.opcodes

/--
The opcode under the pointer. A negative pointer counts from the end; one beyond
either end is under no opcode.
-/
def current? (tape : Tape) : Option Opcode :=
  if 0 ≤ tape.pointer then tape.opcodes[tape.pointer.toNat]?
  else if 0 ≤ tape.pointer + tape.length then
    tape.opcodes[(tape.pointer + tape.length).toNat]?
  else none

def advance (tape : Tape) (skipped : Int) : Tape :=
  { tape with pointer := (tape.pointer + 1 + skipped) % tape.length }

def rewound (tape : Tape) : Tape :=
  ofList tape.opcodes

theorem filled_ne_nil (opcodes : List Opcode) : filled opcodes ≠ [] := by
  unfold filled
  split <;> simp_all

theorem filled_of_ne_nil {opcodes : List Opcode} (h : opcodes ≠ []) : filled opcodes = opcodes := by
  unfold filled
  split <;> simp_all

theorem current?_eq_some {tape : Tape} (low : 0 ≤ tape.pointer)
    (high : tape.pointer < tape.length) : ∃ opcode, tape.current? = some opcode := by
  have bound : tape.pointer.toNat < tape.opcodes.length := by
    simp only [length] at high
    omega
  exact ⟨tape.opcodes[tape.pointer.toNat], by simp [current?, low, bound]⟩

end Tape

end Forage
