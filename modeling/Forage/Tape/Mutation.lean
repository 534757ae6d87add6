import Forage.Tape

/-!
# Mutation

With a probability given in percent an offspring's tape differs from its parent's
by one edit: an opcode is deleted, inserted or overwritten. The candidate opcode
is drawn before the kind of edit, for deletions too, and the place last.
-/

namespace Forage

inductive Edit where
  | delete (place : Nat)
  | insert (place : Nat) (opcode : Opcode)
  | overwrite (place : Nat) (opcode : Opcode)
deriving DecidableEq, Repr

namespace Edit

def apply (edit : Edit) (opcodes : List Opcode) : List Opcode :=
  match edit with
  | delete place => opcodes.eraseIdx place
  | insert place opcode => opcodes.insertIdx place opcode
  | overwrite place opcode => opcodes.set place opcode

def kinds : Nat := 3

variable {G : Type} [WordSource G]

/-- Draws an edit of a tape with `length` opcodes: candidate, kind, place. -/
def draw (vocabulary : Vocabulary) (length : Nat) (source : G) : Edit × G :=
  let (candidate, source) := vocabulary.draw source
  let (kind, source) := Draw.below kinds source
  if kind = 0 then
    let (place, source) := Draw.below length source
    (delete place, source)
  else if kind = 1 then
    let (place, source) := Draw.below (length + 1) source
    (insert place candidate, source)
  else
    let (place, source) := Draw.below length source
    (overwrite place candidate, source)

end Edit

namespace Tape

def percent : Nat := 100

variable {G : Type} [WordSource G]

def edited (tape : Tape) (edit : Edit) : Tape :=
  ofList (edit.apply tape.opcodes)

/-- The tape of an offspring: a copy, with one edit in `rate` of a hundred cases. -/
def mutate (tape : Tape) (rate : Int) (vocabulary : Vocabulary) (source : G) : Tape × G :=
  let (roll, source) := Draw.below percent source
  if rate ≤ roll then (tape.rewound, source)
  else
    let (edit, source) := Edit.draw vocabulary tape.length source
    (tape.edited edit, source)

theorem pointer_mutate (tape : Tape) (rate : Int) (vocabulary : Vocabulary) (source : G) :
    (tape.mutate rate vocabulary source).1.pointer = 0 := by
  unfold mutate
  dsimp only
  split
  · exact Int.zero_emod _
  · exact Int.zero_emod _

def drawOpcodes (vocabulary : Vocabulary) : (count : Nat) → G → List Opcode × G
  | 0, source => ([], source)
  | count + 1, source =>
      let (opcode, source) := vocabulary.draw source
      let (opcodes, source) := drawOpcodes vocabulary count source
      (opcode :: opcodes, source)

end Tape

end Forage
