import Forage.Fault
import Forage.Tape.Mutation
import Forage.Text.Blank
import Forage.Text.Upper

/-!
# Tapes from text

A tape is written as the names of its opcodes between commas, in any case, with
blanks around them; blank stretches between commas count for nothing.
-/

namespace Forage.Tape

/-- The opcodes named by a list of names; the first name that is none of an opcode is at fault. -/
def opcodesOfNames : List String → Except Fault (List Opcode)
  | [] => .ok []
  | name :: names =>
      match Opcode.ofName? name with
      | none => .error (.unknownOpcode name)
      | some opcode => (opcodesOfNames names).map (opcode :: ·)

def namesOf (text : String) : List String :=
  (Text.commaParts text.toList).map fun part => String.ofList (Text.upper part)

def parse (text : String) : Except Fault Tape :=
  match namesOf text with
  | [] => .error .emptyTape
  | names => (opcodesOfNames names).map ofList

def random {G : Type} [WordSource G] (length : Int) (vocabulary : Vocabulary) (source : G) :
    Except Fault (Tape × G) :=
  if length < 1 then .error .tapeTooShort
  else
    let (opcodes, source) := drawOpcodes vocabulary length.toNat source
    .ok (ofList opcodes, source)

end Forage.Tape
