import Forage.Binary64
import Forage.Scene

/-!
# Census

How many foragers of a scene carry each program, and how much energy they have on
average. The ranking puts the most common programs first and those that are
equally common in the order of their labels.
-/

namespace Forage

instance : Ord Opcode where
  compare a b := compare a.ctorIdx b.ctorIdx

instance : Std.TransOrd Opcode :=
  inferInstanceAs (Std.TransCmp (compareOn Opcode.ctorIdx))

instance : Std.LawfulEqOrd Opcode where
  eq_of_compare {a b} same := by
    have same : a.ctorIdx = b.ctorIdx := Std.LawfulEqOrd.eq_of_compare (α := Nat) same
    cases a <;> cases b <;> first | rfl | exact absurd same (by decide)

/-- A program and the number of foragers that carry it. -/
structure Standing where
  label : String
  count : Nat
deriving DecidableEq, Repr

namespace Standing

def precedes (a b : Standing) : Bool :=
  b.count < a.count || (a.count == b.count && decide (a.label ≤ b.label))

end Standing

namespace Scene

def census (scene : Scene) : Std.ExtTreeMap (List Opcode) Nat :=
  scene.sightings.foldl
    (fun census sighting =>
      census.insert sighting.opcodes (census.getD sighting.opcodes 0 + 1)) ∅

def distinctPrograms (scene : Scene) : Nat :=
  scene.census.size

def ranking (scene : Scene) : List Standing :=
  (scene.census.toList.map fun entry => ⟨Opcode.label entry.1, entry.2⟩).mergeSort
    Standing.precedes

/-- The first items of a list; a negative number leaves out so many at the end. -/
def leading {α : Type} (number : Int) (items : List α) : List α :=
  if 0 ≤ number then items.take number.toNat else items.take (items.length - number.natAbs)

def topPrograms (scene : Scene) (number : Int) : List Standing :=
  leading number scene.ranking

def energy (scene : Scene) : Int :=
  scene.sightings.foldl (fun total sighting => total + sighting.energy) 0

def meanEnergy (scene : Scene) : Except Fault (Option Binary64) :=
  match scene.sightings with
  | [] => .ok none
  | _ =>
      match Binary64.quotient? scene.energy scene.population with
      | some mean => .ok (some mean)
      | none => .error .tooLarge

end Scene

end Forage
