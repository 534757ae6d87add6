import Forage.Datum
import Forage.Fault

/-!
# Amounts

An amount is a number as it was given. Whole numbers and truth values count
something, a truth value one or nothing; a number that need not be whole is compared
with others but counts nothing, even if it happens to be whole.
-/

namespace Forage

inductive Amount where
  | whole (value : Int)
  | truth (value : Bool)
  | real (value : Binary64)
deriving DecidableEq, Repr

namespace Amount

def ofDatum : Datum → Except Fault Amount
  | .whole value => .ok (whole value)
  | .truth value => .ok (truth value)
  | .real value => .ok (real value)
  | _ => .error .wrongShape

def toDatum : Amount → Datum
  | whole value => .whole value
  | truth value => .truth value
  | real value => .real value

def count? : Amount → Option Int
  | whole value => some value
  | truth value => some (if value then 1 else 0)
  | real _ => none

/-- What an amount counts; one that counts nothing has the wrong shape. -/
def count (amount : Amount) : Except Fault Int :=
  match amount.count? with
  | some value => .ok value
  | none => .error .wrongShape

def isBelow (amount : Amount) (bound : Int) : Bool :=
  match amount with
  | real value => value.isBelow bound
  | amount => decide (amount.count?.getD 0 < bound)

def isPositive (amount : Amount) : Bool :=
  match amount with
  | real value => value.isPositive
  | amount => decide (0 < amount.count?.getD 0)

def divides (amount : Amount) (number : Int) : Bool :=
  match amount with
  | real value => value.divides number
  | amount => number % amount.count?.getD 0 == 0

/-- The amount that a datum gives, which must not be below the least. -/
def atLeast (name : String) (least : Int) (datum : Datum) : Except Fault Amount := do
  let amount ← ofDatum datum
  if amount.isBelow least then throw (.belowLeast name least)
  return amount

@[simp]
theorem ofDatum_toDatum (amount : Amount) : ofDatum amount.toDatum = .ok amount := by
  cases amount <;> rfl

theorem count_eq_ok_iff {amount : Amount} {value : Int} :
    amount.count = .ok value ↔ amount.count? = some value := by
  unfold count
  cases amount.count? <;> simp

theorem isBelow_eq {amount : Amount} {value : Int} (counted : amount.count = .ok value)
    (bound : Int) : amount.isBelow bound = decide (value < bound) := by
  cases amount with
  | real number => simp [count, count?] at counted
  | whole number =>
      obtain rfl := Except.ok.inj counted
      rfl
  | truth given =>
      obtain rfl := Except.ok.inj counted
      rfl

theorem isPositive_eq {amount : Amount} {value : Int} (counted : amount.count = .ok value) :
    amount.isPositive = decide (0 < value) := by
  cases amount with
  | real number => simp [count, count?] at counted
  | whole number | truth given =>
      obtain rfl := Except.ok.inj counted
      rfl

theorem divides_eq {amount : Amount} {value : Int} (counted : amount.count = .ok value)
    (number : Int) : amount.divides number = decide (value ∣ number) := by
  have same : amount.divides number = (number % value == 0) := by
    cases amount with
    | real given => simp [count, count?] at counted
    | whole given | truth given =>
        obtain rfl := Except.ok.inj counted
        rfl
  rw [same, Bool.beq_eq_decide_eq, decide_eq_decide, Int.dvd_iff_emod_eq_zero]

end Amount

end Forage
