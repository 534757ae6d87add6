import Forage.World.Tick

/-!
# Shared tapes

Whoever lets a forager in may hand it a tape that another forager carries. From then on the two
carry one tape, and a step of either of them moves the pointer for both. In all else such a world
is a world like any other.
-/

namespace Forage

/-- A world in which foragers may carry one tape together. -/
structure Shared (G : Type) where
  world : World G
  /-- For a forager that was let in with the tape of another, the first that carried this tape. -/
  ties : Std.ExtTreeMap Nat Nat

namespace Shared

variable {G : Type}

/-- A world in which every forager has a tape of its own. -/
def ofWorld (world : World G) : Shared G := ⟨world, ∅⟩

/-- The first forager that carried the tape of a given one. -/
def origin (shared : Shared G) (key : Nat) : Nat :=
  shared.ties.getD key key

/-- Shows the tape of a forager to all who carry it. -/
def spread (key : Nat) (shared : Shared G) : Shared G :=
  match shared.world.records[key]? with
  | none => shared
  | some forager =>
      let records := shared.world.records.map fun other record =>
        if shared.origin other = shared.origin key then { record with tape := forager.tape }
        else record
      { shared with world := { shared.world with records } }

def stepOne (key : Nat) : EStateM Fault (Shared G) Unit := fun shared =>
  match World.stepOne key shared.world with
  | .ok _ world => .ok () ({ shared with world }.spread key)
  | .error fault world => .error fault { shared with world }

def stepAll : (keys : List Nat) → EStateM Fault (Shared G) Unit
  | [], shared => .ok () shared
  | key :: keys, shared =>
      match stepOne key shared with
      | .ok _ shared => stepAll keys shared
      | .error fault shared => .error fault shared

def tick [WordSource G] : EStateM Fault (Shared G) Report := fun shared =>
  let cohort := shared.world.live.toList
  let world := ({ shared.world with step := shared.world.step + 1 } : World G).regrow
  match stepAll cohort { shared with world } with
  | .error fault shared => .error fault shared
  | .ok _ shared =>
      let (report, world) := shared.world.settle cohort.length
      .ok report { shared with world }

/-- Lets in a new forager that carries the tape of one that was let in before. -/
def join (shared : Shared G) (carrier : Nat) (position : Cell) (heading : Heading)
    (energy : Option Int) : Except Fault (Shared G) :=
  match shared.world.records[carrier]? with
  | none => .error .missingKey
  | some forager => do
      let world ← shared.world.place position heading forager.tape energy
      return ⟨world, shared.ties.insert shared.world.nextId (shared.origin carrier)⟩

end Shared

end Forage
