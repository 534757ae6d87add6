import Forage.World.Tick

/-!
# Histories of worlds

Everything that may be done to a world once it is there, and the worlds that can
come of it. What fails is not done, except that a tick or a new stocking leaves
what it had done by then.
-/

namespace Forage

/-- What one forager may be told to do. -/
inductive Action where
  | turnLeft
  | turnRight
  | move
  | step
  | relocate (cell : Cell)
deriving DecidableEq, Repr

/-- What comes of an action. -/
def Action.perform (config : Config) (situation : Situation) : Action → Except Fault Situation
  | turnLeft => .ok (situation.turn Forager.turnLeft)
  | turnRight => .ok (situation.turn Forager.turnRight)
  | move => .ok (situation.move config).2
  | step => situation.step config
  | relocate cell => situation.relocate config cell

/-- What may be done to a world. Whoever is placed in it has a tape of its own. -/
inductive Deed where
  | tick
  | place (position : Cell) (heading : Heading) (opcodes : List Opcode) (pointer : Int)
      (energy : Option Int)
  | addFood (cell : Cell)
  | addWall (cell : Cell)
  | removeFood (cell : Cell)
  | update (changes : List (String × Datum))
  | reset (seed : Option Int)
  /-- Tells one of the living to do something. -/
  | act (key : Nat) (action : Action)

namespace World

variable {G : Type}

/-- Lets one of the living act. -/
def act (world : World G) (key : Nat) (action : Action) : Except Fault (World G) :=
  if key ∈ world.live.toList then
    match world.records[key]? with
    | none => .error .missingKey
    | some forager =>
        (action.perform world.config ⟨world.ground, forager⟩).map (world.put key)
  else .error .missingKey

/-- The world after a change, or as it was if the change has failed. -/
def changed (world : World G) : Except Fault (World G) → World G
  | .ok after => after
  | .error _ => world

/-- The world that work leaves behind, whether it comes to its end or not. -/
def left {α : Type} : EStateM.Result Fault (World G) α → World G
  | .ok _ world => world
  | .error _ world => world

variable [SeededSource G]

/-- The world after a deed. -/
def perform (world : World G) : Deed → World G
  | .tick => left world.tick
  | .place position heading opcodes pointer energy =>
      world.changed (world.place position heading (.startingAt opcodes pointer) energy)
  | .addFood cell => world.changed (world.addFood cell)
  | .addWall cell => world.changed (world.addWall cell)
  | .removeFood cell => (world.removeFood cell).2
  | .update changes => world.changed (world.update changes)
  | .reset seed => left (World.reset seed world)
  | .act key action => world.changed (world.act key action)

/-- The worlds that deeds can lead to, beginning with an empty or a stocked one. -/
inductive Reachable : World G → Prop where
  | empty {config} (valid : config.Valid) (source : G) : Reachable (World.empty config source)
  | create {config} (valid : config.Valid) (source : G) {world} :
      World.create config source = .ok world → Reachable world
  | perform {world} (deed : Deed) : Reachable world → Reachable (world.perform deed)

end World

end Forage
