import Forage.Ordinal
import Forage.World.Tick

/-!
# The bench

A bench is a world on which single foragers are followed by tags. A tag stays with
its forager when it dies, and when the world is made anew; a forager that no world
knows is kept beside the world until it is let in.
-/

namespace Forage

/-- Where a tagged forager is found. -/
inductive Tag where
  | known (key : Nat)
  | outside (key : Nat)
deriving DecidableEq, Repr

structure Bench (G : Type) where
  world : World G
  outsiders : Std.ExtTreeMap Nat Forager
  /-- More than every key of an outsider. -/
  nextKey : Nat
  tags : Array Tag

namespace Bench

variable {G : Type}

def ofWorld (world : World G) : Bench G := ⟨world, ∅, 0, #[]⟩

def find (bench : Bench G) : Tag → Option Forager
  | .known key => bench.world.records[key]?
  | .outside key => bench.outsiders[key]?

/-- The tag of a given number, a negative one counting from the end. -/
def tag (bench : Bench G) (number : Int) : Except Fault Tag :=
  match (Ordinal.place? bench.tags.size number).bind fun place => bench.tags[place]? with
  | some tag => .ok tag
  | none => .error (.nothingAt number)

def forager (bench : Bench G) (tag : Tag) : Except Fault Forager :=
  match bench.find tag with
  | some forager => .ok forager
  | none => .error .missingKey

def put (bench : Bench G) (tag : Tag) (forager : Forager) : Bench G :=
  match tag with
  | .known key =>
      { bench with
        world := { bench.world with records := bench.world.records.insert key forager } }
  | .outside key => { bench with outsiders := bench.outsiders.insert key forager }

def attach (bench : Bench G) (tag : Tag) : Bench G :=
  { bench with tags := bench.tags.push tag }

def keep (bench : Bench G) (forager : Forager) : Bench G :=
  { bench with
    outsiders := bench.outsiders.insert bench.nextKey forager
    nextKey := bench.nextKey + 1
    tags := bench.tags.push (.outside bench.nextKey) }

def act {α : Type} (bench : Bench G) (tag : Tag)
    (action : Config → Situation → Except Fault (α × Situation)) : Except Fault (α × Bench G) := do
  let forager ← bench.forager tag
  let (result, situation) ← action bench.world.config ⟨bench.world.ground, forager⟩
  let bench := bench.put tag situation.forager
  return (result, { bench with world := { bench.world with ground := situation.ground } })

/-- Lets a tagged forager into the world; all its tags go with it. -/
def add (bench : Bench G) (tag : Tag) : Except Fault (Bench G) := do
  let forager ← bench.forager tag
  match tag with
  | .known key => return { bench with world := ← bench.world.addAgain key forager }
  | .outside _ =>
      let key := bench.world.nextId
      return { bench with
        world := ← bench.world.add forager
        tags := bench.tags.map fun other => if other = tag then .known key else other }

def place (bench : Bench G) (position : Cell) (heading : Heading) (tape : Tape)
    (energy : Option Int) : Except Fault (Bench G) := do
  let world ← bench.world.place position heading tape energy
  return { bench with world }.attach (.known bench.world.nextId)

def bind (bench : Bench G) (number : Int) : Except Fault (Bench G) :=
  let live := bench.world.live
  match (Ordinal.place? live.size number).bind fun place => live[place]? with
  | some key => .ok (bench.attach (.known key))
  | none => .error (.nothingAt number)

def split [WordSource G] (bench : Bench G) (tag : Tag) : Except Fault (Bench G) := do
  let forager ← bench.forager tag
  let (parent, young, source) := forager.split bench.world.config bench.world.source
  let bench := bench.put tag parent
  return { bench with world := { bench.world with source } }.keep young

/-- The bench with another world in place of the old one, whose foragers are kept beside it. -/
def replaceWorld (bench : Bench G) (world : World G) : Bench G where
  world
  outsiders := bench.world.records.foldl
    (fun outsiders key forager => outsiders.insert (bench.nextKey + key) forager) bench.outsiders
  nextKey := bench.nextKey + bench.world.nextId
  tags := bench.tags.map fun
    | .known key => .outside (bench.nextKey + key)
    | tag => tag

def reset [SeededSource G] (seed : Option Int) : EStateM Fault (Bench G) Unit := fun bench =>
  match World.reset seed bench.world with
  | .ok _ world => .ok () (bench.replaceWorld world)
  | .error fault world => .error fault (bench.replaceWorld world)

end Bench

end Forage
