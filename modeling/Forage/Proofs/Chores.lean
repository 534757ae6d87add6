import Forage.Proofs.Congruence

/-!
# Chores

What is done to a world by hand is made up of several changes: a forager that is let in is
moved onto the grid, counted, numbered and listed. Here each chore is taken apart into its
changes, in the order in which they are made, so that one can see what it would leave behind
if it failed halfway. None does: the cell is looked for before anything is changed, and
nothing about the cell makes a difference but what it stands for.
-/

namespace Forage

/-- A world and a forager that is at hand, be it one of the living or yet to be let in. -/
structure Hand (G : Type) where
  world : World G
  forager : Forager

/-- What may be done to a world by hand at a cell. -/
inductive Chore where
  | addFood (cell : Cell)
  | addWall (cell : Cell)
  /-- Takes the forager at hand to a cell. -/
  | relocate (cell : Cell)
  /-- Lets in a forager made for the purpose; the one at hand is left alone. -/
  | place (position : Cell) (heading : Heading) (tape : Tape) (energy : Option Int)
  /-- Lets the forager at hand in where it stands, be it new or known by a number. -/
  | enter (known : Option Nat)

namespace Hand

variable {G : Type}

section Changes

/-- The cell of the grid that a cell stands for; without one the chore ends here. -/
def requireCell (cell : Cell) : EStateM Fault (Hand G) Cell := fun hand =>
  match hand.world.config.requireCell cell with
  | .ok goal => .ok goal hand
  | .error fault => .error fault hand

def onGround (change : Ground → Ground) : EStateM Fault (Hand G) Unit :=
  modify fun hand =>
    { hand with world := { hand.world with ground := change hand.world.ground } }

def onForager (change : Forager → Forager) : EStateM Fault (Hand G) Unit :=
  modify fun hand => { hand with forager := change hand.forager }

/-- Takes the next number. -/
def issue : EStateM Fault (Hand G) Nat :=
  modifyGet fun hand =>
    (hand.world.nextId, { hand with world := { hand.world with nextId := hand.world.nextId + 1 } })

/-- Lists the forager at hand among the living. -/
def enlist (key : Nat) : EStateM Fault (Hand G) Unit :=
  modify fun hand => { hand with
    world := { hand.world with
      records := hand.world.records.insert key hand.forager
      live := hand.world.live.push key } }

def relocate (cell : Cell) : EStateM Fault (Hand G) Unit := do
  let target ← requireCell cell
  let hand ← get
  onGround (·.vacate hand.forager.position)
  onGround (·.occupy target)
  onForager ({ · with position := target })

def enter (known : Option Nat) : EStateM Fault (Hand G) Unit := do
  let hand ← get
  let position ← requireCell hand.forager.position
  onForager ({ · with position })
  onGround (·.occupy position)
  let number ← issue
  onForager ({ · with id := number })
  enlist (known.getD number)

/-- Has work done on another forager, and takes the one at hand up again. -/
def aside (forager : Forager) (work : EStateM Fault (Hand G) Unit) :
    EStateM Fault (Hand G) Unit := fun hand =>
  match work { hand with forager } with
  | .ok _ after => .ok () { after with forager := hand.forager }
  | .error fault after => .error fault { after with forager := hand.forager }

end Changes

/-- What is at hand when work on the world has come to an end, or has failed. -/
def holding (hand : Hand G) : Except Fault (Hand G) → EStateM.Result Fault (Hand G) Unit
  | .ok after => .ok () after
  | .error fault => .error fault hand

/-- The kind of fault that work ends with, if with any, and what it leaves at hand. -/
def outcome : EStateM.Result Fault (Hand G) Unit → Option FaultKind × Hand G
  | .ok _ after => (none, after)
  | .error fault after => (some fault.kind, after)

theorem get_bind (rest : Hand G → EStateM Fault (Hand G) Unit) (hand : Hand G) :
    (get >>= rest) hand = rest hand hand := rfl

/-- What begins with a search for a cell either makes its changes or leaves all as it is. -/
theorem requireCell_bind {hand : Hand G} {rest : Cell → EStateM Fault (Hand G) Unit}
    {done : Cell → Hand G} (cell : Cell) (each : ∀ goal, rest goal hand = .ok () (done goal)) :
    (requireCell cell >>= rest) hand =
      hand.holding ((hand.world.config.requireCell cell).map done) := by
  simp only [bind, EStateM.bind, requireCell]
  cases hand.world.config.requireCell cell with
  | error fault => rfl
  | ok goal => exact each goal

theorem enter_eq (known : Option Nat) (hand : Hand G) :
    enter known hand =
      hand.holding ((hand.world.config.requireCell hand.forager.position).map fun position =>
        ⟨hand.world.letInAgain (known.getD hand.world.nextId) { hand.forager with position },
          { hand.forager with id := hand.world.nextId, position }⟩) :=
  requireCell_bind hand.forager.position fun _ => rfl

end Hand

namespace Chore

variable {G : Type} {hand : Hand G} {cell first second goal : Cell}

/-- The cell at which a chore is done. -/
def target (hand : Hand G) : Chore → Cell
  | addFood cell | addWall cell | relocate cell | place cell _ _ _ => cell
  | enter _ => hand.forager.position

/-- The same chore at another cell; only where a forager enters is not for the chore to say. -/
def aimed (cell : Cell) : Chore → Chore
  | addFood _ => addFood cell
  | addWall _ => addWall cell
  | relocate _ => relocate cell
  | place _ heading tape energy => place cell heading tape energy
  | enter known => enter known

/-- A chore, change after change. -/
def perform : Chore → EStateM Fault (Hand G) Unit
  | addFood cell => do
      let goal ← Hand.requireCell cell
      Hand.onGround (·.sow goal)
  | addWall cell => do
      let goal ← Hand.requireCell cell
      Hand.onGround (·.build goal)
  | relocate cell => Hand.relocate cell
  | place position heading tape energy => do
      let hand ← get
      Hand.aside {
        id := Forager.outsider
        energy := energy.getD hand.world.config.initialEnergy
        position
        heading
        tape } (Hand.enter none)
  | enter known => Hand.enter known

/-- A chore as worlds and situations do it, in one. -/
def run (hand : Hand G) : Chore → Except Fault (Hand G)
  | addFood cell => return { hand with world := ← hand.world.addFood cell }
  | addWall cell => return { hand with world := ← hand.world.addWall cell }
  | relocate cell => do
      let situation ←
        Situation.relocate hand.world.config cell ⟨hand.world.ground, hand.forager⟩
      return ⟨{ hand.world with ground := situation.ground }, situation.forager⟩
  | place position heading tape energy =>
      return { hand with world := ← hand.world.place position heading tape energy }
  | enter none => do
      let world ← hand.world.add hand.forager
      return ⟨world, world.records[hand.world.nextId]?.getD hand.forager⟩
  | enter (some key) => do
      let world ← hand.world.addAgain key hand.forager
      return ⟨world, world.records[key]?.getD hand.forager⟩

/-- What a chore makes of what is at hand, once its cell is found. -/
def done (hand : Hand G) (goal : Cell) : Chore → Hand G
  | addFood _ => { hand with world := { hand.world with ground := hand.world.ground.sow goal } }
  | addWall _ => { hand with world := { hand.world with ground := hand.world.ground.build goal } }
  | relocate _ =>
      let situation := Situation.settle goal ⟨hand.world.ground, hand.forager⟩
      ⟨{ hand.world with ground := situation.ground }, situation.forager⟩
  | place _ heading tape energy =>
      { hand with world := hand.world.letIn {
          id := Forager.outsider
          energy := energy.getD hand.world.config.initialEnergy
          position := goal
          heading
          tape } }
  | enter known =>
      let forager := { hand.forager with position := goal }
      ⟨hand.world.letInAgain (known.getD hand.world.nextId) forager,
        { forager with id := hand.world.nextId }⟩

theorem perform_eq (chore : Chore) (hand : Hand G) :
    chore.perform hand =
      hand.holding ((hand.world.config.requireCell (chore.target hand)).map (chore.done hand)) := by
  cases chore with
  | addFood cell => exact Hand.requireCell_bind cell fun goal => rfl
  | addWall cell => exact Hand.requireCell_bind cell fun goal => rfl
  | relocate cell => exact Hand.requireCell_bind cell fun goal => rfl
  | enter known => exact Hand.enter_eq known hand
  | place position heading tape energy =>
      simp only [perform, Hand.get_bind, Hand.aside, Hand.enter_eq, target]
      cases hand.world.config.requireCell position <;> rfl

theorem run_eq (chore : Chore) (hand : Hand G) :
    chore.run hand =
      (hand.world.config.requireCell (chore.target hand)).map (chore.done hand) := by
  cases chore with
  | addFood cell =>
      simp only [run, target, World.addFood]
      cases hand.world.config.requireCell cell <;> rfl
  | addWall cell =>
      simp only [run, target, World.addWall]
      cases hand.world.config.requireCell cell <;> rfl
  | relocate cell =>
      simp only [run, target, Situation.relocate]
      cases hand.world.config.requireCell cell <;> rfl
  | place position heading tape energy =>
      simp only [run, target, World.place, World.add]
      cases hand.world.config.requireCell position <;> rfl
  | enter known =>
      cases known with
      | none =>
          simp only [run, target, World.add]
          cases hand.world.config.requireCell hand.forager.position with
          | error fault => rfl
          | ok position =>
              simp [Except.map, bind, Except.bind, pure, Except.pure, done, World.letIn,
                World.letInAgain]
      | some key =>
          simp only [run, target, World.addAgain]
          cases hand.world.config.requireCell hand.forager.position with
          | error fault => rfl
          | ok position =>
              simp [Except.map, bind, Except.bind, pure, Except.pure, done, World.letInAgain]

theorem perform_of_found (chore : Chore)
    (found : hand.world.config.normalize (chore.target hand) = some goal) :
    chore.perform hand = .ok () (chore.done hand goal) := by
  rw [perform_eq, Config.requireCell_eq_ok_iff.mpr found]
  rfl

theorem perform_of_nowhere (chore : Chore)
    (nowhere : hand.world.config.normalize (chore.target hand) = none) :
    chore.perform hand = .error (.offField (chore.target hand)) hand := by
  rw [perform_eq, Config.requireCell_of_nowhere nowhere]
  rfl

/-- A chore is done where it is aimed, unless it is to let the forager in where it stands. -/
theorem target_aimed (chore : Chore) (hand : Hand G) :
    (∀ cell, (chore.aimed cell).target hand = cell) ∨ ∀ cell, chore.aimed cell = chore := by
  cases chore with
  | enter known => exact .inr fun _ => rfl
  | _ => exact .inl fun _ => rfl

theorem done_aimed (chore : Chore) (hand : Hand G) (goal cell : Cell) :
    (chore.aimed cell).done hand goal = chore.done hand goal := by
  cases chore <;> rfl

/-- It makes no difference at which of the cells that stand for one cell a chore is done. -/
theorem outcome_aimed (chore : Chore)
    (same : hand.world.config.normalize first = hand.world.config.normalize second) :
    Hand.outcome ((chore.aimed first).perform hand) =
      Hand.outcome ((chore.aimed second).perform hand) := by
  rcases chore.target_aimed hand with there | fixed
  · cases reached : hand.world.config.normalize second with
    | none =>
        rw [perform_of_nowhere _ (by rw [there, same, reached]),
          perform_of_nowhere _ (by rw [there, reached])]
        rfl
    | some goal =>
        rw [perform_of_found _ (by rw [there, same, reached]),
          perform_of_found _ (by rw [there, reached]), done_aimed, done_aimed]
  · rw [fixed, fixed]

end Chore

namespace World

variable {G : Type} {world : World G} {key : Nat} {cell first second : Cell}

theorem relocate_of_nowhere (nowhere : world.config.normalize cell = none)
    (listed : key ∈ world.live.toList) (known : key ∈ world.records) :
    world.act key (.relocate cell) = .error (.offField cell) := by
  obtain ⟨forager, found⟩ : ∃ forager, world.records[key]? = some forager :=
    ⟨world.records[key], Std.ExtTreeMap.getElem?_eq_some_getElem known⟩
  unfold act
  rw [if_pos listed, found]
  simp only [Action.perform, Situation.relocate, Config.requireCell_of_nowhere nowhere]
  rfl

theorem changed_relocate (same : world.config.normalize first = world.config.normalize second)
    (key : Nat) :
    world.changed (world.act key (.relocate first)) =
      world.changed (world.act key (.relocate second)) := by
  have relocated (forager : Forager) :
      world.changed ((Situation.relocate world.config first ⟨world.ground, forager⟩).map
          (world.put key)) =
        world.changed ((Situation.relocate world.config second ⟨world.ground, forager⟩).map
          (world.put key)) := by
    unfold Situation.relocate
    cases reached : world.config.normalize second with
    | none =>
        rw [Config.requireCell_of_nowhere (same.trans reached),
          Config.requireCell_of_nowhere reached]
        rfl
    | some goal =>
        rw [Config.requireCell_eq_ok_iff.mpr (same.trans reached),
          Config.requireCell_eq_ok_iff.mpr reached]
  unfold act
  by_cases listed : key ∈ world.live.toList
  · rw [if_pos listed, if_pos listed]
    cases world.records[key]? with
    | none => rfl
    | some forager => exact relocated forager
  · rw [if_neg listed, if_neg listed]

end World

namespace Hand

variable {G : Type} {hand : Hand G} {cell first second : Cell}

/-- Two cells between which nothing that is asked or done makes a difference. -/
structure Alike (hand : Hand G) (first second : Cell) : Prop where
  isFood : hand.world.ground.isFood hand.world.config first =
    hand.world.ground.isFood hand.world.config second
  isWall : hand.world.ground.isWall hand.world.config first =
    hand.world.ground.isWall hand.world.config second
  isWalkable : hand.world.ground.isWalkable hand.world.config first =
    hand.world.ground.isWalkable hand.world.config second
  isOccupied : ∀ exclude, hand.world.ground.isOccupied hand.world.config first exclude =
    hand.world.ground.isOccupied hand.world.config second exclude
  removeFood : hand.world.removeFood first = hand.world.removeFood second
  chores : ∀ chore : Chore, outcome ((chore.aimed first).perform hand) =
    outcome ((chore.aimed second).perform hand)
  acts : ∀ key, hand.world.changed (hand.world.act key (.relocate first)) =
    hand.world.changed (hand.world.act key (.relocate second))

/-- A cell at which there is nothing and at which nothing can be done. -/
structure Refuses (hand : Hand G) (cell : Cell) : Prop where
  isFood : hand.world.ground.isFood hand.world.config cell = false
  isWall : hand.world.ground.isWall hand.world.config cell = false
  isWalkable : hand.world.ground.isWalkable hand.world.config cell = false
  isOccupied : ∀ exclude, hand.world.ground.isOccupied hand.world.config cell exclude = false
  removeFood : hand.world.removeFood cell = (false, hand.world)
  chores : ∀ chore : Chore, chore.target hand = cell →
    chore.perform hand = .error (.offField cell) hand
  acts : ∀ key ∈ hand.world.live.toList, key ∈ hand.world.records →
    hand.world.act key (.relocate cell) = .error (.offField cell)

/-- What is asked of a cell and done at it goes by the cell of the grid that it stands for. -/
structure ByCell (hand : Hand G) : Prop where
  folds : ∀ cell, hand.world.config.Folds cell
  alike : ∀ first second,
    hand.world.config.normalize first = hand.world.config.normalize second →
      hand.Alike first second
  refuses : ∀ cell, hand.world.config.normalize cell = none → hand.Refuses cell
  fails : ∀ chore : Chore,
    (∃ fault after, chore.perform hand = .error fault after ∧ fault.kind = .invalid) ↔
      hand.world.config.normalize (chore.target hand) = none
  succeeds : ∀ chore : Chore,
    (∃ after, chore.perform hand = .ok () after) ↔
      hand.world.config.normalize (chore.target hand) ≠ none
  /-- What is told here of chores taken apart is true of chores done in one. -/
  inOne : ∀ chore : Chore, chore.perform hand = hand.holding (chore.run hand)

theorem alike_of_same
    (same : hand.world.config.normalize first = hand.world.config.normalize second) :
    hand.Alike first second where
  isFood := Ground.holds_congr same _
  isWall := Ground.holds_congr same _
  isWalkable := Ground.isWalkable_congr same _
  isOccupied exclude := Ground.isOccupied_congr same _ exclude
  removeFood := by rw [World.removeFood, World.removeFood, Ground.harvest_congr same]
  chores chore := chore.outcome_aimed same
  acts key := World.changed_relocate same key

theorem refuses_of_nowhere (nowhere : hand.world.config.normalize cell = none) :
    hand.Refuses cell where
  isFood := by simp [Ground.isFood, Ground.holds, nowhere]
  isWall := by simp [Ground.isWall, Ground.holds, nowhere]
  isWalkable := by simp [Ground.isWalkable, nowhere]
  isOccupied exclude := World.isOccupied_of_nowhere nowhere exclude
  removeFood := by simp [World.removeFood, Ground.harvest, nowhere]
  chores chore aimed := by
    subst aimed
    exact chore.perform_of_nowhere nowhere
  acts key listed known := World.relocate_of_nowhere nowhere listed known

/--
Congruent cells are one cell to whatever is asked or done, and what is done beyond the grid
is refused before anything has changed.
-/
theorem byCell (valid : hand.world.config.Valid) : hand.ByCell where
  folds := valid.folds
  alike _ _ := alike_of_same
  refuses _ := refuses_of_nowhere
  fails chore := by
    constructor
    · rintro ⟨fault, after, failed, -⟩
      by_contra found
      obtain ⟨goal, found⟩ := Option.ne_none_iff_exists'.mp found
      rw [chore.perform_of_found found] at failed
      cases failed
    · intro nowhere
      exact ⟨_, hand, chore.perform_of_nowhere nowhere, rfl⟩
  succeeds chore := by
    constructor
    · rintro ⟨after, done⟩ nowhere
      rw [chore.perform_of_nowhere nowhere] at done
      cases done
    · intro found
      obtain ⟨goal, found⟩ := Option.ne_none_iff_exists'.mp found
      exact ⟨chore.done hand goal, chore.perform_of_found found⟩
  inOne chore := by rw [chore.perform_eq, chore.run_eq]

/-- An example: a forager beyond the end of a world whose rows wrap and whose columns do not. -/
def gardener : Hand Script where
  world := (World.empty { Config.default with wrapX := .truth false }
    (SeededSource.ofSeed 7)).perform (.addFood ⟨2, 3⟩)
  forager := {
    id := Forager.outsider
    energy := 5
    position := ⟨-1, 3⟩
    heading := .up
    tape := .ofList [.move] }

theorem byCell_gardener :
    gardener.world.config.Valid ∧
      gardener.world.config.normalize ⟨2, -97⟩ = some ⟨2, 3⟩ ∧
      gardener.world.ground.isFood gardener.world.config ⟨2, -97⟩ = true ∧
      gardener.world.config.normalize gardener.forager.position = none ∧ gardener.ByCell := by
  have valid : gardener.world.config.Valid :=
    ⟨fun parameter => by cases parameter <;> decide, rfl⟩
  exact ⟨valid, by decide, by decide +kernel, by decide, byCell valid⟩

end Hand

end Forage
