import Forage.Proofs.Sound

/-!
# Guarded steps

Numbers are drawn, tapes edited and cells entered without a look at whether that may
be. Here each of these is guarded: to draw from no numbers at all, to edit a place
that a tape does not have and to enter a cell beyond the grid are faults. Where the
configuration is valid, what is guarded does what it does without its guards.
-/

namespace Forage

namespace Guarded

variable {G : Type} [WordSource G]

section Draws

/-- A draw from no numbers at all is a fault. -/
def below (n : Nat) (source : G) : Except Fault (Nat × G) :=
  if n = 0 then .error .emptyRange else .ok (Draw.below n source)

def pick {α : Type} (choices : List α) (source : G) : Except Fault (α × G) := do
  let (index, source) ← below choices.length source
  match choices[index]? with
  | some choice => return (choice, source)
  | none => throw (.nothingAt index)

def drawCell (config : Config) (source : G) : Except Fault (Cell × G) := do
  let (x, source) ← below config.width.toNat source
  let (y, source) ← below config.height.toNat source
  return (⟨x, y⟩, source)

theorem below_eq {n : Nat} (positive : 0 < n) (source : G) :
    below n source = .ok (Draw.below n source) := by
  simp [below, Nat.ne_of_gt positive]

theorem pick_eq {α : Type} {choices : List α} (nonempty : choices ≠ []) (default : α)
    (source : G) : pick choices source = .ok (Draw.pick choices default source) := by
  have positive := List.length_pos_iff.mpr nonempty
  have bound := Draw.below_lt positive source
  simp only [pick, below_eq positive, Draw.pick, bind, Except.bind, List.getD_eq_getElem?_getD,
    List.getElem?_eq_getElem bound]
  rfl

theorem drawCell_eq {config : Config} (valid : config.Valid) (source : G) :
    drawCell config source = .ok (config.drawCell source) := by
  have width := valid.width_pos
  have height := valid.height_pos
  have columns : 0 < config.width.toNat := by omega
  have rows : 0 < config.height.toNat := by omega
  simp only [drawCell, below_eq columns, below_eq rows]
  rfl

end Draws

section Tapes

/-- Deleting or overwriting where a tape has no opcode is a fault. -/
def edit (opcodes : List Opcode) : Edit → Except Fault (List Opcode)
  | .insert place opcode => .ok (opcodes.insertIdx place opcode)
  | .delete place =>
      if place < opcodes.length then .ok (opcodes.eraseIdx place) else .error (.nothingAt place)
  | .overwrite place opcode =>
      if place < opcodes.length then .ok (opcodes.set place opcode) else .error (.nothingAt place)

def drawEdit (vocabulary : Vocabulary) (length : Nat) (source : G) : Except Fault (Edit × G) := do
  let (candidate, source) ← pick vocabulary.opcodes source
  let (kind, source) ← below Edit.kinds source
  if kind = 0 then
    let (place, source) ← below length source
    return (.delete place, source)
  else if kind = 1 then
    let (place, source) ← below (length + 1) source
    return (.insert place candidate, source)
  else
    let (place, source) ← below length source
    return (.overwrite place candidate, source)

def mutate (tape : Tape) (rate : Int) (vocabulary : Vocabulary) (source : G) :
    Except Fault (Tape × G) := do
  let (roll, source) ← below Tape.percent source
  if rate ≤ roll then return (tape.rewound, source)
  let (change, source) ← drawEdit vocabulary tape.length source
  return (.ofList (← edit tape.opcodes change), source)

def drawOpcodes (vocabulary : Vocabulary) : (count : Nat) → G → Except Fault (List Opcode × G)
  | 0, source => .ok ([], source)
  | count + 1, source => do
      let (opcode, source) ← pick vocabulary.opcodes source
      let (opcodes, source) ← drawOpcodes vocabulary count source
      return (opcode :: opcodes, source)

def drawTape (config : Config) (source : G) : Except Fault (Tape × G) :=
  match config.initialOpcodes with
  | some opcodes => .ok (.ofList opcodes, source)
  | none => do
      if config.randomLength.isBelow 1 then throw .tapeTooShort
      let length ← config.randomLength.count
      let (opcodes, source) ← drawOpcodes config.vocabulary length.toNat source
      return (.ofList opcodes, source)

theorem drawOpcode_eq (vocabulary : Vocabulary) (source : G) :
    pick vocabulary.opcodes source = .ok (vocabulary.draw source) :=
  pick_eq vocabulary.opcodes_ne_nil _ source

theorem drawEdit_eq (vocabulary : Vocabulary) {length : Nat} (positive : 0 < length) (source : G) :
    drawEdit vocabulary length source = .ok (Edit.draw vocabulary length source) := by
  have kinds : 0 < Edit.kinds := by decide
  simp only [drawEdit, Edit.draw, drawOpcode_eq, below_eq kinds, below_eq positive,
    below_eq (Nat.succ_pos length), bind, Except.bind, pure, Except.pure]
  split
  · rfl
  · split <;> rfl

theorem edit_eq (vocabulary : Vocabulary) {opcodes : List Opcode} (nonempty : opcodes ≠ [])
    (source : G) :
    edit opcodes (Edit.draw vocabulary opcodes.length source).1 =
      .ok ((Edit.draw vocabulary opcodes.length source).1.apply opcodes) := by
  have positive := List.length_pos_iff.mpr nonempty
  simp only [Edit.draw]
  split
  · simp [edit, Edit.apply, Draw.below_lt positive]
  · split
    · rfl
    · simp [edit, Edit.apply, Draw.below_lt positive]

theorem mutate_eq {tape : Tape} (nonempty : tape.opcodes ≠ []) (rate : Int)
    (vocabulary : Vocabulary) (source : G) :
    mutate tape rate vocabulary source = .ok (tape.mutate rate vocabulary source) := by
  have percent : 0 < Tape.percent := by decide
  have positive : 0 < tape.length := List.length_pos_iff.mpr nonempty
  have fits := edit_eq vocabulary nonempty (Draw.below Tape.percent source).2
  simp only [mutate, Tape.mutate, below_eq percent, drawEdit_eq vocabulary positive, bind,
    Except.bind, pure, Except.pure]
  split
  · rfl
  · rw [Tape.length, fits]
    rfl

theorem drawOpcodes_eq (vocabulary : Vocabulary) (count : Nat) (source : G) :
    drawOpcodes vocabulary count source = .ok (Tape.drawOpcodes vocabulary count source) := by
  induction count generalizing source with
  | zero => rfl
  | succ count inductionHypothesis =>
      simp only [drawOpcodes, drawOpcode_eq, inductionHypothesis, bind, Except.bind]
      rfl

theorem drawTape_eq {config : Config} (valid : config.Valid) (source : G) :
    drawTape config source = config.drawTape source := by
  unfold drawTape Config.drawTape
  cases config.initialOpcodes with
  | some opcodes => rfl
  | none =>
      simp only [valid.2, drawOpcodes_eq]
      rfl

end Tapes

section Foragers

def split (config : Config) (parent : Forager) (source : G) :
    Except Fault (Forager × Forager × G) := do
  let (position, source) ← drawCell config source
  let (heading, source) ← pick Heading.clockwise source
  let (tape, source) ← mutate parent.tape config.mutationRate config.vocabulary source
  let half := parent.energy / 2
  return ({ parent with energy := half },
    { id := Forager.outsider, energy := half, position, heading, tape }, source)

theorem drawHeading_eq (source : G) : pick Heading.clockwise source = .ok (Heading.draw source) :=
  pick_eq (by decide) _ source

theorem split_eq {config : Config} (valid : config.Valid) {parent : Forager}
    (nonempty : parent.tape.opcodes ≠ []) (source : G) :
    split config parent source = .ok (parent.split config source) := by
  simp only [split, drawCell_eq valid, drawHeading_eq, mutate_eq nonempty, bind, Except.bind]
  rfl

/-- Goes one cell forward; the cell is looked at again before it is entered. -/
def move (config : Config) (situation : Situation) : Except Fault (Bool × Situation) :=
  match situation.ahead config with
  | none => .ok (false, situation)
  | some goal =>
      if situation.ground.isWalkable config goal then
        ((situation.eat config goal).relocate config goal).map fun moved => (true, moved)
      else .ok (false, situation)

def perform (config : Config) (opcode : Opcode) (situation : Situation) :
    Except Fault (Nat × Situation) :=
  match opcode with
  | .doubleMove => do
      let (_, situation) ← move config situation
      let (_, situation) ← move config situation
      return (0, situation)
  | .move => do
      let (_, situation) ← move config situation
      return (0, situation)
  | opcode => .ok (situation.perform config opcode)

def execute (config : Config) (situation : Situation) : Except Fault (Opcode × Situation) :=
  match situation.forager.tape.current? with
  | none => .error (.noOpcode situation.forager.tape.pointer)
  | some opcode => do
      let (skipped, situation) ← perform config opcode situation
      return (opcode, situation.turn fun forager =>
        { forager with tape := forager.tape.advance skipped })

def step (config : Config) (situation : Situation) : Except Fault Situation := do
  let (_, situation) ← execute config situation
  return (situation.eat config situation.forager.position).pay config

variable {config : Config}

theorem requireCell_eq {cell : Cell} (inGrid : config.InGrid cell) :
    config.requireCell cell = .ok cell :=
  Config.requireCell_eq_ok_iff.mpr (Config.normalize_of_inGrid inGrid)

theorem move_eq (valid : config.Valid) (situation : Situation) :
    move config situation = .ok (situation.move config) := by
  unfold move Situation.move
  cases reached : situation.ahead config with
  | none => rfl
  | some goal =>
      have inGrid : config.InGrid goal := valid.inGrid_of_normalize reached
      simp only [Situation.relocate, requireCell_eq inGrid]
      split <;> rfl

theorem perform_eq (valid : config.Valid) (opcode : Opcode) (situation : Situation) :
    perform config opcode situation = .ok (situation.perform config opcode) := by
  cases opcode with
  | doubleMove | move =>
      simp only [perform, move_eq valid, bind, Except.bind]
      rfl
  | left | right | ifEntity | ifFood | ifWall | skip | skip2 | sleep => rfl

theorem execute_eq (valid : config.Valid) (situation : Situation) :
    execute config situation = situation.execute config := by
  unfold execute Situation.execute
  cases situation.forager.tape.current? with
  | none => rfl
  | some opcode =>
      simp only [perform_eq valid, bind, Except.bind]
      rfl

theorem step_eq (valid : config.Valid) (situation : Situation) :
    step config situation = situation.step config := by
  simp only [step, Situation.step, execute_eq valid]

end Foragers

end Guarded

end Forage
