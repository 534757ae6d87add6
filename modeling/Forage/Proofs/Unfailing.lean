import Forage.Proofs.Guarded.World

/-!
# Worlds that cannot fail

Whatever is done to a world, what it stores stays on its grid and every one of the
living has an opcode under its pointer. Nothing is then left that could stop a tick,
and a new stocking is stopped only where the length of a tape is no number of opcodes.
-/

namespace Forage

/-- First foragers can be given tapes: their opcodes are known, or how many they are to draw. -/
def Config.Equips (config : Config) : Prop :=
  config.initialOpcodes.isSome ∨ config.randomLength.count?.isSome

instance (config : Config) : Decidable config.Equips :=
  inferInstanceAs (Decidable (_ ∨ _))

theorem Config.equips_of_whole {config : Config} {length : Int}
    (whole : config.randomLength = .whole length) : config.Equips :=
  .inr (by simp [whole, Amount.count?])

namespace World

variable {G : Type} {world : World G}

/-- What a world stores lies on its grid, and its foragers have opcodes to run. -/
structure InBounds (world : World G) : Prop where
  food : ∀ cell ∈ world.ground.food, world.config.InGrid cell
  walls : ∀ cell ∈ world.ground.walls, world.config.InGrid cell
  crowd : ∀ cell ∈ world.ground.crowd, world.config.InGrid cell
  living : ∀ key ∈ world.live.toList, ∃ forager, world.records[key]? = some forager ∧
    world.config.InGrid forager.position ∧ forager.tape.opcodes ≠ [] ∧
    0 ≤ forager.tape.pointer ∧ forager.tape.pointer < forager.tape.opcodes.length

theorem Sound.inBounds (sound : world.Sound) : world.InBounds where
  food := sound.food
  walls := sound.walls
  crowd := by
    intro cell stored
    have counted := sound.counts.tidy cell stored
    rw [sound.counts.count, headcount, List.countP_pos_iff] at counted
    obtain ⟨forager, listed, here⟩ := counted
    have standing : forager.position = cell := by simpa using here
    exact standing ▸ (sound.fit forager listed).position
  living := by
    intro key listed
    obtain ⟨forager, found, -⟩ := sound.enrolled.known key listed
    have fit := sound.fit forager (mem_called.mpr ⟨key, listed, found⟩)
    have nonempty := List.length_pos_iff.mp fit.tape.length_pos
    exact ⟨forager, found, fit.position, nonempty, fit.tape.1, fit.tape.2⟩

section Stock

variable [WordSource G]

theorem drawTape_eq_ok_iff {config : Config} {source : G} :
    (∃ taped, config.drawTape source = .ok taped) ↔ config.Equips := by
  unfold Config.drawTape Config.Equips
  cases config.initialOpcodes with
  | some opcodes => simp
  | none =>
      simp only [bind_eq_ok_iff, pure_eq_ok_iff, Amount.count]
      cases config.randomLength.count? <;> simp

theorem welcome_eq_ok_iff :
    (∃ after, welcome world = .ok () after) ↔ world.config.Equips := by
  rw [← @drawTape_eq_ok_iff _ _ _ (Heading.draw (world.config.drawCell world.source).2).2]
  unfold welcome
  dsimp only
  cases world.config.drawTape (Heading.draw (world.config.drawCell world.source).2).2 <;> simp

/-- First foragers are let in if they can be given tapes, or if there are none. -/
theorem populate_eq_ok_iff {count : Nat} :
    (∃ after, populate count world = .ok () after) ↔ world.config.Equips ∨ count = 0 := by
  induction count generalizing world with
  | zero => simp [populate]
  | succ count inductionHypothesis =>
      have config := config_welcome world
      have first : (∃ after, welcome world = .ok () after) ↔ world.config.Equips :=
        welcome_eq_ok_iff
      unfold populate
      cases welcomed : welcome world with
      | error fault after => simpa [welcomed] using first
      | ok value after =>
          rw [welcomed] at config
          have equips : world.config.Equips := first.mp ⟨after, welcomed⟩
          have onward : after.config.Equips := config ▸ equips
          simp [inductionHypothesis, onward, equips]

theorem stock_eq_ok_iff :
    (∃ after, stock world = .ok () after) ↔
      world.config.Equips ∨ world.config.initialPopulation.toNat = 0 := by
  unfold stock
  rw [populate_eq_ok_iff, config_wall, config_sow]

end Stock

variable [SeededSource G]

/-- A sound world is made anew, with guards or without, if tapes can be given out or none are needed. -/
theorem Sound.reset_eq_ok_iff (sound : world.Sound) (seed : Option Int) :
    (∃ after, World.reset seed world = .ok () after ∧ Guarded.reset seed world = .ok after) ↔
      world.config.Equips ∨ world.config.initialPopulation = 0 := by
  have least : 0 ≤ world.config.initialPopulation := (sound.valid.admits .initialPopulation).1
  have completes : (∃ after, World.reset seed world = .ok () after) ↔
      world.config.Equips ∨ world.config.initialPopulation.toNat = 0 := stock_eq_ok_iff
  rw [show world.config.initialPopulation = 0 ↔ world.config.initialPopulation.toNat = 0 by omega,
    ← completes]
  constructor
  · rintro ⟨after, done, -⟩
    exact ⟨after, done⟩
  · rintro ⟨after, done⟩
    refine ⟨after, done, ?_⟩
    have guarded : Guarded.reset seed world = Guarded.outcome (World.reset seed world) :=
      Guarded.stock_eq sound.valid
    rw [guarded, done]
    rfl

/--
In every world that can be reached all that is stored is in bounds. Its next tick
comes to its end, with a guard at every draw, at every edit of a tape and at every cell
that is entered, and so does a new stocking if the length of first tapes is a whole
number; whatever that length is, wherever tapes can be given out or none are needed.
-/
theorem Reachable.unfailing (reachable : world.Reachable) :
    world.InBounds ∧
      (∃ report after, world.tick = .ok report after ∧
        Guarded.tick world = .ok (report, after)) ∧
      (∀ seed length, world.config.randomLength = .whole length →
        ∃ after, World.reset seed world = .ok () after ∧
          Guarded.reset seed world = .ok after) ∧
      ∀ seed, (∃ after, World.reset seed world = .ok () after ∧
          Guarded.reset seed world = .ok after) ↔
        world.config.Equips ∨ world.config.initialPopulation = 0 := by
  have sound := reachable.sound
  refine ⟨sound.inBounds, Guarded.tick_eq sound, ?_, sound.reset_eq_ok_iff⟩
  intro seed length whole
  apply (sound.reset_eq_ok_iff seed).mpr
  exact .inl (Config.equips_of_whole whole)

theorem unfailing_company :
    company.Reachable ∧ company.InBounds ∧
      (∃ report after, company.tick = .ok report after ∧
        Guarded.tick company = .ok (report, after)) ∧
      company.config.randomLength = .whole 5 ∧
      ∃ after, World.reset (some 7) company = .ok () after ∧
        Guarded.reset (some 7) company = .ok after := by
  obtain ⟨inBounds, ticks, resets, -⟩ := Reachable.unfailing reachable_company
  have whole : company.config.randomLength = .whole 5 := by decide +kernel
  exact ⟨reachable_company, inBounds, ticks, whole, resets (some 7) 5 whole⟩

end World

end Forage
