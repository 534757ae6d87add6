import Forage.Proofs.Pedigree

/-!
# What is handed down

A tape is handed down with at most one edit, whose opcode is drawn from the vocabulary. So the
opcodes of a world are those of its vocabulary and of the tape its first foragers were given,
and a tape is longer than the first ones by no more opcodes than there are births between.
-/

namespace Forage

variable {G : Type} {config tuned : Config}

theorem Edit.length_apply_le (edit : Edit) (opcodes : List Opcode) :
    (edit.apply opcodes).length ≤ opcodes.length + 1 := by
  cases edit with
  | delete place =>
      have fewer := List.length_eraseIdx_le opcodes place
      exact Nat.le_succ_of_le fewer
  | insert place opcode => exact List.length_insertIdx_le_succ
  | overwrite place opcode =>
      rw [apply, List.length_set]
      exact Nat.le_succ _

/-- The opcode that an edit brings, if it brings one. -/
def Edit.candidate? : Edit → Option Opcode
  | delete _ => none
  | insert _ opcode => some opcode
  | overwrite _ opcode => some opcode

theorem Edit.mem_apply {edit : Edit} {opcodes : List Opcode} {opcode : Opcode}
    (member : opcode ∈ edit.apply opcodes) : opcode ∈ opcodes ∨ edit.candidate? = some opcode := by
  cases edit with
  | delete place => exact .inl (List.mem_of_mem_eraseIdx member)
  | insert place other =>
      rcases List.eq_or_mem_of_mem_insertIdx member with rfl | before
      · exact .inr rfl
      · exact .inl before
  | overwrite place other =>
      rcases List.mem_or_eq_of_mem_set member with before | rfl
      · exact .inl before
      · exact .inr rfl

namespace Config

/-- An opcode may come up: it can be drawn, or the first foragers were given it. -/
def Allows (config : Config) (opcode : Opcode) : Prop :=
  opcode ∈ config.vocabulary.opcodes ∨
    ∃ opcodes, config.initialOpcodes = some opcodes ∧ opcode ∈ opcodes

/-- How many opcodes there are on the tape of a first forager. -/
def firstLength (config : Config) : Nat :=
  match config.initialOpcodes with
  | some opcodes => max 1 opcodes.length
  | none => (config.randomLength.count?.getD 0).toNat

theorem sleep_mem_opcodes (vocabulary : Vocabulary) : .sleep ∈ vocabulary.opcodes := by
  cases vocabulary <;> decide

theorem allows_sleep (config : Config) : config.Allows .sleep :=
  .inl (sleep_mem_opcodes config.vocabulary)

end Config

namespace Tape

/-- A tape as it may come down to a generation. -/
structure Handed (config : Config) (generation : Nat) (tape : Tape) : Prop where
  allowed : ∀ opcode ∈ tape.opcodes, config.Allows opcode
  positive : 1 ≤ tape.length
  length : tape.length ≤ config.firstLength + generation

theorem allowed_ofList {opcodes : List Opcode} (allowed : ∀ opcode ∈ opcodes, config.Allows opcode) :
    ∀ opcode ∈ (ofList opcodes).opcodes, config.Allows opcode := by
  cases opcodes with
  | nil =>
      intro opcode member
      obtain rfl := List.mem_singleton.mp member
      exact config.allows_sleep
  | cons => exact allowed

theorem length_ofList (opcodes : List Opcode) : (ofList opcodes).length = max 1 opcodes.length := by
  cases opcodes with
  | nil => rfl
  | cons opcode opcodes =>
      simp only [length, ofList, startingAt, filled, List.length_cons]
      omega

variable [WordSource G]

theorem length_drawOpcodes (vocabulary : Vocabulary) (count : Nat) (source : G) :
    (drawOpcodes vocabulary count source).1.length = count := by
  induction count generalizing source with
  | zero => rfl
  | succ count inductionHypothesis =>
      simp only [drawOpcodes, List.length_cons, inductionHypothesis]

theorem mem_drawOpcodes (vocabulary : Vocabulary) (count : Nat) (source : G) :
    ∀ opcode ∈ (drawOpcodes vocabulary count source).1, opcode ∈ vocabulary.opcodes := by
  induction count generalizing source with
  | zero => simp [drawOpcodes]
  | succ count inductionHypothesis =>
      rw [drawOpcodes, List.forall_mem_cons]
      exact ⟨vocabulary.draw_mem source, inductionHypothesis _⟩

theorem candidate_draw (vocabulary : Vocabulary) (length : Nat) (source : G) {opcode : Opcode}
    (brought : (Edit.draw vocabulary length source).1.candidate? = some opcode) :
    opcode ∈ vocabulary.opcodes := by
  have drawn := vocabulary.draw_mem source
  unfold Edit.draw at brought
  dsimp only at brought
  split at brought
  · cases brought
  · split at brought <;> exact Option.some.inj brought ▸ drawn

theorem Handed.first (valid : config.Valid) {source rest : G} {tape : Tape}
    (drawn : config.drawTape source = .ok (tape, rest)) : Handed config 0 tape := by
  unfold Config.drawTape at drawn
  cases given : config.initialOpcodes with
  | some opcodes =>
      rw [given] at drawn
      obtain ⟨rfl, -⟩ := Prod.mk.inj (Except.ok.inj drawn)
      constructor
      · exact allowed_ofList fun opcode member => .inr ⟨opcodes, given, member⟩
      · rw [length_ofList]
        exact Nat.le_max_left _ _
      · rw [length_ofList, Config.firstLength, given]
        exact Nat.le_refl _
  | none =>
      rw [given] at drawn
      obtain ⟨length, counted, rest⟩ := bind_eq_ok_iff.mp drawn
      obtain ⟨rfl, -⟩ := Prod.mk.inj (pure_eq_ok_iff.mp rest)
      have least : 1 ≤ length := by
        have enough := valid.2
        rw [Amount.isBelow_eq counted, decide_eq_false_iff_not] at enough
        omega
      have first : config.firstLength = length.toNat := by
        rw [Config.firstLength, given]
        exact congrArg (fun count? => (count?.getD 0).toNat) (Amount.count_eq_ok_iff.mp counted)
      constructor
      · apply allowed_ofList
        exact fun opcode member => .inl (mem_drawOpcodes _ _ _ opcode member)
      · rw [length_ofList]
        exact Nat.le_max_left _ _
      · rw [length_ofList, length_drawOpcodes, first]
        omega

theorem Handed.mutate {generation : Nat} {tape : Tape} (handed : Handed config generation tape)
    (rate : Int) (source : G) :
    Handed config (generation + 1) (tape.mutate rate config.vocabulary source).1 := by
  have length := handed.length
  have positive := handed.positive
  unfold Tape.mutate
  dsimp only
  split
  · constructor
    · exact allowed_ofList handed.allowed
    · rw [rewound, length_ofList]
      exact Nat.le_max_left _ _
    · rw [rewound, length_ofList]
      rw [Tape.length] at length positive
      omega
  · constructor
    · apply allowed_ofList
      intro opcode member
      rcases Edit.mem_apply member with before | brought
      · exact handed.allowed opcode before
      · exact .inl (candidate_draw _ _ _ brought)
    · rw [edited, length_ofList]
      exact Nat.le_max_left _ _
    · have longer := Edit.length_apply_le
        (Edit.draw config.vocabulary tape.length (Draw.below percent source).2).1 tape.opcodes
      rw [edited, length_ofList]
      rw [Tape.length] at length positive
      omega

theorem Handed.of_tuned (change : config.Tuned tuned) {generation : Nat} {tape : Tape}
    (handed : Handed tuned generation tape) : Handed config generation tape := by
  have length : tuned.firstLength = config.firstLength := by
    rw [Config.firstLength, Config.firstLength, change.initialOpcodes, change.randomLength]
  constructor
  · intro opcode member
    have allowed := handed.allowed opcode member
    rw [Config.Allows, change.vocabulary, change.initialOpcodes] at allowed
    exact allowed
  · exact handed.positive
  · exact length ▸ handed.length

end Tape

namespace Pedigree

/-- Everyone's tape has come down to its generation, of which there are no more than ticks. -/
structure Heir (config : Config) (pedigree : Pedigree G) : Prop where
  tuned : config.Tuned pedigree.world.config
  step : pedigree.world.step = pedigree.ticks
  each : pedigree.Each fun generation forager =>
    generation ≤ pedigree.ticks ∧ forager.tape.Handed config generation

namespace Heir

variable {pedigree : Pedigree G}

theorem begin [WordSource G] (valid : config.Valid) {world : World G}
    (founded : world.Founded config) : Heir config (Pedigree.begin world) where
  tuned := founded.config ▸ valid.tuned_self
  step := founded.step
  each := by
    intro key living forager known
    obtain ⟨source, rest, drawn⟩ :=
      (founded.first forager (mem_called.mpr ⟨key, living, known⟩)).tape
    exact ⟨Nat.le_refl 0, .first valid drawn⟩

theorem tick [WordSource G] (heir : Heir config pedigree) (sound : pedigree.world.Sound) :
    Heir config pedigree.tick := by
  obtain ⟨marched, report, after, -, -, done, ticked, -⟩ := sound.tick
  have world : pedigree.tick.world = after := by rw [world_tick, done, World.left]
  have vocabulary := heir.tuned.vocabulary
  have rears : Rears G pedigree.world.config
      (fun generation forager => generation ≤ pedigree.ticks ∧ forager.tape.Handed config generation)
      (fun generation forager => generation ≤ pedigree.ticks ∧ forager.tape.Handed config generation)
      (fun generation forager =>
        generation ≤ pedigree.tick.ticks ∧ forager.tape.Handed config generation) := by
    rw [ticks_tick]
    constructor
    · rintro generation ground forager situation ⟨bound, handed⟩ taken
      obtain ⟨eaten, passage⟩ := Situation.step_passage sound.valid taken
      have opcodes : situation.forager.tape.opcodes = forager.tape.opcodes := passage.opcodes
      refine ⟨bound, ?_, ?_, ?_⟩
      · exact opcodes ▸ handed.allowed
      · rw [Tape.length, opcodes]
        exact handed.positive
      · rw [Tape.length, opcodes]
        exact handed.length
    · rintro generation forager ⟨bound, handed⟩ - -
      exact ⟨Nat.le_succ_of_le bound, handed⟩
    · rintro generation forager ⟨bound, handed⟩ -
      exact ⟨Nat.le_succ_of_le bound, handed⟩
    · rintro generation forager ⟨bound, handed⟩ - source id
      refine ⟨Nat.succ_le_succ bound, ?_⟩
      unfold Forager.split
      rw [vocabulary]
      exact handed.mutate _ _
  constructor
  · rw [world, ticked.config]
    exact heir.tuned
  · rw [world, ticked.step, heir.step, ticks_tick]
  · exact rears.each_tick sound.valid sound.enrolled.orderly heir.each done

theorem of_kept (heir : Heir config pedigree) {after : World G}
    (kept : World.Kept pedigree.world after) : Heir config { pedigree with world := after } where
  tuned := heir.tuned.trans kept.tuned
  step := kept.step.trans heir.step
  each := by
    intro key living forager known
    rw [kept.live] at living
    rw [kept.records] at known
    exact heir.each key living forager known

variable [SeededSource G]

theorem perform (heir : Heir config pedigree) (sound : pedigree.world.Sound) {deed : Deed}
    (upkeep : deed.Upkeep) : Heir config (pedigree.perform deed) := by
  cases deed with
  | tick => exact heir.tick sound
  | reset seed =>
      have anew := Heir.begin sound.valid (World.Founded.reset sound.valid seed)
      exact {
        tuned := heir.tuned.trans anew.tuned
        step := anew.step
        each := fun key living forager known =>
          (anew.each key living forager known).imp_right (.of_tuned heir.tuned) }
  | place => exact False.elim upkeep
  | act => exact False.elim upkeep
  | _ => exact heir.of_kept (World.kept_perform sound.valid upkeep (by simp) (by simp))

end Heir

theorem Raised.heir [SeededSource G] {pedigree : Pedigree G} (raised : Raised config pedigree) :
    Heir config pedigree := by
  induction raised with
  | create valid source created => exact .begin valid (.create valid created)
  | perform upkeep raised inductionHypothesis =>
      exact inductionHypothesis.perform raised.reachable.sound upkeep

/--
Whatever is done for the upkeep of a world that was stocked, the living have tapes of opcodes
that can be drawn or were given to the first foragers. No tape is empty, and none is longer
than the first ones by more opcodes than there are births between, nor are these more than the
ticks since the world was last made anew. So nobody can tell or skip anything if none of the
opcodes that can be drawn or were given does.
-/
theorem Raised.heritage [SeededSource G] {pedigree : Pedigree G} (raised : Raised config pedigree) :
    pedigree.world.step = pedigree.ticks ∧
      (∀ forager ∈ pedigree.world.foragers, ∃ key : Nat, forager.id = key ∧
        (∀ opcode ∈ forager.tape.opcodes, config.Allows opcode) ∧
        1 ≤ forager.tape.length ∧
        forager.tape.length ≤ config.firstLength + pedigree.ticks ∧
        forager.tape.length ≤ config.firstLength + pedigree.generation key ∧
        pedigree.generation key ≤ pedigree.ticks) ∧
      (config.vocabulary = .basic →
        (∀ opcodes, config.initialOpcodes = some opcodes →
          ∀ opcode ∈ opcodes, opcode ∈ Vocabulary.basic.opcodes) →
        ∀ forager ∈ pedigree.world.foragers, ∀ opcode ∈ forager.tape.opcodes,
          opcode ∉ [.ifEntity, .ifFood, .ifWall, .skip, .skip2]) := by
  have heir := raised.heir
  have enrolled := raised.reachable.sound.enrolled
  refine ⟨heir.step, ?_, ?_⟩
  · intro forager listed
    obtain ⟨key, living, found⟩ := mem_called.mp listed
    obtain ⟨known, same, id⟩ := enrolled.known key living
    obtain rfl : known = forager := Option.some.inj (same.symm.trans found)
    obtain ⟨bound, handed⟩ := heir.each key living known found
    have length := handed.length
    exact ⟨key, id, handed.allowed, handed.positive, by omega, length, bound⟩
  · intro basic given forager listed opcode member
    obtain ⟨key, living, found⟩ := mem_called.mp listed
    have plain : opcode ∈ Vocabulary.basic.opcodes := by
      rcases (heir.each key living forager found).2.allowed opcode member with drawn | first
      · exact basic ▸ drawn
      · obtain ⟨opcodes, these, among⟩ := first
        exact given opcodes these opcode among
    revert plain
    cases opcode <;> decide

theorem heritage_hamlet :
    ∃ pedigree : Pedigree Twister, Raised Config.hamlet pedigree ∧
      pedigree.world.population = 2 ∧ pedigree.generation 1 = 1 ∧ pedigree.ticks = 1 ∧
      ∀ forager ∈ pedigree.world.foragers, 1 ≤ forager.tape.length ∧ forager.tape.length ≤ 3 ∧
        ∀ opcode ∈ forager.tape.opcodes, opcode ∉ [.ifEntity, .ifFood, .ifWall, .skip, .skip2] := by
  obtain ⟨world, created, checked⟩ := @World.exists_created _ _ Config.hamlet Twister.still
    (fun world =>
      ((begin world).perform .tick).world.population == 2 &&
        ((begin world).perform .tick).generation 1 == 1)
    (by decide +kernel)
  rw [Bool.and_eq_true, beq_iff_eq, beq_iff_eq] at checked
  have raised : Raised Config.hamlet ((begin world).perform .tick) :=
    (Raised.create Config.valid_hamlet _ created).perform trivial
  have ticks : ((begin world).perform .tick).ticks = 1 := (begin world).ticks_tick
  obtain ⟨-, tapes, plain⟩ := raised.heritage
  refine ⟨_, raised, checked.1, checked.2, ticks, ?_⟩
  intro forager listed
  obtain ⟨key, -, -, positive, length, -⟩ := tapes forager listed
  rw [ticks] at length
  exact ⟨positive, length, plain rfl (by simp [Config.hamlet]) forager listed⟩

end Pedigree

end Forage
