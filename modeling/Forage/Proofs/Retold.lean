import Forage.Proofs.Recorded
import Forage.Proofs.Sound

/-!
# Worlds made again

A summary gives the configuration of a world back in another form: truth values and a whole
number stand where something else may have stood. A world cannot tell the two apart. Whatever
comes to its end in the one world comes to the same end in the other.
-/

namespace Forage

variable {G : Type} {length : Int}

namespace Config

variable {config : Config}

/-- The length that was recorded is what the configuration counts, where it counts anything. -/
def Recounts (config : Config) (length : Int) : Prop :=
  ∀ counted, config.randomLength.count = .ok counted → counted = length

theorem recounts_of_whole (read : Recorded.whole config.randomLength.toDatum = .ok length) :
    config.Recounts length := by
  intro counted counts
  cases given : config.randomLength with
  | real number => simp [given, Amount.count, Amount.count?] at counts
  | whole value =>
      rw [given] at read counts
      exact (Except.ok.inj counts).symm.trans (Except.ok.inj read)
  | truth value =>
      rw [given] at read counts
      exact (Except.ok.inj counts).symm.trans (Except.ok.inj read)

theorem drawTape_asRecorded [WordSource G] (recounts : config.Recounts length) {source rest : G}
    {tape : Tape} (drawn : config.drawTape source = .ok (tape, rest)) :
    (config.asRecorded length).drawTape source = .ok (tape, rest) := by
  unfold drawTape at drawn ⊢
  cases given : config.initialOpcodes with
  | some opcodes =>
      rw [given] at drawn
      rw [show (config.asRecorded length).initialOpcodes = some opcodes from given]
      exact drawn
  | none =>
      rw [given] at drawn
      rw [show (config.asRecorded length).initialOpcodes = none from given]
      obtain ⟨counted, counts, made⟩ := bind_eq_ok_iff.mp drawn
      obtain rfl := recounts counted counts
      exact made

end Config

namespace World

/-- A world with its configuration as it was recorded. -/
def retold (length : Int) (world : World G) : World G :=
  { world with config := world.config.asRecorded length }

variable {world after : World G}

@[simp]
theorem scene_retold (world : World G) : (world.retold length).scene = world.scene := rfl

section Stock

variable [WordSource G]

theorem sow_retold (count : Nat) (world : World G) :
    (world.retold length).sow count = (world.sow count).retold length := by
  induction count generalizing world with
  | zero => rfl
  | succ count inductionHypothesis =>
      exact inductionHypothesis
        { world with
          ground := world.ground.sow (world.config.drawCell world.source).1
          source := (world.config.drawCell world.source).2 }

theorem wall_retold (count : Nat) (world : World G) :
    (world.retold length).wall count = (world.wall count).retold length := by
  induction count generalizing world with
  | zero => rfl
  | succ count inductionHypothesis =>
      exact inductionHypothesis
        { world with
          ground := world.ground.build (world.config.drawCell world.source).1
          source := (world.config.drawCell world.source).2 }

theorem welcome_retold (recounts : world.config.Recounts length)
    (done : welcome world = .ok () after) :
    welcome (world.retold length) = .ok () (after.retold length) := by
  unfold welcome at done ⊢
  dsimp only at done ⊢
  cases drawn : world.config.drawTape (Heading.draw (world.config.drawCell world.source).2).2 with
  | error fault => simp [drawn] at done
  | ok made =>
      obtain ⟨tape, source⟩ := made
      have again : (world.retold length).config.drawTape
          (Heading.draw ((world.retold length).config.drawCell (world.retold length).source).2).2 =
            .ok (tape, source) := Config.drawTape_asRecorded recounts drawn
      simp only [drawn] at done
      obtain ⟨-, rfl⟩ := EStateM.Result.ok.inj done
      simp only [again]
      rfl

theorem populate_retold (recounts : world.config.Recounts length) {count : Nat}
    (done : populate count world = .ok () after) :
    populate count (world.retold length) = .ok () (after.retold length) := by
  induction count generalizing world with
  | zero =>
      obtain ⟨-, rfl⟩ := EStateM.Result.ok.inj done
      rfl
  | succ count inductionHypothesis =>
      unfold populate at done ⊢
      cases first : welcome world with
      | error fault middle => simp [first] at done
      | ok value middle =>
          have config : middle.config = world.config := by
            rw [← config_welcome world, first, left]
          simp only [first] at done
          rw [welcome_retold recounts first]
          exact inductionHypothesis (config ▸ recounts) done

theorem stock_retold (recounts : world.config.Recounts length)
    (done : stock world = .ok () after) :
    stock (world.retold length) = .ok () (after.retold length) := by
  unfold stock at done ⊢
  dsimp only at done
  change populate world.config.initialPopulation.toNat
    (wall (world.config.share world.config.initialWallPercent)
      (sow (world.config.share world.config.initialFoodPercent) (world.retold length))) = _
  rw [sow_retold, wall_retold]
  apply populate_retold _ done
  rw [config_wall, config_sow]
  exact recounts

/-- Where a world can be created, the same world can be created from what was recorded. -/
theorem create_asRecorded {config : Config} (recounts : config.Recounts length) {source : G}
    (created : create config source = .ok world) :
    create (config.asRecorded length) source = .ok (world.retold length) := by
  unfold create at created ⊢
  cases stocked : stock (World.empty config source) with
  | error fault middle => simp [stocked] at created
  | ok value middle =>
      rw [stocked] at created
      obtain rfl := Except.ok.inj created
      have again : stock (World.empty (config.asRecorded length) source) =
          .ok () (middle.retold length) :=
        @stock_retold _ _ (World.empty config source) _ _ recounts stocked
      rw [again]

end Stock

section Tick

theorem stepOne_retold {key : Nat} (done : stepOne key world = .ok () after) :
    stepOne key (world.retold length) = .ok () (after.retold length) := by
  unfold stepOne at done ⊢
  cases found : world.records[key]? with
  | none =>
      rw [show (world.retold length).records[key]? = none from found]
      rw [found] at done
      obtain ⟨-, rfl⟩ := EStateM.Result.ok.inj done
      rfl
  | some forager =>
      rw [show (world.retold length).records[key]? = some forager from found]
      simp only [found] at done
      have same : Situation.step (world.retold length).config
          ⟨(world.retold length).ground, forager⟩ =
            Situation.step world.config ⟨world.ground, forager⟩ := rfl
      cases taken : Situation.step world.config ⟨world.ground, forager⟩ with
      | error fault => simp [taken] at done
      | ok situation =>
          simp only [taken] at done
          obtain ⟨-, rfl⟩ := EStateM.Result.ok.inj done
          simp only [same, taken]
          rfl

theorem stepAll_retold {keys : List Nat} (done : stepAll keys world = .ok () after) :
    stepAll keys (world.retold length) = .ok () (after.retold length) := by
  induction keys generalizing world with
  | nil =>
      obtain ⟨-, rfl⟩ := EStateM.Result.ok.inj done
      rfl
  | cons key keys inductionHypothesis =>
      unfold stepAll at done ⊢
      cases first : stepOne key world with
      | error fault middle => simp [first] at done
      | ok value middle =>
          simp only [first] at done
          simp only [stepOne_retold first]
          exact inductionHypothesis done

theorem bury_retold (world : World G) : (world.retold length).bury = world.bury.retold length := by
  rw [bury_eq, bury_eq]
  rfl

variable [WordSource G]

theorem regrow_retold (world : World G) :
    (world.retold length).regrow = world.regrow.retold length := by
  unfold regrow
  cases due : world.countdown with
  | zero =>
      rw [show (world.retold length).countdown = 0 from due]
      dsimp only
      rw [show (world.retold length).config.regrowthRate = world.config.regrowthRate from rfl,
        sow_retold]
      rfl
  | succ left =>
      rw [show (world.retold length).countdown = left + 1 from due]
      rfl

theorem breed_retold (world : World G) (key : Nat) :
    (world.retold length).breed key = (world.breed key).retold length := by
  unfold breed
  cases found : world.records[key]? with
  | none => rw [show (world.retold length).records[key]? = none from found]
  | some parent =>
      rw [show (world.retold length).records[key]? = some parent from found]
      rfl

theorem foldl_breed_retold (keys : List Nat) (world : World G) :
    keys.foldl breed (world.retold length) = (keys.foldl breed world).retold length := by
  induction keys generalizing world with
  | nil => rfl
  | cons key keys inductionHypothesis =>
      rw [List.foldl_cons, List.foldl_cons, breed_retold, inductionHypothesis]

theorem settle_retold (cohort : Nat) (world : World G) :
    (world.retold length).settle cohort =
      ((world.settle cohort).1, (world.settle cohort).2.retold length) := by
  have parents : (world.bury.retold length).parents = world.bury.parents := rfl
  unfold settle
  dsimp only
  rw [bury_retold, parents, foldl_breed_retold]
  rfl

/-- A tick that comes to its end comes to the same end in the world that was made again. -/
theorem tick_retold {report : Report} (done : world.tick = .ok report after) :
    (world.retold length).tick = .ok report (after.retold length) := by
  obtain ⟨last, marched, settled⟩ := exists_stepAll_of_tick done
  have opened : (world.retold length).opened = world.opened.retold length :=
    regrow_retold ({ world with step := world.step + 1 } : World G)
  have again : stepAll (world.retold length).live.toList (world.retold length).opened =
      .ok () (last.retold length) := by
    rw [opened]
    exact stepAll_retold marched
  rw [tick_of_stepAll again, show (world.retold length).live = world.live from rfl, settle_retold,
    settled]

theorem ticks_retold {count : Nat} {reports : List Report} (done : ticks count world = .ok reports after) :
    ticks count (world.retold length) = .ok reports (after.retold length) := by
  induction count generalizing world reports with
  | zero =>
      obtain ⟨rfl, rfl⟩ := EStateM.Result.ok.inj done
      rfl
  | succ count inductionHypothesis =>
      unfold ticks at done ⊢
      cases first : world.tick with
      | error fault middle => simp [first] at done
      | ok report middle =>
          simp only [first] at done
          cases others : ticks count middle with
          | error fault last => simp [others] at done
          | ok rest last =>
              simp only [others] at done
              obtain ⟨rfl, rfl⟩ := EStateM.Result.ok.inj done
              simp only [tick_retold first, inductionHypothesis others]

end Tick

end World

end Forage
