import Forage.Proofs.Fallible
import Forage.Proofs.Tick
import Forage.Run

/-!
# The course of a run

A run does nothing to its world but let it tick, and a tick leaves the configuration
as it is. The summary of a run is therefore about the configuration with which the
run began.
-/

namespace Forage

namespace World

variable {G : Type} {world after : World G}

theorem config_stepAll {keys : List Nat} (done : stepAll keys world = .ok () after) :
    after.config = world.config := by
  induction keys generalizing world with
  | nil =>
      obtain ⟨-, rfl⟩ := EStateM.Result.ok.inj done
      rfl
  | cons key keys inductionHypothesis =>
      unfold stepAll at done
      cases first : stepOne key world with
      | ok value middle =>
          rw [first] at done
          rw [inductionHypothesis done, config_stepOne first]
      | error fault middle => simp [first] at done

variable [WordSource G]

theorem config_regrow (world : World G) : world.regrow.config = world.config := by
  unfold regrow
  split
  · exact config_sow _ world
  · rfl

theorem config_foldl_breed (keys : List Nat) (world : World G) :
    (keys.foldl breed world).config = world.config := by
  induction keys generalizing world with
  | nil => rfl
  | cons key keys inductionHypothesis =>
      rw [List.foldl_cons, inductionHypothesis, config_breed]

theorem config_tick {report : Report} (done : world.tick = .ok report after) :
    after.config = world.config := by
  obtain ⟨last, marched, settled⟩ := exists_stepAll_of_tick done
  obtain ⟨-, rfl⟩ := Prod.mk.inj settled
  rw [config_foldl_breed, config_bury, config_stepAll marched, opened, config_regrow]

end World

namespace Run

variable {G : Type} {run next last : Run G} {plan : Plan} {runId : String}

theorem world_flushFull (done : run.flushFull = .ok next) : next.world = run.world := by
  obtain ⟨ticks, -, rest⟩ := bind_eq_ok_iff.mp done
  obtain ⟨foragers, -, rest⟩ := bind_eq_ok_iff.mp rest
  obtain rfl := pure_eq_ok_iff.mp rest
  rfl

theorem config_summary {summary : Summary} (done : run.summary plan runId = .ok summary) :
    summary.config = run.world.config := by
  obtain ⟨count, -, rest⟩ := bind_eq_ok_iff.mp done
  obtain rfl := pure_eq_ok_iff.mp rest
  rfl

theorem config_finish {summary : Summary} {disk rest : Disk}
    (done : run.finish plan runId disk = .ok summary rest) :
    summary.config = run.world.config := by
  unfold finish at done
  dsimp only at done
  split at done
  · simp at done
  split at done
  · simp at done
  split at done
  · simp at done
  split at done
  · simp at done
  next made =>
    split at done
    · simp at done
    split at done
    · simp at done
    · obtain ⟨rfl, -⟩ := EStateM.Result.ok.inj done
      exact config_summary made

variable [WordSource G]

theorem tick_eq_ok_iff {report : Report} {world : World G} :
    run.tick = .ok (report, world) ↔ run.world.tick = .ok report world := by
  unfold Run.tick
  cases run.world.tick <;> simp

theorem exists_tick_of_advance (done : run.advance plan runId = .ok next) :
    ∃ report, run.world.tick = .ok report next.world := by
  obtain ⟨⟨report, world⟩, ticked, rest⟩ := bind_eq_ok_iff.mp done
  obtain ⟨recorder, -, rest⟩ := bind_eq_ok_iff.mp rest
  obtain ⟨row, -, rest⟩ := bind_eq_ok_iff.mp rest
  refine ⟨report, ?_⟩
  rw [world_flushFull rest]
  exact tick_eq_ok_iff.mp ticked

theorem config_advanceBy {count : Nat} (done : run.advanceBy plan runId count = .ok last) :
    last.world.config = run.world.config := by
  induction count generalizing run with
  | zero =>
      obtain rfl := Except.ok.inj done
      rfl
  | succ count inductionHypothesis =>
      unfold advanceBy at done
      cases advanced : run.advance plan runId with
      | error failure => simp [advanced] at done
      | ok next =>
          obtain ⟨report, ticked⟩ := exists_tick_of_advance advanced
          simp only [advanced] at done
          split at done
          · obtain rfl := Except.ok.inj done
            exact World.config_tick ticked
          · rw [inductionHypothesis done, World.config_tick ticked]

theorem config_perform {world after : World G} {summary : Summary} {disk rest : Disk}
    (done : Run.perform plan world disk = .ok (summary, after) rest) :
    summary.config = world.config := by
  obtain ⟨_, _, -, done⟩ := estate_bind_eq_ok_iff.mp done
  obtain ⟨_, _, -, done⟩ := estate_bind_eq_ok_iff.mp done
  split at done
  · simp at done
  split at done
  · simp at done
  next run advanced =>
    split at done
    · simp at done
    next finished =>
      obtain ⟨same, -⟩ := EStateM.Result.ok.inj done
      obtain ⟨rfl, -⟩ := Prod.mk.inj same
      obtain ⟨count, -, onward⟩ := bind_eq_ok_iff.mp advanced
      rw [config_finish finished, config_advanceBy onward]
      rfl

end Run

end Forage
