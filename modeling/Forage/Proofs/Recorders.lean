import Forage.Proofs.RecordFiles
import Mathlib.Data.List.Forall2

/-!
# What a recorder keeps

A recorder opens a file for each destination and writes a tally of every scene to all of
them. As long as the files lie apart, each holds the tallies of all scenes, and once the
recorder is closed they are on the disk.
-/

namespace Forage

/-- Of two lists that are related item by item each item of the first has one in the second. -/
theorem exists_related {α β : Type} {R : α → β → Prop} {items : List α} {others : List β}
    (related : List.Forall₂ R items others) {item : α} (listed : item ∈ items) :
    ∃ other ∈ others, R item other := by
  induction related with
  | nil => simp at listed
  | cons first _ inductionHypothesis =>
      rcases List.mem_cons.mp listed with rfl | later
      · exact ⟨_, List.mem_cons_self, first⟩
      · obtain ⟨other, present, kept⟩ := inductionHypothesis later
        exact ⟨other, List.mem_cons_of_mem _ present, kept⟩

namespace Recorder

variable {recorder next : Recorder} {disk after : Disk} {files others : List RecordFile}
  {scene : Scene} {tally : Tally} {point : Option Tally}

/-- Where the files of a recorder are. -/
def places (recorder : Recorder) : List Place :=
  recorder.files.map RecordFile.place

theorem places_eq (same : next.files.map RecordFile.label = recorder.files.map RecordFile.label) :
    next.places = recorder.places := by
  have := congrArg (List.map fun label : Path × Template × Place => label.2.2) same
  simpa [places, RecordFile.label, Function.comp_def] using this

theorem rounds_writeAll (done : writeAll tally disk files = (none, after, others)) :
    Rounds (fun disk file after next => file.write disk tally = .ok (after, next))
      disk files after others := by
  induction files generalizing disk others with
  | nil =>
      obtain ⟨-, same⟩ := Prod.mk.inj done
      obtain ⟨rfl, rfl⟩ := Prod.mk.inj same
      exact .nil
  | cons file files inductionHypothesis =>
      unfold writeAll at done
      cases written : file.write disk tally with
      | error fault => simp [written] at done
      | ok result =>
          simp only [written, Prod.mk.injEq] at done
          obtain ⟨completed, rfl, rfl⟩ := done
          apply Rounds.cons written
          apply inductionHypothesis
          rw [← completed]

theorem confined_write :
    Rounds.Confined fun disk file after next => file.write disk tally = .ok (after, next) := by
  intro disk file after next written
  obtain ⟨line, -, adds⟩ := RecordFile.write_eq_ok written
  exact ⟨adds.label, adds.kept⟩

theorem confined_close :
    Rounds.Confined fun disk file after next => file.close disk = (after, next) := by
  intro disk file after next closed
  have adds := RecordFile.Adds.close disk file
  rw [closed] at adds
  exact ⟨adds.label, adds.kept⟩

theorem rounds_each (action : Disk → RecordFile → Disk × RecordFile) (recorder : Recorder) :
    Rounds (fun disk file after next => action disk file = (after, next))
      recorder.disk recorder.files (recorder.each action).disk (recorder.each action).files := by
  have from_acted : ∀ (files acted : List RecordFile) (disk : Disk),
      ∃ after others, files.foldl
        (fun (state : Disk × List RecordFile) file =>
          ((action state.1 file).1, state.2 ++ [(action state.1 file).2])) (disk, acted) =
            (after, acted ++ others) ∧
        Rounds (fun disk file after next => action disk file = (after, next))
          disk files after others := by
    intro files
    induction files with
    | nil =>
        intro acted disk
        exact ⟨disk, [], by simp, .nil⟩
    | cons file files inductionHypothesis =>
        intro acted disk
        obtain ⟨after, others, result, rounds⟩ :=
          inductionHypothesis (acted ++ [(action disk file).2]) (action disk file).1
        refine ⟨after, (action disk file).2 :: others, ?_, .cons rfl rounds⟩
        rw [List.foldl_cons, result]
        simp
  obtain ⟨after, others, result, rounds⟩ := from_acted recorder.files [] recorder.disk
  have same : ((recorder.each action).disk, (recorder.each action).files) = (after, others) := by
    rw [← List.nil_append others, ← result]
    rfl
  obtain ⟨sameDisk, sameFiles⟩ := Prod.mk.inj same
  rw [sameDisk, sameFiles]
  exact rounds

/-- What an update of a recorder comes to. -/
structure Updated (recorder : Recorder) (scene : Scene) (next : Recorder) : Prop where
  label : next.files.map RecordFile.label = recorder.files.map RecordFile.label
  kept : Disk.Noted recorder.places recorder.disk next.disk
  last : recorder.files ≠ [] → next.last = some (Tally.next recorder.last scene)
  records : recorder.places.Nodup → ∀ {tallies},
    (∀ file ∈ recorder.files, file.Records recorder.disk.files[file.place]? tallies) →
    ∀ file ∈ next.files, file.Records next.disk.files[file.place]?
      (tallies ++ [Tally.next recorder.last scene])

theorem Updated.of_update (done : recorder.update scene = .ok point next) :
    Updated recorder scene next := by
  unfold update at done
  split at done
  · next empty =>
    obtain ⟨-, rfl⟩ := EStateM.Result.ok.inj done
    have none := List.isEmpty_iff.mp empty
    exact ⟨rfl, .refl _ _, fun some => absurd none some, by simp [none]⟩
  · dsimp only at done
    split at done
    · next written =>
      obtain ⟨-, rfl⟩ := EStateM.Result.ok.inj done
      have rounds := rounds_writeAll written
      refine ⟨rounds.label_eq confined_write, rounds.kept confined_write, fun _ => rfl, ?_⟩
      intro distinct tallies records
      exact rounds.forall_mem (P := fun file content => file.Records content tallies)
        (Q := fun file content => file.Records content (tallies ++ [Tally.next recorder.last scene]))
        confined_write (fun written records => records.write written) distinct records
    · simp at done

theorem records_close (distinct : recorder.places.Nodup) {tallies : List Tally}
    (records : ∀ file ∈ recorder.files, file.Records recorder.disk.files[file.place]? tallies) :
    ∀ file ∈ recorder.files, ∃ lines,
      tallies.mapM (fun tally => file.template.render tally) = .ok lines ∧
        recorder.close.disk.files[file.place]? = some (.bytes lines.flatten.toArray) := by
  have rounds : Rounds (fun disk file after next => file.close disk = (after, next))
      recorder.disk recorder.files recorder.close.disk recorder.close.files :=
    rounds_each RecordFile.close recorder
  have closed := rounds.forall_mem (P := fun file content => file.Records content tallies)
    (Q := fun file content => ∃ lines,
      tallies.mapM (fun tally => file.template.render tally) = .ok lines ∧
        content = some (.bytes lines.flatten.toArray)) confined_close ?_ distinct records
  · have same := rounds.label_eq confined_close
    intro file listed
    have labelled : file.label ∈ recorder.close.files.map RecordFile.label := by
      rw [same]
      exact List.mem_map_of_mem listed
    obtain ⟨other, otherListed, sameLabel⟩ := List.mem_map.mp labelled
    rw [← RecordFile.place_eq sameLabel, ← RecordFile.template_eq sameLabel]
    exact closed other otherListed
  · intro disk file after next done before
    obtain ⟨lines, all, stored⟩ := before.close
    have label := (confined_close done).1
    rw [done] at stored
    refine ⟨lines, ?_, ?_⟩
    · rw [RecordFile.template_eq label]
      exact all
    · rw [RecordFile.place_eq label]
      exact stored

theorem kept_close (recorder : Recorder) :
    Disk.Noted recorder.places recorder.disk recorder.close.disk :=
  (rounds_each RecordFile.close recorder).kept confined_close

section Create

variable {destinations rest : List (Path × String)}

/-- A file is the one that a destination asks for. -/
structure Serves (disk : Disk) (destination : Path × String) (file : RecordFile) : Prop where
  template : Template.parse destination.2 = .ok file.template
  place : disk.locate destination.1 = .ok file.place

/-- What comes of opening files on a disk. -/
structure Opened (destinations : List (Path × String)) (disk : Disk) (recorder : Recorder) :
    Prop where
  grown : Disk.Grown recorder.places disk recorder.disk
  logs : ∀ {place : Place} {log : Log}, recorder.disk.files[place]? = some (.log log) →
    disk.files[place]? = some (.log log)
  serves : List.Forall₂ (Serves recorder.disk) destinations recorder.files
  empty : ∀ file ∈ recorder.files, file.offset = 0 ∧ file.waiting = #[] ∧
    recorder.disk.files[file.place]? = some (.bytes #[])
  last : recorder.last = none

theorem Serves.grown {places : List Place} {destination : Path × String} {file : RecordFile}
    (serves : Serves disk destination file) (grown : Disk.Grown places disk after) :
    Serves after destination file :=
  ⟨serves.template, grown.locate serves.place⟩

theorem exists_serves (serves : List.Forall₂ (Serves disk) destinations files)
    {destination : Path × String} (listed : destination ∈ destinations) :
    ∃ file ∈ files, Serves disk destination file :=
  exists_related serves listed

theorem exists_served (serves : List.Forall₂ (Serves disk) destinations files) {file : RecordFile}
    (listed : file ∈ files) : ∃ destination ∈ destinations, Serves disk destination file :=
  exists_related serves.flip listed

theorem map_locate (serves : List.Forall₂ (Serves disk) destinations files) :
    (destinations.map fun destination => disk.locate destination.1) =
      files.map fun file => .ok file.place := by
  induction serves with
  | nil => rfl
  | cons first _ inductionHypothesis =>
      rw [List.map_cons, List.map_cons, first.place, inductionHypothesis]

theorem Opened.addFile {path : Path} {pattern : String} (opened : Opened destinations disk recorder)
    (added : recorder.addFile path pattern = .ok () next) :
    Opened (destinations ++ [(path, pattern)]) disk next := by
  unfold Recorder.addFile at added
  split at added
  · next file after created =>
    obtain ⟨-, rfl⟩ := EStateM.Result.ok.inj added
    unfold RecordFile.create at created
    split at created
    · simp at created
    next template parsed =>
      split at created
      · simp at created
      next middle made =>
        split at created
        · simp at created
        next place writable =>
          obtain ⟨rfl, rfl⟩ := EStateM.Result.ok.inj created
          have before := Disk.Grown.of_makeDirectories made
          have put : Disk.Noted [place] middle (middle.put place (.bytes #[])) :=
            .put List.mem_cons_self #[]
          have grown : Disk.Grown [place] recorder.disk (middle.put place (.bytes #[])) :=
            (before.mono (by simp)).trans put.grown
          constructor
          · apply (opened.grown.mono _).trans (grown.mono _)
            · simp [places]
            · simp [places]
          · intro there log found
            apply opened.logs
            rw [← before.files there (by simp)]
            exact put.logs found
          · refine List.rel_append (opened.serves.imp fun _ _ serves => serves.grown grown) ?_
            exact .cons ⟨parsed, put.grown.locate (Disk.writable_eq_ok writable)⟩ .nil
          · rw [List.forall_mem_append, List.forall_mem_singleton]
            refine ⟨?_, rfl, rfl, Disk.files_put_self _⟩
            intro file listed
            obtain ⟨offset, waiting, content⟩ := opened.empty file listed
            refine ⟨offset, waiting, ?_⟩
            by_cases here : file.place = place
            · rw [here]
              exact Disk.files_put_self _
            · rw [grown.files _ (by simpa using here)]
              exact content
          · exact opened.last
  · simp at added

theorem Opened.addFiles (opened : Opened destinations disk recorder)
    (added : recorder.addFiles rest = .ok () next) : Opened (destinations ++ rest) disk next := by
  induction rest generalizing destinations recorder with
  | nil =>
      obtain ⟨-, rfl⟩ := EStateM.Result.ok.inj added
      simpa using opened
  | cons destination rest inductionHypothesis =>
      unfold Recorder.addFiles at added
      split at added
      · next first =>
        have := inductionHypothesis (opened.addFile first) added
        simpa using this
      · simp at added

theorem Opened.of_create (created : Recorder.create destinations disk = .ok () recorder) :
    Opened destinations disk recorder := by
  unfold Recorder.create at created
  split at created
  · next added =>
    obtain ⟨-, rfl⟩ := EStateM.Result.ok.inj created
    have none : Opened [] disk ⟨disk, [], none⟩ := ⟨.refl _ disk, id, .nil, by simp, rfl⟩
    exact none.addFiles added
  · simp at created

theorem Opened.records (opened : Opened destinations disk recorder) :
    ∀ file ∈ recorder.files, file.Records recorder.disk.files[file.place]? [] := by
  intro file listed
  obtain ⟨offset, waiting, content⟩ := opened.empty file listed
  exact ⟨[], rfl, #[], content, offset, by simp [waiting]⟩

end Create

end Recorder

end Forage
