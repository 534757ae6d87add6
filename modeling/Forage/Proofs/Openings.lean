import Forage.Proofs.Kinds
import Forage.Proofs.Recorders
import Forage.Proofs.Trails
import Mathlib.Data.List.Infix
import Mathlib.Logic.Function.Iterate

/-!
# Recorders that are built

A recorder opens its files one after the other. A template is read before anything is done on its
account, so the first one that is at fault leaves the disk as those before it have made it, and
their files are closed. A recorder that was built writes to its files until it is closed; after
that they hold what was written, closing it again does nothing, and writing to it is refused.
-/

namespace Forage

namespace Disk

variable {disk before middle after : Disk} {path other : Path} {paths more : List Path}

/--
A path at whose end a file can be written: it starts from a directory, no file is in its way, and
it ends neither at a directory nor on its own way.
-/
structure Accepts (disk : Disk) (path : Path) : Prop where
  fits : ∀ front, front <+: path.parts → Path.Fits ⟨path.root, front⟩
  start : disk.isDirectory (disk.start path) = true
  clear : ∀ place ∈ disk.through path, disk.files.contains place = false
  free : disk.isDirectory (disk.goal path) = false
  off : disk.goal path ∉ disk.through path

/-- Two paths at whose ends there can be files at once: different places, neither on the other's way. -/
structure Apart (disk : Disk) (path other : Path) : Prop where
  distinct : disk.goal path ≠ disk.goal other
  ahead : disk.goal path ∉ disk.through other
  behind : disk.goal other ∉ disk.through path

/-- Paths at whose ends files can be written side by side. -/
structure Receives (disk : Disk) (paths : List Path) : Prop where
  accepts : ∀ path ∈ paths, disk.Accepts path
  apart : paths.Pairwise disk.Apart

/-- At the ends of some paths there are empty files, on their ways directories; the rest is as it was. -/
structure Emptied (paths : List Path) (before after : Disk) : Prop where
  cwd : after.cwd = before.cwd
  empty : ∀ path ∈ paths, after.files[before.goal path]? = some (.bytes #[])
  kept : ∀ place, (∀ path ∈ paths, before.goal path ≠ place) →
    after.files[place]? = before.files[place]?
  directories : ∀ place, after.isDirectory place = true ↔
    before.isDirectory place = true ∨ ∃ path ∈ paths, place ∈ before.through path

theorem Apart.of_cwd (apart : before.Apart path other) (same : after.cwd = before.cwd) :
    after.Apart path other where
  distinct := by
    rw [goal_of_cwd same, goal_of_cwd same]
    exact apart.distinct
  ahead := by
    rw [goal_of_cwd same, through_of_cwd same]
    exact apart.ahead
  behind := by
    rw [goal_of_cwd same, through_of_cwd same]
    exact apart.behind

namespace Emptied

theorem nothing (disk : Disk) : Emptied [] disk disk :=
  ⟨rfl, by simp, fun _ _ => rfl, by simp⟩

theorem trans (first : Emptied paths before middle) (second : Emptied more middle after) :
    Emptied (paths ++ more) before after where
  cwd := second.cwd.trans first.cwd
  empty := by
    have goal (path : Path) : middle.goal path = before.goal path := goal_of_cwd first.cwd
    intro path listed
    by_cases again : ∃ other ∈ more, middle.goal other = before.goal path
    · obtain ⟨other, later, same⟩ := again
      rw [← same]
      exact second.empty other later
    · simp only [not_exists, not_and] at again
      rcases List.mem_append.mp listed with earlier | later
      · rw [second.kept _ again]
        exact first.empty path earlier
      · exact absurd (goal path) (again path later)
  kept := by
    intro place elsewhere
    rw [List.forall_mem_append] at elsewhere
    rw [second.kept, first.kept place elsewhere.1]
    intro path later
    rw [goal_of_cwd first.cwd]
    exact elsewhere.2 path later
  directories := by
    intro place
    have through (path : Path) : middle.through path = before.through path :=
      through_of_cwd first.cwd
    simp only [second.directories, first.directories, through, List.mem_append, or_and_right,
      exists_or, or_assoc]

end Emptied

/-- Where one path was written to, another that lies apart can be written to as before. -/
theorem Accepts.of_emptied (accepts : before.Accepts other) (emptied : Emptied [path] before after)
    (apart : before.Apart path other) : after.Accepts other where
  fits := accepts.fits
  start := by
    rw [start_of_cwd emptied.cwd]
    exact (emptied.directories _).mpr (.inl accepts.start)
  clear := by
    rw [through_of_cwd emptied.cwd]
    intro place passed
    have elsewhere : ∀ written ∈ [path], before.goal written ≠ place := by
      rw [List.forall_mem_singleton]
      rintro rfl
      exact apart.ahead passed
    have clear := accepts.clear place passed
    rw [Std.ExtTreeMap.contains_eq_isSome_getElem?] at clear ⊢
    rw [emptied.kept place elsewhere]
    exact clear
  free := by
    rw [goal_of_cwd emptied.cwd, ← Bool.not_eq_true, emptied.directories]
    rintro (there | ⟨written, listed, passed⟩)
    · exact absurd there (Bool.not_eq_true _ ▸ accepts.free)
    · obtain rfl := List.mem_singleton.mp listed
      exact apart.behind passed
  off := by
    rw [goal_of_cwd emptied.cwd, through_of_cwd emptied.cwd]
    exact accepts.off

theorem Receives.of_emptied (receives : before.Receives (path :: paths))
    (emptied : Emptied [path] before after) : after.Receives paths where
  accepts := by
    intro other listed
    apply (receives.accepts other (List.mem_cons_of_mem _ listed)).of_emptied emptied
    exact (List.pairwise_cons.mp receives.apart).1 other listed
  apart := (List.pairwise_cons.mp receives.apart).2.imp fun apart => apart.of_cwd emptied.cwd

end Disk

/-- A file as it is opened: empty, and to be written to through its template. -/
def RecordFile.fresh (path : Path) (template : Template) (place : Place) : RecordFile :=
  ⟨path, template, place, 0, #[], true⟩

theorem RecordFile.exists_create {disk : Disk} {path : Path} {pattern : String}
    {template : Template} (accepts : disk.Accepts path)
    (parsed : Template.parse pattern = .ok template) :
    ∃ after, RecordFile.create path pattern disk = .ok (fresh path template (disk.goal path)) after ∧
      Disk.Emptied [path] disk after := by
  have some : path.parts ≠ [] := by
    intro none
    have here : disk.goal path = disk.start path := by
      rw [Disk.goal, Path.resolve, none]
      rfl
    exact absurd accepts.start (here ▸ Bool.not_eq_true _ ▸ accepts.free)
  obtain ⟨middle, done, made⟩ := Disk.exists_makeDirectories some accepts.fits accepts.clear
  have there : ∀ earlier ∈ middle.through path, middle.isDirectory earlier = true := by
    intro earlier passed
    rw [Disk.through_of_cwd made.cwd] at passed
    exact (made.directories earlier).mpr (.inr passed)
  have free : middle.isDirectory (disk.goal path) = false := by
    rw [← Bool.not_eq_true, made.directories, not_or, Bool.not_eq_true]
    exact ⟨accepts.free, accepts.off⟩
  have located := Disk.locate_eq_ok (accepts.fits _ (List.prefix_refl _)) there
  rw [Disk.goal_of_cwd made.cwd] at located
  have writable : middle.writable path = .ok (disk.goal path) := by
    rw [Disk.writable, located]
    simp [bind, Except.bind, free, pure, Except.pure]
  refine ⟨middle.put (disk.goal path) (.bytes #[]), ?_, ?_⟩
  · rw [create, parsed]
    simp only [done, writable]
    rfl
  · constructor
    · exact made.cwd
    · rw [List.forall_mem_singleton]
      exact Disk.files_put_self _
    · intro place elsewhere
      rw [List.forall_mem_singleton] at elsewhere
      have kept := (Disk.Kept.put List.mem_cons_self (.bytes #[]) : Disk.Kept [disk.goal path] middle _)
      rw [kept.files place (by simpa using Ne.symm elsewhere), made.files]
    · intro place
      simp only [List.mem_singleton, exists_eq_left]
      exact made.directories place

theorem RecordFile.close_of_idle {disk : Disk} {file : RecordFile} (idle : file.waiting = #[]) :
    file.close disk = (disk, { file with isOpen := false }) := by
  simp [close, flush, idle]

/-- The tallies of scenes that come one after the other. -/
def Tally.series (last : Option Tally) : List Scene → List Tally
  | [] => []
  | scene :: scenes => next last scene :: series (some (next last scene)) scenes

namespace Recorder

variable {destinations before rest : List (Path × String)} {disk after : Disk}
  {recorder next : Recorder} {path : Path} {pattern : String} {fault : Fault}

/-- A destination has a template that can be read. -/
def Readable (destination : Path × String) : Prop :=
  ∃ template, Template.parse destination.2 = .ok template

/-- A file is the one that is opened for a destination. -/
def Fresh (disk : Disk) (destination : Path × String) (file : RecordFile) : Prop :=
  ∃ template, Template.parse destination.2 = .ok template ∧
    file = .fresh destination.1 template (disk.goal destination.1)

/-- A recorder whose files have just been opened. -/
structure Built (destinations : List (Path × String)) (disk : Disk) (recorder : Recorder) :
    Prop where
  fresh : List.Forall₂ (Fresh disk) destinations recorder.files
  emptied : Disk.Emptied (destinations.map Prod.fst) disk recorder.disk
  last : recorder.last = none

theorem Built.nothing (disk : Disk) : Built [] disk ⟨disk, [], none⟩ :=
  ⟨.nil, .nothing disk, rfl⟩

theorem Built.exists_addFile (built : Built destinations disk recorder)
    (accepts : recorder.disk.Accepts path) (readable : Readable (path, pattern)) :
    ∃ next, recorder.addFile path pattern = .ok () next ∧
      Built (destinations ++ [(path, pattern)]) disk next ∧
      Disk.Emptied [path] recorder.disk next.disk := by
  obtain ⟨template, parsed⟩ := readable
  obtain ⟨after, created, emptied⟩ := RecordFile.exists_create accepts parsed
  rw [Disk.goal_of_cwd built.emptied.cwd] at created
  have opened : Fresh disk (path, pattern) (.fresh path template (disk.goal path)) :=
    ⟨template, parsed, rfl⟩
  refine ⟨⟨after, recorder.files ++ [.fresh path template (disk.goal path)], recorder.last⟩, ?_,
    ⟨?_, ?_, built.last⟩, emptied⟩
  · rw [addFile, created]
  · exact List.rel_append built.fresh (.cons opened .nil)
  · rw [List.map_append]
    exact built.emptied.trans emptied

/-- Where all paths can be written to, files with proper templates are opened for them. -/
theorem Built.exists_addFiles (built : Built destinations disk recorder)
    (receives : recorder.disk.Receives (rest.map Prod.fst))
    (readable : ∀ destination ∈ rest, Readable destination) :
    ∃ next, recorder.addFiles rest = .ok () next ∧ Built (destinations ++ rest) disk next := by
  induction rest generalizing destinations recorder with
  | nil => exact ⟨recorder, rfl, by rwa [List.append_nil]⟩
  | cons destination rest inductionHypothesis =>
      obtain ⟨here, others⟩ := List.forall_mem_cons.mp readable
      obtain ⟨middle, added, further, emptied⟩ :=
        built.exists_addFile (receives.accepts _ List.mem_cons_self) here
      obtain ⟨next, done, all⟩ := inductionHypothesis further (receives.of_emptied emptied) others
      refine ⟨next, ?_, by simpa using all⟩
      rw [addFiles, added]
      exact done

theorem addFiles_append (done : recorder.addFiles before = .ok () next) :
    recorder.addFiles (before ++ rest) = next.addFiles rest := by
  induction before generalizing recorder with
  | nil =>
      obtain ⟨-, rfl⟩ := EStateM.Result.ok.inj done
      rfl
  | cons destination before inductionHypothesis =>
      rw [addFiles] at done
      rw [List.cons_append, addFiles]
      cases added : recorder.addFile destination.1 destination.2 with
      | ok _ middle =>
          rw [added] at done
          exact inductionHypothesis done
      | error fault middle => simp [added] at done

/-- A template that cannot be read leaves a recorder and its disk as they are. -/
theorem addFiles_of_rejected (rejected : Template.parse pattern = .error fault) :
    recorder.addFiles ((path, pattern) :: rest) = .error fault recorder := by
  rw [addFiles, addFile, RecordFile.create, rejected]

theorem kind_of_rejected (rejected : Template.parse pattern = .error fault) :
    fault.kind ∈ Halt.refused :=
  Template.kind_of_ofPieces rejected

theorem readable_or_rejected (destinations : List (Path × String)) :
    (∀ destination ∈ destinations, Readable destination) ∨
      ∃ before path pattern rest fault, destinations = before ++ (path, pattern) :: rest ∧
        (∀ destination ∈ before, Readable destination) ∧
        Template.parse pattern = .error fault := by
  induction destinations with
  | nil => exact .inl (List.forall_mem_nil _)
  | cons destination destinations inductionHypothesis =>
      cases parsed : Template.parse destination.2 with
      | error fault =>
          exact .inr ⟨[], destination.1, destination.2, destinations, fault, rfl,
            List.forall_mem_nil _, parsed⟩
      | ok template =>
          rcases inductionHypothesis with all | ⟨before, path, pattern, rest, fault, rfl, early, late⟩
          · exact .inl (List.forall_mem_cons.mpr ⟨⟨template, parsed⟩, all⟩)
          · exact .inr ⟨destination :: before, path, pattern, rest, fault, rfl,
              List.forall_mem_cons.mpr ⟨⟨template, parsed⟩, early⟩, late⟩

/-- A file that is closed: nothing can be written to it, and nothing waits to be. -/
def Shut (file : RecordFile) : Prop :=
  file.isOpen = false ∧ file.waiting = #[]

theorem shut_close : ∀ file ∈ recorder.close.files, Shut file := by
  have shut {disk after : Disk} {files others : List RecordFile}
      (rounds : Rounds (fun disk file after next => file.close disk = (after, next))
        disk files after others) : ∀ file ∈ others, Shut file := by
    induction rounds with
    | nil => exact List.forall_mem_nil _
    | cons closed _ inductionHypothesis =>
        refine List.forall_mem_cons.mpr ⟨?_, inductionHypothesis⟩
        obtain ⟨-, rfl⟩ := Prod.mk.inj closed
        exact ⟨rfl, RecordFile.Adds.waiting_flush _ _⟩
  exact shut (rounds_each RecordFile.close recorder)

theorem label_close :
    recorder.close.files.map RecordFile.label = recorder.files.map RecordFile.label :=
  (rounds_each RecordFile.close recorder).label_eq confined_close

theorem close_of_idle (idle : ∀ file ∈ recorder.files, file.waiting = #[]) :
    recorder.close =
      { recorder with files := recorder.files.map fun file => { file with isOpen := false } } := by
  have still {disk after : Disk} {files others : List RecordFile}
      (rounds : Rounds (fun disk file after next => file.close disk = (after, next))
        disk files after others) (idle : ∀ file ∈ files, file.waiting = #[]) :
      after = disk ∧ others = files.map fun file => { file with isOpen := false } := by
    induction rounds with
    | nil => exact ⟨rfl, rfl⟩
    | cons closed _ inductionHypothesis =>
        obtain ⟨here, others⟩ := List.forall_mem_cons.mp idle
        obtain ⟨rfl, rfl⟩ := inductionHypothesis others
        obtain ⟨rfl, rfl⟩ := Prod.mk.inj ((RecordFile.close_of_idle here).symm.trans closed)
        exact ⟨rfl, rfl⟩
  obtain ⟨disk, files⟩ := still (rounds_each RecordFile.close recorder) idle
  have same : recorder.close =
      { recorder with disk := recorder.close.disk, files := recorder.close.files } := rfl
  rw [same]
  unfold close
  rw [disk, files]

theorem close_of_shut (shut : ∀ file ∈ recorder.files, Shut file) : recorder.close = recorder := by
  rw [close_of_idle fun file listed => (shut file listed).2]
  have same : ∀ file ∈ recorder.files, { file with isOpen := false } = file := by
    intro file listed
    rw [← (shut file listed).1]
  rw [List.map_congr_left same, List.map_id']

theorem iterate_close (recorder : Recorder) (count : Nat) :
    close^[count + 1] recorder = recorder.close := by
  induction count with
  | zero => rfl
  | succ count inductionHypothesis =>
      rw [Function.iterate_succ_apply', inductionHypothesis, close_of_shut shut_close]

theorem update_of_shut (some : recorder.files ≠ [])
    (shut : ∀ file ∈ recorder.files, file.isOpen = false) (scene : Scene) :
    ∃ path next, recorder.update scene = .error (.recordFileClosed path) next ∧
      next.disk = recorder.disk ∧ next.files = recorder.files := by
  obtain ⟨disk, files, last⟩ := recorder
  obtain ⟨file, others, rfl⟩ := List.exists_cons_of_ne_nil some
  have closed : file.isOpen = false := shut file List.mem_cons_self
  have refused (tally : Tally) :
      file.write disk tally = .error (.recordFileClosed file.path.text) := by
    simp [RecordFile.write, closed, bind, Except.bind, throw, throwThe, MonadExceptOf.throw]
  refine ⟨file.path.text, ⟨disk, file :: others, Option.some (Tally.next last scene)⟩, ?_, rfl, rfl⟩
  simp [update, writeAll, refused]

/-- Updates with one scene after the other, all of which succeed. -/
inductive Told : Recorder → List Scene → Recorder → Prop where
  | nothing {recorder : Recorder} : Told recorder [] recorder
  | scene {recorder middle next : Recorder} {scene : Scene} {scenes : List Scene}
      {point : Option Tally} :
      recorder.update scene = .ok point middle →
      Told middle scenes next →
      Told recorder (scene :: scenes) next

namespace Told

variable {scenes : List Scene} (told : Told recorder scenes next)

include told

theorem label : next.files.map RecordFile.label = recorder.files.map RecordFile.label := by
  induction told with
  | nothing => rfl
  | scene done _ inductionHypothesis =>
      exact inductionHypothesis.trans (Updated.of_update done).label

theorem kept : Disk.Noted recorder.places recorder.disk next.disk := by
  induction told with
  | nothing => exact .refl _ _
  | scene done _ inductionHypothesis =>
      have updated := Updated.of_update done
      rw [places_eq updated.label] at inductionHypothesis
      exact updated.kept.trans inductionHypothesis

theorem records (distinct : recorder.places.Nodup) {tallies : List Tally}
    (records : ∀ file ∈ recorder.files, file.Records recorder.disk.files[file.place]? tallies) :
    ∀ file ∈ next.files, file.Records next.disk.files[file.place]?
      (tallies ++ Tally.series recorder.last scenes) := by
  by_cases none : recorder.files = []
  · have same := told.label
    rw [none, List.map_nil, List.map_eq_nil_iff] at same
    rw [same]
    exact List.forall_mem_nil _
  induction told generalizing tallies with
  | nothing => simpa [Tally.series] using records
  | @scene recorder middle next scene scenes point done _ inductionHypothesis =>
      have updated := Updated.of_update done
      have more := updated.records distinct records
      have others : middle.files ≠ [] := by
        intro nothing
        have same := updated.label
        rw [nothing, List.map_nil, eq_comm, List.map_eq_nil_iff] at same
        exact none same
      have further := inductionHypothesis (places_eq updated.label ▸ distinct) more others
      rwa [updated.last none, List.append_assoc, List.singleton_append] at further

end Told

namespace Built

variable (built : Built destinations disk recorder)

include built

theorem places_eq : recorder.places = destinations.map fun destination => disk.goal destination.1 := by
  have same {destinations : List (Path × String)} {files : List RecordFile}
      (fresh : List.Forall₂ (Fresh disk) destinations files) :
      files.map RecordFile.place = destinations.map fun destination => disk.goal destination.1 := by
    induction fresh with
    | nil => rfl
    | cons first _ inductionHypothesis =>
        obtain ⟨template, -, rfl⟩ := first
        rw [List.map_cons, List.map_cons, inductionHypothesis]
        rfl
  exact same built.fresh

theorem forall_fresh : ∀ file ∈ recorder.files, file.isOpen = true ∧ file.waiting = #[] ∧
    file.offset = 0 ∧ recorder.disk.files[file.place]? = some (.bytes #[]) := by
  intro file listed
  obtain ⟨destination, among, template, -, rfl⟩ := exists_related built.fresh.flip listed
  exact ⟨rfl, rfl, rfl, built.emptied.empty _ (List.mem_map_of_mem among)⟩

theorem records : ∀ file ∈ recorder.files, file.Records recorder.disk.files[file.place]? [] := by
  intro file listed
  obtain ⟨-, waiting, offset, content⟩ := built.forall_fresh file listed
  exact ⟨[], rfl, #[], content, offset, by simp [waiting]⟩

theorem nodup_places (receives : disk.Receives (destinations.map Prod.fst)) :
    recorder.places.Nodup := by
  rw [built.places_eq]
  exact List.pairwise_map.mpr ((List.pairwise_map.mp receives.apart).imp Disk.Apart.distinct)

theorem disk_close : recorder.close.disk = recorder.disk := by
  rw [close_of_idle fun file listed => (built.forall_fresh file listed).2.1]

end Built

/-- A recorder that was built for some destinations, told of scenes and closed. -/
structure Finished (destinations : List (Path × String)) (disk : Disk) (scenes : List Scene)
    (recorder : Recorder) : Prop where
  closed : ∀ file ∈ recorder.files, file.isOpen = false
  holds : ∀ destination ∈ destinations, ∃ template lines,
    Template.parse destination.2 = .ok template ∧
      (Tally.series none scenes).mapM (fun tally => template.render tally) = .ok lines ∧
      recorder.disk.files[disk.goal destination.1]? = some (.bytes lines.flatten.toArray)
  kept : ∀ place, (∀ destination ∈ destinations, disk.goal destination.1 ≠ place) →
    recorder.disk.files[place]? = disk.files[place]?
  refuses : destinations ≠ [] → ∀ scene, ∃ fault next,
    recorder.update scene = .error fault next ∧ fault.kind = .invalid ∧
      next.disk = recorder.disk ∧ next.files = recorder.files

theorem Built.finished (built : Built destinations disk recorder)
    (receives : disk.Receives (destinations.map Prod.fst)) {scenes : List Scene}
    (told : Told recorder scenes next) : Finished destinations disk scenes next.close where
  closed file listed := (shut_close file listed).1
  holds := by
    intro destination listed
    obtain ⟨opened, present, template, parsed, rfl⟩ := exists_related built.fresh listed
    have distinct := built.nodup_places receives
    have records := told.records distinct built.records
    rw [List.nil_append, built.last] at records
    have labelled : (RecordFile.fresh destination.1 template (disk.goal destination.1)).label ∈
        next.files.map RecordFile.label := by
      rw [told.label]
      exact List.mem_map_of_mem present
    obtain ⟨file, among, same⟩ := List.mem_map.mp labelled
    rw [← Recorder.places_eq told.label] at distinct
    obtain ⟨lines, rendered, content⟩ := records_close distinct records file among
    rw [RecordFile.template_eq same] at rendered
    rw [RecordFile.place_eq same] at content
    exact ⟨template, lines, parsed, rendered, content⟩
  kept := by
    intro place elsewhere
    have apart : place ∉ recorder.places := by
      rw [built.places_eq]
      intro among
      obtain ⟨destination, listed, same⟩ := List.mem_map.mp among
      exact elsewhere destination listed same
    have apartToo : place ∉ next.places := Recorder.places_eq told.label ▸ apart
    rw [(kept_close next).files place apartToo, told.kept.files place apart]
    apply built.emptied.kept
    rw [List.forall_mem_map]
    exact elsewhere
  refuses := by
    intro some scene
    have files : next.close.files ≠ [] := by
      intro none
      have same := label_close.trans told.label
      rw [none, List.map_nil, eq_comm, List.map_eq_nil_iff] at same
      have fresh := built.fresh
      rw [same, List.forall₂_nil_right_iff] at fresh
      exact some fresh
    obtain ⟨path, later, refused, kept, keptToo⟩ :=
      update_of_shut files (fun file listed => (shut_close file listed).1) scene
    exact ⟨_, later, refused, rfl, kept, keptToo⟩

/-- What is left where some destinations were opened and then, on account of the rest, closed. -/
structure Abandoned (before rest : List (Path × String)) (disk : Disk) (recorder : Recorder) :
    Prop where
  closed : ∀ file ∈ recorder.files, file.isOpen = false
  places : recorder.places = before.map fun destination => disk.goal destination.1
  emptied : Disk.Emptied (before.map Prod.fst) disk recorder.disk
  kept : ∀ destination ∈ rest,
    recorder.disk.files[disk.goal destination.1]? = disk.files[disk.goal destination.1]?

theorem exists_create (receives : disk.Receives (destinations.map Prod.fst))
    (readable : ∀ destination ∈ destinations, Readable destination) :
    ∃ recorder, create destinations disk = .ok () recorder ∧ Built destinations disk recorder := by
  obtain ⟨recorder, done, built⟩ := (Built.nothing disk).exists_addFiles receives readable
  exact ⟨recorder, by rw [create, done], built⟩

theorem exists_abandoned
    (receives : disk.Receives ((before ++ (path, pattern) :: rest).map Prod.fst))
    (readable : ∀ destination ∈ before, Readable destination)
    (rejected : Template.parse pattern = .error fault) :
    ∃ recorder, create (before ++ (path, pattern) :: rest) disk = .error fault recorder ∧
      Abandoned before ((path, pattern) :: rest) disk recorder := by
  rw [List.map_append] at receives
  obtain ⟨front, -, across⟩ := List.pairwise_append.mp receives.apart
  have earlier : disk.Receives (before.map Prod.fst) :=
    ⟨fun path listed => receives.accepts path (List.mem_append_left _ listed), front⟩
  obtain ⟨recorder, done, built⟩ := (Built.nothing disk).exists_addFiles earlier readable
  rw [List.nil_append] at built
  have failed : addFiles (before ++ (path, pattern) :: rest) ⟨disk, [], none⟩ =
      .error fault recorder := by
    rw [addFiles_append done]
    exact addFiles_of_rejected rejected
  refine ⟨recorder.close, by rw [create, failed], ?_⟩
  constructor
  · exact fun file listed => (shut_close file listed).1
  · rw [Recorder.places_eq label_close, built.places_eq]
  · rw [built.disk_close]
    exact built.emptied
  · intro destination listed
    rw [built.disk_close]
    apply built.emptied.kept
    intro written opened
    exact (across written opened destination.1 (List.mem_map_of_mem listed)).distinct

/--
Where all paths can be written to, a recorder is built if and only if every template can be read.
Its files are empty and open. When it has been told of scenes and closed, once or more often, they
hold the records of these scenes, and no more can be written. If there is a first template that
cannot be read, the files before it are empty and closed, and those from there on are as they were.
-/
theorem built_or_abandoned (receives : disk.Receives (destinations.map Prod.fst)) :
    ((∃ recorder, create destinations disk = .ok () recorder) ↔
      ∀ destination ∈ destinations, Readable destination) ∧
    (∀ recorder, create destinations disk = .ok () recorder →
      Built destinations disk recorder ∧
      (∀ file ∈ recorder.files, file.isOpen = true ∧
        recorder.disk.files[file.place]? = some (.bytes #[])) ∧
      ∀ scenes next, Told recorder scenes next → ∀ count,
        Finished destinations disk scenes (close^[count + 1] next)) ∧
    ∀ before path pattern rest fault, destinations = before ++ (path, pattern) :: rest →
      (∀ destination ∈ before, Readable destination) → Template.parse pattern = .error fault →
      fault.kind ∈ Halt.refused ∧ ∃ recorder, create destinations disk = .error fault recorder ∧
        Abandoned before ((path, pattern) :: rest) disk recorder := by
  have readable (succeeds : ∃ recorder, create destinations disk = .ok () recorder) :
      ∀ destination ∈ destinations, Readable destination := by
    obtain ⟨recorder, created⟩ := succeeds
    rcases readable_or_rejected destinations with
      all | ⟨before, path, pattern, rest, fault, rfl, early, late⟩
    · exact all
    · obtain ⟨_, failed, -⟩ := exists_abandoned receives early late
      rw [created] at failed
      simp at failed
  refine ⟨⟨readable, ?_⟩, ?_, ?_⟩
  · intro all
    obtain ⟨recorder, created, -⟩ := exists_create receives all
    exact ⟨recorder, created⟩
  · intro recorder created
    obtain ⟨made, again, built⟩ := exists_create receives (readable ⟨recorder, created⟩)
    obtain ⟨-, rfl⟩ := EStateM.Result.ok.inj (created.symm.trans again)
    refine ⟨built, ?_, ?_⟩
    · intro file listed
      obtain ⟨isOpen, -, -, empty⟩ := built.forall_fresh file listed
      exact ⟨isOpen, empty⟩
    · intro scenes next told count
      rw [iterate_close]
      exact built.finished receives told
  · rintro before path pattern rest fault rfl early late
    exact ⟨kind_of_rejected late, exists_abandoned receives early late⟩

/-- An example: a disk with a file on it, and two destinations, of which one is that file. -/
def desk : Disk :=
  (Disk.bare ["home"]).put ["home", "old"] (.bytes #[7])

def sheets (pattern : String) : List (Path × String) :=
  [(.ofString "logs/new", "%p"), (.ofString "old", pattern)]

theorem receives_sheets (pattern : String) : desk.Receives ((sheets pattern).map Prod.fst) := by
  have paths : (sheets pattern).map Prod.fst = [⟨"", ["logs", "new"]⟩, ⟨"", ["old"]⟩] := by
    have first : Path.ofString "logs/new" = ⟨"", ["logs", "new"]⟩ := by decide +kernel
    have second : Path.ofString "old" = ⟨"", ["old"]⟩ := by decide +kernel
    simp only [sheets, List.map_cons, List.map_nil, first, second]
  rw [paths]
  constructor
  · rw [List.forall_mem_cons, List.forall_mem_singleton]
    have news : ∀ front ∈ ["logs", "new"].inits, Path.Fits ⟨"", front⟩ := by decide +kernel
    have olds : ∀ front ∈ ["old"].inits, Path.Fits ⟨"", front⟩ := by decide +kernel
    constructor
    · exact ⟨fun front within => news front ((List.mem_inits _ _).mpr within), by decide +kernel,
        by decide +kernel, by decide +kernel, by decide +kernel⟩
    · exact ⟨fun front within => olds front ((List.mem_inits _ _).mpr within), by decide +kernel,
        by decide +kernel, by decide +kernel, by decide +kernel⟩
  · apply List.pairwise_pair.mpr
    exact ⟨by decide +kernel, by decide +kernel, by decide +kernel⟩

theorem built_or_abandoned_desk :
    (∀ pattern, desk.Receives ((sheets pattern).map Prod.fst)) ∧
      (∃ recorder, create (sheets "%g") desk = .ok () recorder) ∧
      ∃ (fault : Fault) (recorder : Recorder),
        create (sheets "%x") desk = .error fault recorder ∧
        Abandoned [(.ofString "logs/new", "%p")] [(.ofString "old", "%x")] desk recorder := by
  have first : Readable (.ofString "logs/new", "%p") := ⟨_, rfl⟩
  have second : Readable (.ofString "old", "%g") := ⟨_, rfl⟩
  refine ⟨receives_sheets, ?_, ?_⟩
  · apply (built_or_abandoned (receives_sheets "%g")).1.mpr
    exact List.forall_mem_cons.mpr ⟨first, List.forall_mem_singleton.mpr second⟩
  · obtain ⟨-, -, refused⟩ := built_or_abandoned (receives_sheets "%x")
    obtain ⟨-, recorder, failed, abandoned⟩ :=
      refused [(.ofString "logs/new", "%p")] (.ofString "old") "%x" [] _ rfl
        (List.forall_mem_singleton.mpr first) rfl
    exact ⟨_, recorder, failed, abandoned⟩

end Recorder

end Forage
