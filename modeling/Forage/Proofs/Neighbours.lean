import Forage.Proofs.Script
import Forage.World.Tick

/-!
# Tapes one edit away

A mutation makes one edit or none. Whatever is drawn, what comes out is the tape itself or one
that is an edit away from it; and for every tape that is so near, at either end of it too, there
are draws that lead to it.
-/

namespace Forage

/--
Two rows of opcodes are one edit apart: the second lacks an opcode of the first, has one of the
vocabulary more, or has one of the vocabulary in the place of another. Where the only opcode is
deleted, one that does nothing is left.
-/
inductive Opcode.OneEdit (vocabulary : Vocabulary) : List Opcode → List Opcode → Prop where
  | deleted {front back : List Opcode} (opcode : Opcode) :
      front ++ back ≠ [] → OneEdit vocabulary (front ++ opcode :: back) (front ++ back)
  | emptied (opcode : Opcode) : OneEdit vocabulary [opcode] [.sleep]
  | inserted (front back : List Opcode) {opcode : Opcode} :
      opcode ∈ vocabulary.opcodes → OneEdit vocabulary (front ++ back) (front ++ opcode :: back)
  | overwritten (front : List Opcode) (old : Opcode) (back : List Opcode) {opcode : Opcode} :
      opcode ∈ vocabulary.opcodes →
      OneEdit vocabulary (front ++ old :: back) (front ++ opcode :: back)

theorem Opcode.OneEdit.ne_nil {vocabulary : Vocabulary} {opcodes others : List Opcode}
    (apart : OneEdit vocabulary opcodes others) : others ≠ [] := by
  cases apart with
  | deleted _ left => exact left
  | emptied => simp
  | inserted => simp
  | overwritten => simp

namespace Script

variable {α β : Type}

/-- Work comes to a value on some words, wherever in a script it begins. -/
def Attains (work : Script → α × Script) (value : α) : Prop :=
  ∀ start, ∃ word, (work ⟨word, start⟩).1 = value

namespace Attains

theorem pure (value : α) : Attains (fun script => (value, script)) value :=
  fun _ => ⟨fun _ => 0, rfl⟩

/-- The words for one piece of work and those for the next are written one after the other. -/
theorem bind {first : Script → α × Script} {rest : α → Script → β × Script} {value : α} {result : β}
    (reads : Reads first) (attains : Attains first value) (onward : Attains (rest value) result)
    (others : ∀ value, Reads (rest value)) :
    Attains (fun script => rest (first script).1 (first script).2) result := by
  intro start
  obtain ⟨sooner, came⟩ := attains start
  let stop := (first ⟨sooner, start⟩).2.drawn
  obtain ⟨later, ended⟩ := onward stop
  let word : Nat → UInt32 := fun place => if place < stop then sooner place else later place
  have before : Agree ⟨sooner, start⟩ ⟨word, start⟩ stop :=
    ⟨rfl, fun place _ below => if_pos below⟩
  obtain ⟨same, drawn⟩ := reads.same before
  have after : Agree ⟨later, stop⟩ (first ⟨word, start⟩).2 (rest value ⟨later, stop⟩).2.drawn := by
    refine ⟨drawn, fun place from_ _ => ?_⟩
    rw [reads.word]
    exact if_neg (Nat.not_lt.mpr from_)
  refine ⟨word, ?_⟩
  dsimp only
  rw [same, came, ← ended]
  exact ((others value).same after).1

theorem map {work : Script → α × Script} {value : α} (attains : Attains work value)
    (change : α → β) :
    Attains (fun script => (change (work script).1, (work script).2)) (change value) := by
  intro start
  obtain ⟨word, came⟩ := attains start
  exact ⟨word, congrArg change came⟩

end Attains

end Script

open Script

namespace Draw

theorem attains_below {n value : Nat} (bound : value < n) : Attains (below n) value := by
  intro start
  have positive : 0 < n := Nat.zero_lt_of_lt bound
  obtain ⟨word, first, -⟩ := exists_bits start (bitLength_pos positive)
    (Nat.lt_trans bound (lt_two_pow_bitLength n))
  refine ⟨word, ?_⟩
  rw [below_of_lt, first]
  rwa [first]

theorem attains_pick {α : Type} {choices : List α} {choice : α} (listed : choice ∈ choices)
    (default : α) : Attains (pick choices default) choice := by
  obtain ⟨place, bound, found⟩ := List.getElem_of_mem listed
  have attains := (attains_below bound).map fun index => choices.getD index default
  rw [List.getD_eq_getElem?_getD, List.getElem?_eq_getElem bound, Option.getD_some,
    found] at attains
  exact attains

end Draw

namespace Edit

/-- An edit that can be made on so many opcodes with the help of a vocabulary. -/
def Fits (vocabulary : Vocabulary) (length : Nat) : Edit → Prop
  | delete place => place < length
  | insert place opcode => place < length + 1 ∧ opcode ∈ vocabulary.opcodes
  | overwrite place opcode => place < length ∧ opcode ∈ vocabulary.opcodes

variable {vocabulary : Vocabulary} {length : Nat}

/-- The kind of an edit and its place, once the candidate has been drawn. -/
def drawPlaced {G : Type} [WordSource G] (length : Nat) (candidate : Opcode) (kind : Nat)
    (source : G) : Edit × G :=
  if kind = 0 then
    (delete (Draw.below length source).1, (Draw.below length source).2)
  else if kind = 1 then
    (insert (Draw.below (length + 1) source).1 candidate, (Draw.below (length + 1) source).2)
  else (overwrite (Draw.below length source).1 candidate, (Draw.below length source).2)

theorem draw_eq {G : Type} [WordSource G] (vocabulary : Vocabulary) (length : Nat) :
    (draw vocabulary length : G → Edit × G) = fun source =>
      drawPlaced length (vocabulary.draw source).1 (Draw.below kinds (vocabulary.draw source).2).1
        (Draw.below kinds (vocabulary.draw source).2).2 := by
  funext source
  unfold draw drawPlaced
  rfl

theorem fits_draw {G : Type} [WordSource G] (vocabulary : Vocabulary) (positive : 0 < length)
    (source : G) : (draw vocabulary length source).1.Fits vocabulary length := by
  have listed := vocabulary.draw_mem source
  simp only [draw_eq, drawPlaced]
  split_ifs
  · exact Draw.below_lt positive _
  · exact ⟨Draw.below_lt (Nat.succ_pos _) _, listed⟩
  · exact ⟨Draw.below_lt positive _, listed⟩

theorem reads_drawPlaced (length : Nat) (candidate : Opcode) (kind : Nat) :
    Reads (drawPlaced length candidate kind : Script → Edit × Script) := by
  unfold drawPlaced
  split_ifs
  · exact (Draw.reads_below length).map delete
  · exact (Draw.reads_below (length + 1)).map fun place => insert place candidate
  · exact (Draw.reads_below length).map fun place => overwrite place candidate

theorem reads_kinded (length : Nat) (candidate : Opcode) :
    Reads fun script : Script =>
      drawPlaced length candidate (Draw.below kinds script).1 (Draw.below kinds script).2 :=
  (Draw.reads_below kinds).bind fun kind => reads_drawPlaced length candidate kind

theorem reads_draw (vocabulary : Vocabulary) (length : Nat) :
    Reads (draw vocabulary length : Script → Edit × Script) := by
  rw [draw_eq]
  exact (Draw.reads_pick vocabulary.opcodes .sleep).bind fun candidate =>
    reads_kinded length candidate

theorem lt_drawn_draw (vocabulary : Vocabulary) (length : Nat) (script : Script) :
    script.drawn < (draw vocabulary length script).2.drawn := by
  have first := Draw.drawn_below vocabulary.opcodes.length script
  have positive := Draw.span_pos vocabulary.opcodes.length script
  have onward := (reads_kinded length (vocabulary.draw script).1).forward (vocabulary.draw script).2
  have same : (vocabulary.draw script).2 = (Draw.below vocabulary.opcodes.length script).2 := rfl
  rw [draw_eq]
  dsimp only at onward ⊢
  rw [same] at onward ⊢
  omega

theorem attains_draw {edit : Edit} (fits : edit.Fits vocabulary length) :
    Attains (draw vocabulary length) edit := by
  have build {candidate : Opcode} {kind : Nat} (listed : candidate ∈ vocabulary.opcodes)
      (known : kind < kinds) (placed : Attains (drawPlaced length candidate kind) edit) :
      Attains (draw vocabulary length) edit := by
    have kinded := Attains.bind (Draw.reads_below kinds) (Draw.attains_below known) placed
      fun kind => reads_drawPlaced length candidate kind
    rw [draw_eq]
    exact Attains.bind (Draw.reads_pick vocabulary.opcodes .sleep)
      (Draw.attains_pick listed .sleep) kinded fun candidate => reads_kinded length candidate
  cases edit with
  | delete place =>
      -- A deletion draws a candidate as well, and any will do.
      obtain ⟨candidate, listed⟩ := List.exists_mem_of_ne_nil _ vocabulary.opcodes_ne_nil
      exact build listed (show 0 < kinds by decide) ((Draw.attains_below fits).map delete)
  | insert place opcode =>
      exact build fits.2 (show 1 < kinds by decide)
        ((Draw.attains_below fits.1).map fun place => insert place opcode)
  | overwrite place opcode =>
      exact build fits.2 (show 2 < kinds by decide)
        ((Draw.attains_below fits.1).map fun place => overwrite place opcode)

section Splits

variable {opcodes : List Opcode}

theorem exists_split {place : Nat} (bound : place < opcodes.length) :
    ∃ front old back, opcodes = front ++ old :: back ∧ front.length = place :=
  ⟨opcodes.take place, opcodes[place], opcodes.drop (place + 1),
    by rw [List.getElem_cons_drop, List.take_append_drop],
    List.length_take_of_le (Nat.le_of_lt bound)⟩

theorem exists_gap {place : Nat} (bound : place < opcodes.length + 1) :
    ∃ front back, opcodes = front ++ back ∧ front.length = place :=
  ⟨opcodes.take place, opcodes.drop place, (List.take_append_drop place opcodes).symm,
    List.length_take_of_le (Nat.le_of_lt_succ bound)⟩

theorem apply_delete (front : List Opcode) (old : Opcode) (back : List Opcode) :
    (delete front.length).apply (front ++ old :: back) = front ++ back := by
  rw [apply, List.eraseIdx_append_of_length_le (Nat.le_refl _), Nat.sub_self,
    List.eraseIdx_cons_zero]

theorem apply_insert (front back : List Opcode) (opcode : Opcode) :
    (insert front.length opcode).apply (front ++ back) = front ++ opcode :: back := by
  induction front with
  | nil => simp [apply]
  | cons first front inductionHypothesis => simpa [apply] using inductionHypothesis

theorem apply_overwrite (front : List Opcode) (old : Opcode) (back : List Opcode)
    (opcode : Opcode) :
    (overwrite front.length opcode).apply (front ++ old :: back) = front ++ opcode :: back := by
  rw [apply, List.set_append_right _ _ (Nat.le_refl _), Nat.sub_self, List.set_cons_zero]

/-- What an edit that can be made leads to is one edit away, and nothing else is. -/
theorem oneEdit_iff (some : opcodes ≠ []) {result : List Opcode} :
    Opcode.OneEdit vocabulary opcodes result ↔
      ∃ edit : Edit, edit.Fits vocabulary opcodes.length ∧
        Tape.filled (edit.apply opcodes) = result := by
  constructor
  · intro apart
    cases apart with
    | @deleted front back old left =>
        refine ⟨delete front.length, ?_, ?_⟩
        · simp [Fits]
        · rw [apply_delete, Tape.filled_of_ne_nil left]
    | emptied old => exact ⟨delete 0, Nat.zero_lt_one, rfl⟩
    | @inserted front back opcode listed =>
        refine ⟨insert front.length opcode, ⟨?_, listed⟩, ?_⟩
        · simp only [List.length_append]
          omega
        · rw [apply_insert, Tape.filled_of_ne_nil (by simp)]
    | @overwritten front old back opcode listed =>
        refine ⟨overwrite front.length opcode, ⟨?_, listed⟩, ?_⟩
        · simp
        · rw [apply_overwrite, Tape.filled_of_ne_nil (by simp)]
  · rintro ⟨edit, fits, rfl⟩
    cases edit with
    | delete place =>
        obtain ⟨front, old, back, rfl, rfl⟩ := exists_split fits
        rw [apply_delete]
        by_cases left : front ++ back = []
        · obtain ⟨rfl, rfl⟩ := List.append_eq_nil_iff.mp left
          exact .emptied old
        · rw [Tape.filled_of_ne_nil left]
          exact .deleted old left
    | insert place opcode =>
        obtain ⟨front, back, rfl, rfl⟩ := exists_gap fits.1
        rw [apply_insert, Tape.filled_of_ne_nil (by simp)]
        exact .inserted front back fits.2
    | overwrite place opcode =>
        obtain ⟨front, old, back, rfl, rfl⟩ := exists_split fits.1
        rw [apply_overwrite, Tape.filled_of_ne_nil (by simp)]
        exact .overwritten front old back fits.2

end Splits

end Edit

namespace Tape

open Edit

variable {G : Type} [WordSource G]

theorem ofList_eq {tape : Tape} {opcodes : List Opcode} (start : tape.pointer = 0)
    (held : filled opcodes = tape.opcodes) : ofList opcodes = tape := by
  rw [ofList, startingAt, held, Int.zero_emod, ← start]

/-- A mutation once its roll has been drawn. -/
def mutateRolled (tape : Tape) (rate : Int) (vocabulary : Vocabulary) (roll : Nat) (source : G) :
    Tape × G :=
  if rate ≤ roll then (tape.rewound, source)
  else (tape.edited (draw vocabulary tape.length source).1, (draw vocabulary tape.length source).2)

theorem mutate_eq_rolled (tape : Tape) (rate : Int) (vocabulary : Vocabulary) :
    (tape.mutate rate vocabulary : G → Tape × G) = fun source =>
      tape.mutateRolled rate vocabulary (Draw.below percent source).1
        (Draw.below percent source).2 := by
  funext source
  simp only [mutate, mutateRolled]

theorem reads_mutateRolled (tape : Tape) (rate : Int) (vocabulary : Vocabulary) (roll : Nat) :
    Reads (tape.mutateRolled rate vocabulary roll : Script → Tape × Script) := by
  unfold mutateRolled
  split_ifs
  · exact Reads.pure _
  · exact (reads_draw vocabulary tape.length).map tape.edited

/-- A roll on which a mutation comes to a tape can itself be drawn, and so the tape. -/
theorem attains_mutate {tape mutant : Tape} {rate : Int} {vocabulary : Vocabulary} {roll : Nat}
    (rolled : roll < percent) (attains : Attains (tape.mutateRolled rate vocabulary roll) mutant) :
    Attains (tape.mutate rate vocabulary) mutant := by
  rw [mutate_eq_rolled]
  exact Attains.bind (Draw.reads_below percent) (Draw.attains_below rolled) attains
    fun roll => reads_mutateRolled tape rate vocabulary roll

theorem attains_rewound {rate : Int} (below : rate < percent) (tape : Tape)
    (vocabulary : Vocabulary) : Attains (tape.mutate rate vocabulary) tape.rewound := by
  have rolled : 99 < percent := by decide
  apply attains_mutate rolled
  have copied : rate ≤ (99 : Nat) := Int.le_of_lt_add_one below
  unfold mutateRolled
  simp only [copied, if_true]
  exact Attains.pure _

theorem attains_edited {rate : Int} (positive : 0 < rate) {tape : Tape} {vocabulary : Vocabulary}
    {edit : Edit} (fits : edit.Fits vocabulary tape.length) :
    Attains (tape.mutate rate vocabulary) (tape.edited edit) := by
  have rolled : 0 < percent := by decide
  apply attains_mutate rolled
  have edited : ¬rate ≤ (0 : Nat) := Int.not_le.mpr positive
  unfold mutateRolled
  simp only [edited, if_false]
  exact (attains_draw fits).map tape.edited

theorem mutate_of_le {tape : Tape} {rate : Int} {vocabulary : Vocabulary} {source : G}
    (copied : rate ≤ (Draw.below percent source).1) :
    tape.mutate rate vocabulary source = (tape.rewound, (Draw.below percent source).2) := by
  rw [mutate_eq_rolled]
  exact if_pos copied

theorem mutate_of_lt {tape : Tape} {rate : Int} {vocabulary : Vocabulary} {source : G}
    (rolled : ((Draw.below percent source).1 : Int) < rate) :
    tape.mutate rate vocabulary source =
      (tape.edited (draw vocabulary tape.length (Draw.below percent source).2).1,
        (draw vocabulary tape.length (Draw.below percent source).2).2) := by
  rw [mutate_eq_rolled]
  exact if_neg (Int.not_le.mpr rolled)

theorem oneEdit_mutate {tape : Tape} (some : tape.opcodes ≠ []) {rate : Int}
    {vocabulary : Vocabulary} {source : G} (rolled : ((Draw.below percent source).1 : Int) < rate) :
    Opcode.OneEdit vocabulary tape.opcodes (tape.mutate rate vocabulary source).1.opcodes := by
  rw [mutate_of_lt rolled]
  exact (oneEdit_iff some).mpr
    ⟨_, fits_draw vocabulary (List.length_pos_iff.mpr some) _, rfl⟩

theorem drawn_mutate_eq_iff (tape : Tape) (rate : Int) (vocabulary : Vocabulary) (script : Script) :
    (tape.mutate rate vocabulary script).2.drawn = (Draw.below percent script).2.drawn ↔
      rate ≤ (Draw.below percent script).1 := by
  by_cases copied : rate ≤ (Draw.below percent script).1
  · rw [mutate_of_le copied]
    exact iff_of_true rfl copied
  · rw [mutate_of_lt (Int.not_le.mp copied)]
    have onward := lt_drawn_draw vocabulary tape.length (Draw.below percent script).2
    exact iff_of_false (Nat.ne_of_gt onward) copied

/--
What a mutation can come to: a tape with its pointer at the start that has the same opcodes, if
the rate leaves room for a copy, or that is one edit away, if it leaves room for an edit; any
such tape, and no other. A copy is made exactly when the roll is at least the rate, and whoever
passes on a tape keeps it.
-/
theorem mutants_exact {tape : Tape} (some : tape.opcodes ≠ []) (rate : Int)
    (vocabulary : Vocabulary) :
    (∀ mutant : Tape, (∃ script : Script, (tape.mutate rate vocabulary script).1 = mutant) ↔
      mutant.pointer = 0 ∧ (rate < percent ∧ mutant.opcodes = tape.opcodes ∨
        0 < rate ∧ Opcode.OneEdit vocabulary tape.opcodes mutant.opcodes)) ∧
    (∀ (G : Type) [WordSource G] (source : G),
      (Draw.below percent source).1 < percent ∧
      (tape.mutate rate vocabulary source).1.pointer = 0 ∧
      (tape.mutate rate vocabulary source).1.opcodes ≠ [] ∧
      (rate ≤ (Draw.below percent source).1 →
        (tape.mutate rate vocabulary source).1.opcodes = tape.opcodes ∧
          (tape.mutate rate vocabulary source).2 = (Draw.below percent source).2) ∧
      (((Draw.below percent source).1 : Int) < rate →
        Opcode.OneEdit vocabulary tape.opcodes (tape.mutate rate vocabulary source).1.opcodes)) ∧
    (∀ script : Script, (tape.mutate rate vocabulary script).2.drawn =
        (Draw.below percent script).2.drawn ↔ rate ≤ (Draw.below percent script).1) ∧
    (∀ (G : Type) [WordSource G] (config : Config) (parent : Forager) (source : G),
      parent.tape = tape → (parent.split config source).1.tape = tape ∧
        ∃ drawn : G, (parent.split config source).2.1.tape =
          (tape.mutate config.mutationRate config.vocabulary drawn).1) := by
  have kept : tape.rewound.opcodes = tape.opcodes := filled_of_ne_nil some
  have outcome {G : Type} [WordSource G] (source : G) :
      (rate ≤ (Draw.below percent source).1 ∧
        (tape.mutate rate vocabulary source).1.opcodes = tape.opcodes) ∨
      (((Draw.below percent source).1 : Int) < rate ∧
        Opcode.OneEdit vocabulary tape.opcodes (tape.mutate rate vocabulary source).1.opcodes) := by
    by_cases copied : rate ≤ (Draw.below percent source).1
    · exact .inl ⟨copied, by rw [mutate_of_le copied, kept]⟩
    · have edited := Int.not_le.mp copied
      exact .inr ⟨edited, oneEdit_mutate some edited⟩
  have rolled {G : Type} [WordSource G] (source : G) : (Draw.below percent source).1 < percent :=
    Draw.below_lt (by decide) source
  refine ⟨fun mutant => ⟨?_, ?_⟩, ?_, drawn_mutate_eq_iff tape rate vocabulary, ?_⟩
  · rintro ⟨script, rfl⟩
    have bound := rolled script
    refine ⟨tape.pointer_mutate rate vocabulary script, ?_⟩
    rcases outcome script with ⟨copied, same⟩ | ⟨edited, apart⟩
    · exact .inl ⟨by omega, same⟩
    · exact .inr ⟨by omega, apart⟩
  · rintro ⟨start, ⟨room, same⟩ | ⟨positive, apart⟩⟩
    · obtain ⟨word, came⟩ := attains_rewound room tape vocabulary 0
      exact ⟨_, came.trans (ofList_eq start (kept.trans same.symm))⟩
    · obtain ⟨edit, fits, made⟩ := (oneEdit_iff some).mp apart
      obtain ⟨word, came⟩ := attains_edited positive fits 0
      exact ⟨_, came.trans (ofList_eq start made)⟩
  · intro G _ source
    refine ⟨rolled source, tape.pointer_mutate rate vocabulary source, ?_, ?_, ?_⟩
    · rcases outcome source with ⟨-, same⟩ | ⟨-, apart⟩
      · rwa [same]
      · exact apart.ne_nil
    · intro copied
      rw [mutate_of_le copied]
      exact ⟨kept, rfl⟩
    · exact oneEdit_mutate some
  · rintro G _ config parent source rfl
    exact ⟨rfl, (Heading.draw (config.drawCell source).2).2, rfl⟩

theorem mutants_exact_append :
    (⟨[.move, .left], 1⟩ : Tape).opcodes ≠ [] ∧
      ∃ script : Script,
        ((⟨[.move, .left], 1⟩ : Tape).mutate 100 .basic script).1 = ⟨[.move, .left, .right], 0⟩ := by
  have some : (⟨[.move, .left], 1⟩ : Tape).opcodes ≠ [] := by decide
  have apart : Opcode.OneEdit .basic [.move, .left] [.move, .left, .right] :=
    .inserted [.move, .left] [] (by decide)
  exact ⟨some, ((mutants_exact some 100 .basic).1 _).mpr ⟨rfl, .inr ⟨by decide, apart⟩⟩⟩

end Tape

end Forage
