import Forage.Proofs.Places

/-!
# Logs that are being written

A log that is being written has its rows in groups on the disk and in a store of rows
that wait. A flush moves rows from the store into a group of their own, or does nothing;
either way no row is lost and none is doubled. Rows that are given to a log one at a time
end in groups of one size.
-/

namespace Forage

namespace PendingLog

variable {pending next : PendingLog} {disk after : Disk} {rows more : List Row} {place : Place}
  {least : Nat}

/-- The groups that have been written. -/
def groups (pending : PendingLog) : List (List Row) :=
  pending.written.elim [] fun written => written.2.groups

/-- Where the log is, once something of it has been written. -/
def places (pending : PendingLog) : List Place :=
  (pending.written.map Prod.fst).toList

/-- The log of a pending log when what waits has become its last group. -/
def extended (pending : PendingLog) : Log :=
  ⟨pending.columns, pending.groups ++ [pending.waiting.toList]⟩

/-- A flush, which writes a group if so many rows wait for it, or else may do nothing. -/
inductive Flush (least : Nat) (pending : PendingLog) (disk : Disk) : PendingLog → Disk → Prop where
  | idle : Flush least pending disk pending disk
  | write {place : Place} :
      least ≤ pending.waiting.size →
      place ∈ pending.places ∨ pending.written = none ∧ disk.logPlace pending.path = .ok place →
      Flush least pending disk
        { pending with waiting := #[], written := some (place, pending.extended) }
        (disk.put place (.log pending.extended))

/-- What was given to a log is in its groups and among the rows that wait. -/
structure Gathers (pending : PendingLog) (rows : List Row) : Prop where
  rows : pending.groups.flatten ++ pending.waiting.toList = rows
  columns : ∀ written ∈ pending.written, written.2.columns = pending.columns
  begun : ∀ written ∈ pending.written, pending.groups ≠ []

/-- A log lies where its path may lead. -/
def Leads (pending : PendingLog) (disk : Disk) : Prop :=
  ∀ place ∈ pending.places, disk.LogLeads pending.path place

/-- What has been written of a log is on the disk. -/
def Stands (pending : PendingLog) (disk : Disk) : Prop :=
  ∀ written ∈ pending.written, disk.files[written.1]? = some (.log written.2)

theorem groupSize_pos : 0 < groupSize := by decide

section Inversion

theorem target_eq_ok (gathers : pending.Gathers rows) {log : Log}
    (found : pending.target disk = .ok (place, log)) :
    log = ⟨pending.columns, pending.groups⟩ ∧
      (place ∈ pending.places ∨ pending.written = none ∧ disk.logPlace pending.path = .ok place) := by
  unfold target at found
  cases written : pending.written with
  | some before =>
      simp only [written, Except.ok.injEq] at found
      subst found
      have columns : log.columns = pending.columns := gathers.columns _ written
      refine ⟨?_, .inl (by simp [places, written])⟩
      rw [← columns]
      simp [groups, written]
  | none =>
      simp only [written] at found
      obtain ⟨there, led, same⟩ := map_eq_ok_iff.mp found
      obtain ⟨rfl, rfl⟩ := Prod.mk.inj same
      exact ⟨by simp [groups, written, Log.empty], .inr ⟨rfl, led⟩⟩

theorem Flush.of_flush (gathers : pending.Gathers rows)
    (done : pending.flush disk = .ok (next, after)) :
    Flush 1 pending disk next after ∧ next.waiting = #[] := by
  unfold flush at done
  split at done
  · next empty =>
    obtain ⟨rfl, rfl⟩ := Prod.mk.inj (Except.ok.inj done)
    exact ⟨.idle, Array.isEmpty_iff.mp empty⟩
  · next occupied =>
    have some : 1 ≤ pending.waiting.size := by
      have : pending.waiting.size ≠ 0 := fun none => occupied (by simp [Array.isEmpty, none])
      omega
    split at done
    · simp at done
    · obtain ⟨⟨place, log⟩, found, rest⟩ := bind_eq_ok_iff.mp done
      obtain ⟨longer, appended, rest⟩ := bind_eq_ok_iff.mp rest
      obtain ⟨rfl, target⟩ := target_eq_ok gathers found
      unfold Log.append at appended
      split at appended
      · obtain rfl := Except.ok.inj appended
        obtain ⟨rfl, rfl⟩ := Prod.mk.inj (pure_eq_ok_iff.mp rest)
        exact ⟨.write some target, rfl⟩
      · simp at appended

theorem Flush.of_flushFull (gathers : pending.Gathers rows)
    (done : pending.flushFull disk = .ok (next, after)) :
    Flush groupSize pending disk next after ∧ next.waiting.size < groupSize := by
  unfold flushFull at done
  split at done
  · next enough =>
    obtain ⟨flush, empty⟩ := Flush.of_flush gathers done
    refine ⟨?_, by simp [empty, groupSize_pos]⟩
    cases flush with
    | idle => exact .idle
    | write _ target => exact .write enough target
  · next few =>
    obtain ⟨rfl, rfl⟩ := Prod.mk.inj (Except.ok.inj done)
    exact ⟨.idle, Nat.lt_of_not_le few⟩

/-- A log of which nothing was written, if it is wanted, is written with an empty group. -/
theorem Flush.of_writeEmpty {wanted : Bool} (empty : pending.waiting = #[])
    (done : Run.writeEmpty wanted pending disk = .ok after) :
    ∃ next, Flush 0 pending disk next after ∧ next.waiting = #[] ∧
      (next.written = none ↔ pending.written = none ∧ wanted = false) ∧
      (pending.written ≠ none → next = pending) ∧
      (pending.written = none → wanted = true → next.groups = [[]]) := by
  unfold Run.writeEmpty at done
  split at done
  · next due =>
    simp only [Bool.and_eq_true, Option.isNone_iff_eq_none] at due
    obtain ⟨wanted, unwritten⟩ := due
    obtain ⟨place, led, rfl⟩ := map_eq_ok_iff.mp done
    have log : pending.extended = ⟨pending.columns, [[]]⟩ := by
      simp [extended, groups, unwritten, empty]
    refine ⟨{ pending with waiting := #[], written := some (place, pending.extended) }, ?_, rfl, ?_, ?_, ?_⟩
    · rw [← log]
      exact .write (Nat.zero_le _) (.inr ⟨unwritten, led⟩)
    · simp [wanted]
    · exact fun before => absurd unwritten before
    · intro _ _
      simp [groups, log]
  · next needless =>
    obtain rfl := Except.ok.inj done
    simp only [Bool.and_eq_true, Option.isNone_iff_eq_none, not_and'] at needless
    refine ⟨pending, .idle, empty, ?_, fun _ => rfl, ?_⟩
    · cases wanted <;> simp_all
    · intro unwritten wanted
      exact absurd wanted (needless unwritten)

end Inversion

section Rows

theorem Gathers.ofPath (path : Path) (columns : List Column) : (ofPath path columns).Gathers [] :=
  ⟨rfl, by simp [PendingLog.ofPath], by simp [PendingLog.ofPath]⟩

theorem Gathers.add (gathers : pending.Gathers rows) (more : List Row) :
    (pending.add more).Gathers (rows ++ more) where
  rows := by
    rw [← gathers.rows, List.append_assoc, PendingLog.add]
    simp [groups]
  columns := gathers.columns
  begun := gathers.begun

theorem Gathers.flush (gathers : pending.Gathers rows)
    (flush : Flush least pending disk next after) : next.Gathers rows := by
  cases flush with
  | idle => exact gathers
  | write =>
      constructor
      · rw [← gathers.rows]
        simp [groups, extended]
      · simp [extended]
      · simp [groups, extended]

theorem Gathers.prefix_of_groups (gathers : pending.Gathers rows) (columns : List Column) :
    (⟨columns, pending.groups⟩ : Log).rows <+: rows :=
  ⟨pending.waiting.toList, gathers.rows⟩

theorem Gathers.log_eq (gathers : pending.Gathers rows) {log : Log}
    (written : pending.written = some (place, log)) : log = ⟨pending.columns, pending.groups⟩ := by
  have columns : log.columns = pending.columns := gathers.columns _ written
  rw [← columns]
  simp [groups, written]

end Rows

section Groups

theorem Flush.groups_eq (flush : Flush least pending disk next after) :
    next.groups = pending.groups ∧ next.waiting = pending.waiting ∨
      least ≤ pending.waiting.size ∧ next.waiting = #[] ∧
        next.groups = pending.groups ++ [pending.waiting.toList] := by
  cases flush with
  | idle => exact .inl ⟨rfl, rfl⟩
  | write enough => exact .inr ⟨enough, rfl, rfl⟩

theorem Flush.idle_of_few (flush : Flush least pending disk next after)
    (few : pending.waiting.size < least) : next = pending ∧ after = disk := by
  cases flush with
  | idle => exact ⟨rfl, rfl⟩
  | write enough => exact absurd enough (Nat.not_le.mpr few)

theorem Flush.least_le (flush : Flush least pending disk next after)
    (before : ∀ group ∈ pending.groups, least ≤ group.length) :
    ∀ group ∈ next.groups, least ≤ group.length := by
  rcases flush.groups_eq with ⟨same, -⟩ | ⟨enough, -, longer⟩
  · rwa [same]
  · rw [longer, List.forall_mem_append]
    exact ⟨before, List.forall_mem_singleton.mpr enough⟩

theorem Flush.ne_nil (flush : Flush 1 pending disk next after)
    (before : ∀ group ∈ pending.groups, groupSize ≤ group.length) :
    ∀ group ∈ next.groups, group ≠ [] := by
  intro group written
  apply List.ne_nil_of_length_pos
  refine flush.least_le (fun group member => ?_) group written
  exact Nat.le_trans groupSize_pos (before group member)

theorem Flush.le_most {most : Nat} (flush : Flush least pending disk next after)
    (few : pending.waiting.size ≤ most) (before : ∀ group ∈ pending.groups, group.length ≤ most) :
    ∀ group ∈ next.groups, group.length ≤ most := by
  rcases flush.groups_eq with ⟨same, -⟩ | ⟨-, -, longer⟩
  · rwa [same]
  · rw [longer, List.forall_mem_append]
    exact ⟨before, List.forall_mem_singleton.mpr few⟩

/-- The last flush adds one group at most, so all before it are as long as they were. -/
theorem Flush.dropLast_subset (flush : Flush least pending disk next after) :
    next.groups.dropLast ⊆ pending.groups := by
  rcases flush.groups_eq with ⟨same, -⟩ | ⟨-, -, longer⟩
  · rw [same]
    exact List.dropLast_subset _
  · rw [longer, List.dropLast_concat]
    exact List.Subset.refl _

end Groups

section Written

theorem Flush.path (flush : Flush least pending disk next after) : next.path = pending.path := by
  cases flush <;> rfl

theorem Flush.columns (flush : Flush least pending disk next after) :
    next.columns = pending.columns := by
  cases flush <;> rfl

theorem Flush.kept (flush : Flush least pending disk next after) :
    Disk.Kept next.places disk after := by
  cases flush with
  | idle => exact .refl _ disk
  | write => exact .put (by simp [places]) _

/-- A log that is there after a flush was there before, or is what the flush has written. -/
theorem Flush.log_eq (flush : Flush least pending disk next after) {log : Log}
    (found : after.files[place]? = some (.log log)) :
    disk.files[place]? = some (.log log) ∨ log = ⟨next.columns, next.groups⟩ := by
  have kept := flush.kept
  cases flush with
  | idle => exact .inl found
  | @write there =>
      by_cases here : place = there
      · subst here
        rw [Disk.files_put_self, Option.some.injEq, Content.log.injEq] at found
        exact .inr found.symm
      · refine .inl ?_
        rw [← kept.files place (by simp [places, here])]
        exact found

theorem Flush.places_subset (flush : Flush least pending disk next after) :
    pending.places ⊆ next.places := by
  cases flush with
  | idle => exact List.Subset.refl _
  | write _ target =>
      rcases target with before | ⟨unwritten, -⟩
      · cases written : pending.written <;> simp_all [places]
      · simp [places, unwritten]

theorem Leads.add (leads : pending.Leads disk) : (pending.add more).Leads disk := leads

theorem Leads.flush {before : Disk} {written : List Place} (leads : pending.Leads before)
    (kept : Disk.Kept written before disk) (flush : Flush least pending disk next after) :
    next.Leads before := by
  cases flush with
  | idle => exact leads
  | @write there _ target =>
      intro place member
      obtain rfl : place = there := by simpa [places] using member
      rcases target with known | ⟨-, led⟩
      · exact leads place known
      · exact kept.symm.grown.logLeads (Disk.logLeads_of_logPlace led)

theorem Stands.kept {written : List Place} (stands : pending.Stands disk)
    (kept : Disk.Kept written disk after) (apart : ∀ place ∈ pending.places, place ∉ written) :
    pending.Stands after := by
  intro before known
  rw [kept.files before.1 (apart before.1 (by simp_all [places]))]
  exact stands before known

theorem Stands.add (stands : pending.Stands disk) : (pending.add more).Stands disk := stands

theorem Stands.flush (stands : pending.Stands disk)
    (flush : Flush least pending disk next after) : next.Stands after := by
  cases flush with
  | idle => exact stands
  | write =>
      intro written known
      obtain rfl := Option.some.inj known
      exact Disk.files_put_self _

theorem Gathers.written_ne_none (gathers : pending.Gathers rows) (empty : pending.waiting = #[])
    (given : rows ≠ []) : pending.written ≠ none := by
  intro unwritten
  have nothing := gathers.rows
  simp only [groups, unwritten, Option.elim_none, empty, List.flatten_nil, List.nil_append] at nothing
  exact given nothing.symm

/-- A log that was given nothing, and wrote full groups only, has written nothing. -/
theorem Gathers.written_eq_none (gathers : pending.Gathers [])
    (full : ∀ group ∈ pending.groups, groupSize ≤ group.length) :
    pending.written = none ∧ pending.waiting = #[] := by
  obtain ⟨none, still⟩ := List.append_eq_nil_iff.mp gathers.rows
  have groupless : pending.groups = [] := by
    apply List.eq_nil_iff_forall_not_mem.mpr
    intro group member
    have short := full group member
    rw [List.flatten_eq_nil_iff.mp none group member] at short
    exact absurd short (by decide)
  constructor
  · cases written : pending.written with
    | none => rfl
    | some before => exact absurd groupless (gathers.begun before written)
  · simpa using still

end Written

end PendingLog

end Forage
