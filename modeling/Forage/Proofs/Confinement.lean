import Forage.Proofs.Naming
import Forage.Proofs.Unreadable
import Mathlib.Logic.Relation

/-!
# Paths that must not lead out of a base

A path from the root is made shorter as long as that is possible: what counts for nothing is left
out, a name goes together with the double dots after it, and double dots in front lead nowhere.
Whatever is done first, the same names are left in the end. A path is followed below a base if the
names of the base are the first of its own; otherwise it is refused.
-/

namespace Forage

namespace Path

open Relation (ReflTransGen)
open Text (Nameable)

variable {cwd : List String} {base path text name : String} {names goal place home : List String}
  {stretch : List Char} {stretches shorter : List (List Char)}

/-- A stretch between slashes that leads one part further. -/
def Names (stretch : List Char) : Prop :=
  isPart stretch = true ∧ stretch ≠ back.toList

/-- A way to make a path from the root shorter, by the stretches between its slashes. -/
inductive Shortens : List (List Char) → List (List Char) → Prop where
  | idle {before after : List (List Char)} {stretch : List Char} :
      isPart stretch = false → Shortens (before ++ stretch :: after) (before ++ after)
  | back {before after : List (List Char)} {name : List Char} :
      Names name → Shortens (before ++ name :: back.toList :: after) (before ++ after)
  | root {after : List (List Char)} : Shortens (back.toList :: after) after

theorem Names.ne_nil (named : Names stretch) : stretch ≠ [] := by
  rintro rfl
  exact absurd named.1 (by decide)

/-- What the text of a path from the root comes to when it is made as short as it can be. -/
def Normal (text : String) (names : List String) : Prop :=
  ReflTransGen Shortens (Text.splitOn '/' text.toList) (names.map String.toList) ∧
    ∀ name ∈ names, Names name.toList

/-- The stretches followed one after the other from a place. -/
def settle (place : List String) (stretches : List (List Char)) : List String :=
  ((stretches.filter isPart).map String.ofList).foldl follow place

theorem settle_append (others : List (List Char)) :
    settle place (stretches ++ others) = settle (settle place stretches) others := by
  simp [settle]

theorem settle_cons_of_idle (idle : isPart stretch = false) :
    settle place (stretch :: stretches) = settle place stretches := by
  simp [settle, idle]

theorem settle_cons_of_back :
    settle place (back.toList :: stretches) = settle place.dropLast stretches := by
  have counts : isPart back.toList = true := by decide
  simp [settle, counts, follow]

theorem settle_cons_of_names (named : Names stretch) :
    settle place (stretch :: stretches) =
      settle (place ++ [String.ofList stretch]) stretches := by
  have onward : String.ofList stretch ≠ back := by
    intro same
    apply named.2
    rw [← same, String.toList_ofList]
  simp [settle, named.1, follow, onward]

theorem idle_or_back_or_names (stretch : List Char) :
    isPart stretch = false ∨ stretch = back.toList ∨ Names stretch := by
  cases counts : isPart stretch with
  | false => exact .inl rfl
  | true =>
      by_cases turns : stretch = back.toList
      · exact .inr (.inl turns)
      · exact .inr (.inr ⟨counts, turns⟩)

theorem Shortens.settle_eq (shortens : Shortens stretches shorter) :
    settle [] stretches = settle [] shorter := by
  cases shortens with
  | idle idle => rw [settle_append, settle_append, settle_cons_of_idle idle]
  | back named =>
      rw [settle_append, settle_append, settle_cons_of_names named, settle_cons_of_back,
        List.dropLast_concat]
  | root => rw [settle_cons_of_back, List.dropLast_nil]

theorem settle_eq_of_reflTransGen (shortened : ReflTransGen Shortens stretches shorter) :
    settle [] stretches = settle [] shorter := by
  induction shortened with
  | refl => rfl
  | tail _ last inductionHypothesis => exact inductionHypothesis.trans last.settle_eq

theorem follow_foldl_of_notMem (onward : back ∉ names) : names.foldl follow place = place ++ names := by
  induction names generalizing place with
  | nil => simp
  | cons name names inductionHypothesis =>
      rw [List.mem_cons, not_or] at onward
      rw [List.foldl_cons, follow, if_neg (Ne.symm onward.1), inductionHypothesis onward.2,
        List.append_assoc, List.singleton_append]

theorem back_notMem (named : ∀ name ∈ names, Names name.toList) : back ∉ names :=
  fun listed => (named back listed).2 rfl

theorem settle_of_names (named : ∀ name ∈ names, Names name.toList) :
    settle place (names.map String.toList) = place ++ names := by
  have kept : (names.map String.toList).filter isPart = names.map String.toList := by
    apply List.filter_eq_self.mpr
    rw [List.forall_mem_map]
    exact fun name listed => (named name listed).1
  rw [settle, kept, List.map_map, ← follow_foldl_of_notMem (back_notMem named)]
  simp [Function.comp_def]

theorem names_settle (named : ∀ name ∈ place, Names name.toList) :
    ∀ name ∈ settle place stretches, Names name.toList := by
  induction stretches generalizing place with
  | nil => exact named
  | cons stretch stretches inductionHypothesis =>
      rcases idle_or_back_or_names stretch with idle | rfl | further
      · rw [settle_cons_of_idle idle]
        exact inductionHypothesis named
      · rw [settle_cons_of_back]
        exact inductionHypothesis fun name listed => named name (List.dropLast_subset _ listed)
      · rw [settle_cons_of_names further]
        apply inductionHypothesis
        rw [List.forall_mem_append, List.forall_mem_singleton, String.toList_ofList]
        exact ⟨named, further⟩

theorem reflTransGen_settle (named : ∀ name ∈ place, Names name.toList) :
    ReflTransGen Shortens (place.map String.toList ++ stretches)
      ((settle place stretches).map String.toList) := by
  induction stretches generalizing place with
  | nil =>
      rw [List.append_nil]
      exact .refl
  | cons stretch stretches inductionHypothesis =>
      rcases idle_or_back_or_names stretch with idle | rfl | further
      · rw [settle_cons_of_idle idle]
        exact .head (.idle idle) (inductionHypothesis named)
      · rw [settle_cons_of_back]
        rcases List.eq_nil_or_concat place with rfl | ⟨front, name, rfl⟩
        · exact .head .root (inductionHypothesis named)
        · rw [List.concat_eq_append] at named ⊢
          rw [List.dropLast_concat]
          rw [List.forall_mem_append, List.forall_mem_singleton] at named
          rw [List.map_append, List.append_assoc]
          exact .head (.back named.2) (inductionHypothesis named.1)
      · rw [settle_cons_of_names further]
        have longer : ∀ name ∈ place ++ [String.ofList stretch], Names name.toList := by
          rw [List.forall_mem_append, List.forall_mem_singleton, String.toList_ofList]
          exact ⟨named, further⟩
        have rest := inductionHypothesis longer
        rwa [List.map_append, List.append_assoc, List.map_singleton, String.toList_ofList] at rest

theorem normal_iff : Normal text names ↔ names = settle [] (Text.splitOn '/' text.toList) := by
  constructor
  · rintro ⟨shortened, named⟩
    rw [settle_eq_of_reflTransGen shortened, settle_of_names named, List.nil_append]
  · rintro rfl
    have none : ∀ name ∈ ([] : List String), Names name.toList := List.forall_mem_nil _
    exact ⟨reflTransGen_settle none, names_settle none⟩

theorem isAbsolute_ofString_iff :
    (ofString text).isAbsolute = true ↔ text.toList.head? = some '/' := by
  unfold isAbsolute ofString rootOf
  cases chars : text.toList with
  | nil => simp
  | cons c rest =>
      by_cases slash : c = '/'
      · simp only [slash, List.takeWhile_cons, beq_self_eq_true, if_true, List.length_cons,
          List.head?_cons, iff_true]
        split <;> simp_all
      · simp [slash]

/-- The text of a path that goes on from a base, unless it starts from the root itself. -/
def joined (base path : String) : String :=
  if path.toList.head? = some '/' then path else base ++ "/" ++ path

theorem parts_join (base path : String) :
    ((ofString base).join (ofString path)).parts = (ofString (joined base path)).parts := by
  unfold join joined
  by_cases own : path.toList.head? = some '/'
  · rw [if_pos own, if_pos (isAbsolute_ofString_iff.mpr own)]
  · have stretches : Text.splitOn '/' (base ++ "/" ++ path).toList =
        Text.splitOn '/' base.toList ++ Text.splitOn '/' path.toList := by
      have parted : (base ++ "/" ++ path).toList = base.toList ++ '/' :: path.toList := by
        simp [String.toList_append]
      rw [parted, Text.splitOn_eq, Text.splitOn_eq, Text.splitOn_eq, List.splitOn_append_cons_self]
    rw [if_neg own, if_neg (isAbsolute_ofString_iff.not.mpr own)]
    simp only [ofString, stretches, List.filter_append, List.map_append]

theorem resolve_ofString (absolute : text.toList.head? = some '/') :
    (ofString text).resolve cwd = settle [] (Text.splitOn '/' text.toList) := by
  rw [resolve, if_pos (isAbsolute_ofString_iff.mpr absolute)]
  rfl

theorem resolve_join (absolute : base.toList.head? = some '/') :
    ((ofString base).join (ofString path)).resolve cwd =
      settle [] (Text.splitOn '/' (joined base path).toList) := by
  have rooted : ((ofString base).join (ofString path)).isAbsolute = true := by
    unfold join
    split
    · assumption
    · exact isAbsolute_ofString_iff.mpr absolute
  rw [resolve, if_pos rooted, parts_join]
  rfl

theorem nameable_joined_and_iff :
    Nameable (joined base path).toList ∧ Nameable base.toList ↔
      Nameable base.toList ∧ Nameable path.toList := by
  unfold joined
  split
  · exact and_comm
  · have parted : (base ++ "/" ++ path).toList = base.toList ++ '/' :: path.toList := by
      simp [String.toList_append]
    rw [parted, Text.nameable_append_iff]
    constructor
    · exact And.left
    · intro both
      exact ⟨both, both.1⟩

theorem resolve_fromRoot (named : ∀ name ∈ names, Names name.toList) :
    (fromRoot names).resolve cwd = names :=
  follow_foldl_of_notMem (back_notMem named)

theorem rootOf_cons {rest : List Char} (single : rest.head? ≠ some '/') :
    rootOf ('/' :: rest) = "/" := by
  have last : rest.takeWhile (· == '/') = [] := by
    cases rest with
    | nil => rfl
    | cons c rest =>
        have different : c ≠ '/' := by simpa using single
        simp [different]
  simp [rootOf, last]

theorem ofString_text_fromRoot (named : ∀ name ∈ names, Names name.toList)
    (plain : ∀ name ∈ names, '/' ∉ name.toList) :
    ofString (fromRoot names).text = fromRoot names := by
  have whole : (fromRoot names).text.toList = '/' :: ['/'].intercalate (names.map String.toList) := by
    simp [text, fromRoot, String.toList_intercalate]
  have stretches : (Text.splitOn '/' ('/' :: ['/'].intercalate (names.map String.toList))).filter
      isPart = names.map String.toList := by
    have slash := List.splitOn_append_cons_self (a := '/') [] (['/'].intercalate (names.map String.toList))
    rw [List.nil_append] at slash
    rw [Text.splitOn_eq, slash, List.filter_append]
    cases names with
    | nil => rfl
    | cons name names =>
        rw [List.splitOn_intercalate '/' (List.forall_mem_map.mpr plain) (by simp)]
        apply List.filter_eq_self.mpr
        rw [List.forall_mem_map]
        exact fun name listed => (named name listed).1
  have root : rootOf ('/' :: ['/'].intercalate (names.map String.toList)) = "/" := by
    apply rootOf_cons
    cases names with
    | nil => simp
    | cons name names =>
        rw [List.forall_mem_cons] at named plain
        obtain ⟨c, rest, chars⟩ := List.exists_cons_of_ne_nil named.1.ne_nil
        rw [chars, List.mem_cons, not_or] at plain
        cases names with
        | nil => simpa [chars, eq_comm] using plain.1.1
        | cons next names => simpa [List.intercalate_cons_cons, chars, eq_comm] using plain.1.1
  unfold ofString
  rw [whole, stretches, root, List.map_map]
  simp [fromRoot, Function.comp_def]

/-- Wherever parts lead, it lies along the place that they start from or along the parts. -/
theorem follow_foldl_subset (parts place : List String) :
    parts.foldl follow place ⊆ place ++ parts := by
  induction parts generalizing place with
  | nil => simp
  | cons part parts inductionHypothesis =>
      intro name listed
      have later := inductionHypothesis (follow place part) listed
      unfold follow at later
      split at later
      · rcases List.mem_append.mp later with before | after
        · exact List.mem_append_left _ (List.dropLast_subset _ before)
        · exact List.mem_append_right _ (List.mem_cons_of_mem _ after)
      · rwa [List.append_assoc] at later

theorem slash_notMem_of_parts {part : String} (listed : part ∈ (ofString text).parts) :
    '/' ∉ part.toList := by
  obtain ⟨stretch, kept, rfl⟩ := List.mem_map.mp listed
  rw [String.toList_ofList]
  exact Text.notMem_of_mem_splitOn (List.mem_filter.mp kept).1

/-- A path is followed if its way and that of the base can be gone, and it stays below the base. -/
theorem resolveWithin_eq_ok_iff {base path found : Path} :
    resolveWithin cwd base path = .ok found ↔
      ((base.join path).checkWay = .ok () ∧ base.checkWay = .ok ()) ∧
        base.resolve cwd <+: (base.join path).resolve cwd ∧
          found = fromRoot ((base.join path).resolve cwd) := by
  unfold resolveWithin
  dsimp only
  rw [bind_eq_ok_iff, and_assoc]
  constructor
  · rintro ⟨_, candidate, rest⟩
    obtain ⟨_, home, rest⟩ := bind_eq_ok_iff.mp rest
    split at rest
    next below =>
      obtain rfl := pure_eq_ok_iff.mp rest
      exact ⟨candidate, home, List.isPrefixOf_iff_prefix.mp below, rfl⟩
    next => simp [throw, throwThe, MonadExceptOf.throw] at rest
  · rintro ⟨candidate, home, below, rfl⟩
    refine ⟨(), candidate, bind_eq_ok_iff.mpr ⟨(), home, ?_⟩⟩
    rw [if_pos (List.isPrefixOf_iff_prefix.mpr below)]
    rfl

theorem resolveWithin_of_escaped {base path : Path}
    (walkable : (base.join path).checkWay = .ok () ∧ base.checkWay = .ok ())
    (escaped : ¬base.resolve cwd <+: (base.join path).resolve cwd) :
    resolveWithin cwd base path = .error (.escapesBase path.text) := by
  have beyond : ¬(base.resolve cwd).isPrefixOf ((base.join path).resolve cwd) = true :=
    List.isPrefixOf_iff_prefix.not.mpr escaped
  unfold resolveWithin
  dsimp only
  rw [walkable.1, walkable.2, if_neg beyond]
  rfl

theorem walkable_iff :
    (((ofString base).join (ofString path)).checkWay = .ok () ∧ (ofString base).checkWay = .ok ()) ↔
      Nameable base.toList ∧ Nameable path.toList := by
  rw [checkWay_eq_ok_iff, checkWay_eq_ok_iff, parts_join, nameable_ofString_iff,
    nameable_ofString_iff, nameable_joined_and_iff]

/-- What has been followed below a base is followed there again, to the same place. -/
theorem resolveWithin_fromRoot {base : Path} (home : base.checkWay = .ok ())
    (named : ∀ name ∈ names, Names name.toList) (nameable : ∀ name ∈ names, Nameable name.toList)
    (below : base.resolve cwd <+: names) :
    resolveWithin cwd base (fromRoot names) = .ok (fromRoot names) := by
  have own : base.join (fromRoot names) = fromRoot names := by
    rw [join, if_pos (by rfl)]
  apply resolveWithin_eq_ok_iff.mpr
  rw [own, resolve_fromRoot named]
  exact ⟨⟨checkWay_eq_ok_iff.mpr nameable, home⟩, below, rfl⟩

theorem resolveWithin_ofString_eq_ok_iff {found : Path} :
    resolveWithin cwd (ofString base) (ofString path) = .ok found ↔
      (Nameable base.toList ∧ Nameable path.toList) ∧
        (ofString base).resolve cwd <+: ((ofString base).join (ofString path)).resolve cwd ∧
          found = fromRoot (((ofString base).join (ofString path)).resolve cwd) := by
  rw [resolveWithin_eq_ok_iff, walkable_iff]

theorem Names.ne (named : Names name.toList) : name ≠ "" ∧ name ≠ "." ∧ name ≠ ".." := by
  refine ⟨?_, ?_, ?_⟩
  · rintro rfl
    exact absurd named.1 (by decide)
  · rintro rfl
    exact absurd named.1 (by decide)
  · rintro rfl
    exact named.2 rfl

/-- A place below a base is not below another one beside it, whatever their names have in common. -/
theorem not_prefix_of_ne {above further : List String} {other : String} (different : other ≠ name) :
    ¬above ++ [name] <+: above ++ other :: further := by
  rintro ⟨rest, same⟩
  rw [List.append_assoc, List.append_cancel_left_eq] at same
  exact different (List.cons.inj same).1.symm

/-- Where a path leads from a base, every name on the way is a part of the one or of the other. -/
theorem mem_resolve_join (absolute : base.toList.head? = some '/')
    (listed : name ∈ ((ofString base).join (ofString path)).resolve cwd) :
    Names name.toList ∧ name ∈ (ofString (joined base path)).parts := by
  rw [resolve_join absolute] at listed
  exact ⟨names_settle (List.forall_mem_nil _) name listed, follow_foldl_subset _ [] listed⟩

/-- A path is followed below a base, or refused: where both lead, and what comes of it. -/
structure Confined (cwd : List String) (base path : String) (home goal : List String) : Prop where
  home_iff : ∀ names, Normal base names ↔ names = home
  goal_iff : ∀ names, Normal (joined base path) names ↔ names = goal
  named : ∀ name ∈ goal, name ≠ "" ∧ name ≠ "." ∧ name ≠ ".." ∧ '/' ∉ name.toList
  followed : Nameable base.toList → Nameable path.toList → home <+: goal →
    resolveWithin cwd (ofString base) (ofString path) = .ok (fromRoot goal)
  escaped : Nameable base.toList → Nameable path.toList → ¬home <+: goal →
    resolveWithin cwd (ofString base) (ofString path) = .error (.escapesBase (ofString path).text)
  /-- A name that only begins like that of the base is another one. -/
  sibling : ∀ {above further : List String} {name other : String}, home = above ++ [name] →
    goal = above ++ other :: further → other ≠ name → ¬home <+: goal
  unnamed : ¬(Nameable base.toList ∧ Nameable path.toList) →
    ∃ fault, resolveWithin cwd (ofString base) (ofString path) = .error fault
  invalid : ∀ fault, resolveWithin cwd (ofString base) (ofString path) = .error fault →
    fault.kind ∈ Halt.refused
  within : ∀ found, resolveWithin cwd (ofString base) (ofString path) = .ok found →
    found = fromRoot goal ∧ (goal = home ∨ ∃ name further, goal = home ++ name :: further)
  again : ∀ found, resolveWithin cwd (ofString base) (ofString path) = .ok found →
    ofString found.text = found ∧ resolveWithin cwd (ofString base) found = .ok found

/--
Wherever a path leads, it is followed if that is below the base, and refused otherwise. What is
followed is followed again.
-/
theorem confined (cwd : List String) {base : String} (path : String)
    (absolute : base.toList.head? = some '/') : ∃ home goal, Confined cwd base path home goal := by
  have named : ∀ name ∈ ((ofString base).join (ofString path)).resolve cwd, Names name.toList :=
    fun _ listed => (mem_resolve_join absolute listed).1
  have along : ∀ name ∈ ((ofString base).join (ofString path)).resolve cwd,
      name ∈ (ofString (joined base path)).parts :=
    fun _ listed => (mem_resolve_join absolute listed).2
  have plain : ∀ name ∈ ((ofString base).join (ofString path)).resolve cwd, '/' ∉ name.toList :=
    fun name listed => slash_notMem_of_parts (along name listed)
  refine ⟨(ofString base).resolve cwd, ((ofString base).join (ofString path)).resolve cwd, ?_⟩
  constructor
  case home_iff =>
    intro names
    rw [resolve_ofString absolute]
    exact normal_iff
  case goal_iff =>
    intro names
    rw [resolve_join absolute]
    exact normal_iff
  case named =>
    intro name listed
    obtain ⟨full, still, onward⟩ := (named name listed).ne
    exact ⟨full, still, onward, plain name listed⟩
  case followed =>
    intro ours others below
    exact resolveWithin_ofString_eq_ok_iff.mpr ⟨⟨ours, others⟩, below, rfl⟩
  case escaped =>
    intro ours others escaped
    exact resolveWithin_of_escaped (walkable_iff.mpr ⟨ours, others⟩) escaped
  case sibling =>
    intro above further name other home goal different
    rw [home, goal]
    exact not_prefix_of_ne different
  case unnamed =>
    intro unnamed
    cases result : resolveWithin cwd (ofString base) (ofString path) with
    | error fault => exact ⟨fault, rfl⟩
    | ok found => exact absurd (resolveWithin_ofString_eq_ok_iff.mp result).1 unnamed
  case invalid => exact fun fault => kind_of_resolveWithin
  case within =>
    intro found followed
    obtain ⟨-, ⟨rest, below⟩, rfl⟩ := resolveWithin_ofString_eq_ok_iff.mp followed
    refine ⟨rfl, ?_⟩
    rw [← below]
    cases rest with
    | nil => exact .inl (List.append_nil _)
    | cons name further => exact .inr ⟨name, further, rfl⟩
  case again =>
    intro found followed
    obtain ⟨nameable, below, rfl⟩ := resolveWithin_ofString_eq_ok_iff.mp followed
    refine ⟨ofString_text_fromRoot named plain, ?_⟩
    have whole := nameable_joined_and_iff.mpr nameable
    apply resolveWithin_fromRoot (walkable_iff.mpr nameable).2 named _ below
    exact fun name listed => (nameable_ofString_iff _).mpr whole.1 name (along name listed)

theorem confined_out :
    resolveWithin ["home"] (ofString "/srv/out") (ofString "../.././../srv/out//plots/x/..") =
      .ok (fromRoot ["srv", "out", "plots"]) ∧
    resolveWithin ["home"] (ofString "/srv/out") (ofString "/srv/outer/a") =
      .error (.escapesBase "/srv/outer/a") := by
  have absolute : "/srv/out".toList.head? = some '/' := by decide
  have ours : Nameable "/srv/out".toList := by decide
  have base : Normal "/srv/out" ["srv", "out"] := normal_iff.mpr (by decide)
  constructor
  · obtain ⟨home, goal, comes⟩ := confined ["home"] "../.././../srv/out//plots/x/.." absolute
    obtain rfl := (comes.home_iff _).mp base
    obtain rfl := (comes.goal_iff ["srv", "out", "plots"]).mp (normal_iff.mpr (by decide))
    exact comes.followed ours (by decide) (by decide)
  · obtain ⟨home, goal, comes⟩ := confined ["home"] "/srv/outer/a" absolute
    obtain rfl := (comes.home_iff _).mp base
    obtain rfl := (comes.goal_iff ["srv", "outer", "a"]).mp (normal_iff.mpr (by decide))
    have beside : ["srv", "out"] = ["srv"] ++ ["out"] := rfl
    have beyond : ["srv", "outer", "a"] = ["srv"] ++ "outer" :: ["a"] := rfl
    exact comes.escaped ours (by decide) (comes.sibling beside beyond (by decide))

end Path

end Forage
