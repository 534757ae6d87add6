import Forage.Command.Simulate
import Forage.Proofs.Fallible

/-!
# Values of their declared shapes

Whatever words a command is given, the settings that it reads from them belong to options that are
declared, and their values have the declared shapes; only two dashes in the place of a value do
not count as one.
-/

namespace Forage

/-- A datum is of the shape that an option is declared with. -/
def OptionShape.Fits : OptionShape → Datum → Prop
  | .text, .text _ | .whole, .whole _ | .switch, .truth _ => True
  | _, _ => False

/-- An option may lead to a setting, be it with nothing but two dashes. -/
def OptionRule.Sets (rule : OptionRule) (setting : String × Datum) : Prop :=
  rule.key = setting.1 ∧ (rule.shape.Fits setting.2 ∨ setting.2 = .list [])

theorem Datum.mem_of_lookup {key : String} {fields : List (String × Datum)} {datum : Datum}
    (found : lookup key fields = some datum) : (key, datum) ∈ fields := by
  obtain ⟨⟨name, value⟩, first, rfl⟩ := Option.map_eq_some_iff.mp found
  have named : name = key := by simpa using List.find?_some first
  exact named ▸ List.mem_reverse.mp (List.mem_of_find?_eq_some first)

namespace Word

/-- If a word is an option, it is one of those that are declared. -/
def Known (rules : List OptionRule) : Word → Prop
  | option rule _ _ => rule ∈ rules
  | dashes | value _ | stray _ => True

variable {rules : List OptionRule} {text name : String} {rule : OptionRule} {word : Word}

theorem mem_of_named (listed : (name, rule) ∈ named rules) : rule ∈ rules := by
  obtain ⟨declared, member, same⟩ := List.mem_flatMap.mp listed
  obtain ⟨_, -, pair⟩ := List.mem_map.mp same
  exact (Prod.mk.inj pair).2 ▸ member

theorem mem_of_candidates {joined : Option String}
    (listed : (name, rule, joined) ∈ candidates rules text) : rule ∈ rules := by
  simp only [candidates] at listed
  split at listed
  · obtain ⟨⟨_, found⟩, member, same⟩ := List.mem_filterMap.mp listed
    obtain rfl : found = rule := by
      split at same
      · simp_all
      · simp at same
    exact mem_of_named member
  · obtain ⟨⟨_, found⟩, member, same⟩ := List.mem_filterMap.mp listed
    obtain rfl : found = rule := by
      split at same
      · simp_all
      split at same
      · simp_all
      · simp at same
    exact mem_of_named member

theorem known_of_sort (sorted : sort rules text = .ok word) : word.Known rules := by
  unfold sort at sorted
  split at sorted
  · exact Except.ok.inj sorted ▸ trivial
  dsimp only at sorted
  split at sorted
  · next found => exact Except.ok.inj sorted ▸ mem_of_named (List.mem_of_find?_eq_some found)
  split at sorted
  · next found => exact Except.ok.inj sorted ▸ mem_of_named (List.mem_of_find?_eq_some found)
  split at sorted
  · obtain rfl := Except.ok.inj sorted
    unfold sortOther
    split <;> trivial
  · next only =>
      have listed := only ▸ List.mem_singleton_self _
      exact Except.ok.inj sorted ▸ mem_of_candidates listed
  · simp at sorted

theorem known_of_sortAll {texts : List String} {words : List Word}
    (sorted : sortAll rules texts = .ok words) : ∀ word ∈ words, word.Known rules := by
  induction texts generalizing words with
  | nil => simp_all [sortAll]
  | cons text texts inductionHypothesis =>
      unfold sortAll at sorted
      split at sorted
      · simp at *
      · next same =>
          obtain ⟨rfl, rfl⟩ := List.cons.inj same
          obtain rfl := Except.ok.inj sorted
          simp [Known]
      · next same =>
          obtain ⟨rfl, rfl⟩ := List.cons.inj same
          obtain ⟨word, one, sorted⟩ := bind_eq_ok_iff.mp sorted
          obtain ⟨rest, others, same⟩ := bind_eq_ok_iff.mp sorted
          obtain rfl := Except.ok.inj same
          exact List.forall_mem_cons.mpr ⟨known_of_sort one, inductionHypothesis others⟩

end Word

namespace Given

/-- What is given is given by declared options, each with a value of its declared shape. -/
def Declared (rules : List OptionRule) (given : Given) : Prop :=
  ∀ setting ∈ given.settings, ∃ rule ∈ rules, rule.key = setting.1 ∧ rule.shape.Fits setting.2

/-- What is given is given by declared options. -/
def Told (rules : List OptionRule) (given : Given) : Prop :=
  ∀ setting ∈ given.settings, ∃ rule ∈ rules, rule.Sets setting

variable {rules : List OptionRule} {given after : Given} {rule : OptionRule} {datum : Datum}

theorem Told.add (told : given.Told rules) (listed : rule ∈ rules)
    (fits : rule.shape.Fits datum ∨ datum = .list []) : (given.add rule.key datum).Told rules := by
  intro setting member
  rcases List.mem_append.mp member with earlier | last
  · exact told setting earlier
  · obtain rfl := List.mem_singleton.mp last
    exact ⟨rule, listed, rfl, fits⟩

theorem fits_of_switch {name : String} {joined : Option String} (bare : (!takesValue rule) = true)
    (read : ofSwitch rule name joined = .ok datum) : rule.shape.Fits datum := by
  obtain ⟨names, key, shape, required⟩ := rule
  cases joined with
  | some text => simp [ofSwitch] at read
  | none =>
      cases shape with
      | text | whole => simp [takesValue] at bare
      | help => simp [ofSwitch] at read
      | switch =>
          obtain rfl := Except.ok.inj read
          exact trivial

theorem fits_of_value {text : String} (valued : ¬(!takesValue rule) = true)
    (read : valueOf rule text = .ok datum) : rule.shape.Fits datum ∨ datum = .list [] := by
  obtain ⟨names, key, shape, required⟩ := rule
  unfold valueOf at read
  split at read
  · exact .inr (Except.ok.inj read).symm
  · cases shape with
    | switch | help => simp [takesValue] at valued
    | text =>
        obtain rfl := Except.ok.inj read
        exact .inl trivial
    | whole =>
        dsimp only at read
        split at read
        · obtain rfl := Except.ok.inj read
          exact .inl trivial
        · simp at read

/-- Words are gone through one after the other, an option together with its value. -/
theorem Told.collect {words : List Word} (told : given.Told rules)
    (known : ∀ word ∈ words, word.Known rules) (done : collect given words = .ok after) :
    after.Told rules := by
  fun_induction Given.collect given words with
  | case1 => exact Except.ok.inj done ▸ told
  | case2 given rest inductionHypothesis =>
      exact inductionHypothesis told (List.forall_mem_cons.mp known).2 done
  | case3 given text rest inductionHypothesis =>
      exact inductionHypothesis told (List.forall_mem_cons.mp known).2 done
  | case4 given text rest inductionHypothesis =>
      exact inductionHypothesis told (List.forall_mem_cons.mp known).2 done
  | case6 given rule name joined rest bare datum read inductionHypothesis =>
      obtain ⟨listed, others⟩ := List.forall_mem_cons.mp known
      exact inductionHypothesis (told.add listed (.inl (fits_of_switch bare read))) others done
  | case8 given rule name valued text rest datum read inductionHypothesis =>
      obtain ⟨listed, others⟩ := List.forall_mem_cons.mp known
      exact inductionHypothesis (told.add listed (fits_of_value valued read)) others done
  | case10 given rule name valued text rest datum read inductionHypothesis =>
      obtain ⟨listed, others⟩ := List.forall_mem_cons.mp known
      exact inductionHypothesis (told.add listed (fits_of_value valued read))
        (List.forall_mem_cons.mp others).2 done
  | case5 | case7 | case9 | case11 => simp at done

/-- What is read from words has the declared shapes, unless two dashes took the place of a value. -/
theorem declared_of_read {words : List String} (read : Given.read rules words = .ok given)
    (plain : ∀ setting ∈ given.settings, setting.2 ≠ .list []) : given.Declared rules := by
  obtain ⟨loose, collected, checked⟩ := bind_eq_ok_iff.mp read
  obtain ⟨_, -, same⟩ := bind_eq_ok_iff.mp checked
  obtain rfl := Except.ok.inj same
  obtain ⟨sorted, sorts, collected⟩ := bind_eq_ok_iff.mp collected
  obtain ⟨reached, collects, checked⟩ := bind_eq_ok_iff.mp collected
  have told : reached.Told rules :=
    Told.collect (by simp [Told, empty]) (Word.known_of_sortAll sorts) collects
  obtain rfl : reached = loose := by
    dsimp only at checked
    split at checked
    · exact nomatch checked
    · exact Except.ok.inj checked
  intro setting member
  obtain ⟨rule, listed, key, fits | bare⟩ := told setting member
  · exact ⟨rule, listed, key, fits⟩
  · exact absurd bare (plain setting member)

theorem Declared.exists_text {key : String} (declared : given.Declared rules)
    (ruled : ∀ rule ∈ rules, rule.key = key → rule.shape = .text)
    (found : given.get key = some datum) : ∃ text, datum = .text text := by
  obtain ⟨rule, listed, same, fits⟩ := declared _ (Datum.mem_of_lookup found)
  rw [ruled rule listed same] at fits
  cases datum with
  | text text => exact ⟨text, rfl⟩
  | null | truth | whole | real | list | record => exact fits.elim

end Given

end Forage
