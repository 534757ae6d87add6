/-!
# Blanks

White space in the sense of Unicode's bidirectional classes and space
separators, with the four ASCII separators. Trimming takes blanks off both ends
of a text and nothing from its middle.
-/

namespace Forage.Text

def blankRanges : List (Nat × Nat) :=
  [(0x09, 0x0d), (0x1c, 0x20), (0x85, 0x85), (0xa0, 0xa0), (0x1680, 0x1680), (0x2000, 0x200a),
    (0x2028, 0x2029), (0x202f, 0x202f), (0x205f, 0x205f), (0x3000, 0x3000)]

def isBlank (c : Char) : Bool :=
  blankRanges.any fun range => range.1 ≤ c.toNat && c.toNat ≤ range.2

def stripWhere (drop : Char → Bool) (chars : List Char) : List Char :=
  (((chars.dropWhile drop).reverse).dropWhile drop).reverse

def trim (chars : List Char) : List Char :=
  stripWhere isBlank chars

/-- The stretches of a text between the occurrences of a separator, empty ones included. -/
def splitOn (separator : Char) : List Char → List (List Char)
  | [] => [[]]
  | c :: rest =>
      if c = separator then [] :: splitOn separator rest
      else
        match splitOn separator rest with
        | [] => [[c]]
        | part :: parts => (c :: part) :: parts

/-- The stretches between commas, trimmed, without those that are blank. -/
def commaParts (chars : List Char) : List (List Char) :=
  ((splitOn ',' chars).map trim).filter fun part => !part.isEmpty

def cut (separator : Char) : List Char → Option (List Char × List Char)
  | [] => none
  | c :: rest =>
      if c = separator then some ([], rest)
      else (cut separator rest).map fun parts => (c :: parts.1, parts.2)

theorem splitOn_ne_nil (separator : Char) (chars : List Char) : splitOn separator chars ≠ [] := by
  induction chars with
  | nil => simp [splitOn]
  | cons c rest inductionHypothesis =>
      simp only [splitOn]
      split
      · simp
      · split <;> simp

theorem cut_eq_some {separator : Char} {chars left right : List Char}
    (h : cut separator chars = some (left, right)) :
    chars = left ++ separator :: right ∧ separator ∉ left := by
  induction chars generalizing left with
  | nil => simp [cut] at h
  | cons c rest inductionHypothesis =>
      simp only [cut] at h
      split at h
      · simp_all
      · obtain ⟨⟨first, second⟩, found, same⟩ := Option.map_eq_some_iff.mp h
        simp only [Prod.mk.injEq] at same
        obtain ⟨rfl, rfl⟩ := same
        obtain ⟨rfl, absent⟩ := inductionHypothesis found
        simp_all [eq_comm]

end Forage.Text
