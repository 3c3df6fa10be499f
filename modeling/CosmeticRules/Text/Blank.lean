/-!
White space of texts: trimming, and splitting at blanks and at single characters.
-/

namespace CosmeticRules.Text

/-- The characters with the property White_Space. -/
def isBlank (c : Char) : Bool :=
  let point := c.toNat
  (9 ≤ point && point ≤ 13) || point == 0x20 || point == 0x85 || point == 0xA0 ||
    point == 0x1680 || (0x2000 ≤ point && point ≤ 0x200A) || point == 0x2028 ||
    point == 0x2029 || point == 0x202F || point == 0x205F || point == 0x3000

theorem isBlank_of_isWhitespace {c : Char} (space : c.isWhitespace = true) : isBlank c = true := by
  simp only [Char.isWhitespace, Bool.or_eq_true, decide_eq_true_eq] at space
  rcases space with ((rfl | rfl) | rfl) | rfl <;> rfl

/-- White space of the ASCII range without the vertical tab. -/
def isAsciiBlank (c : Char) : Bool :=
  c == ' ' || c == '\t' || c == '\n' || c == '\r' || c == '\x0c'

/-- Drops the longest end whose characters all satisfy the test. -/
def dropEndWhile (p : Char → Bool) (s : List Char) : List Char := (s.reverse.dropWhile p).reverse

def trimStart (s : List Char) : List Char := s.dropWhile isBlank

def trimEnd (s : List Char) : List Char := dropEndWhile isBlank s

/-- Drops blanks from both ends. -/
def trim (s : List Char) : List Char := trimEnd (trimStart s)

def trimText (s : String) : String := String.ofList (trim s.toList)

/-- The maximal runs of characters that are not blank. -/
def fields (s : List Char) : List (List Char) := (s.splitOnP isBlank).filter (!·.isEmpty)

/-- The parts before and after the first occurrence of a character. -/
def splitFirst? (mark : Char) : List Char → Option (List Char × List Char)
  | [] => none
  | c :: rest =>
    if c = mark then some ([], rest)
    else (splitFirst? mark rest).map fun (before, after) => (c :: before, after)

theorem eq_append_of_splitFirst? {mark : Char} {s before after : List Char}
    (split : splitFirst? mark s = some (before, after)) :
    s = before ++ mark :: after ∧ mark ∉ before := by
  induction s generalizing before with
  | nil => simp [splitFirst?] at split
  | cons c rest ih =>
    by_cases same : c = mark
    · simp only [splitFirst?, same, if_true, Option.some.injEq, Prod.mk.injEq] at split
      obtain ⟨rfl, rfl⟩ := split
      simp [same]
    · simp only [splitFirst?, same, if_false, Option.map_eq_some_iff] at split
      obtain ⟨⟨start, stop⟩, found, pair⟩ := split
      obtain ⟨rfl, rfl⟩ := Prod.mk.inj pair
      obtain ⟨rfl, fresh⟩ := ih found
      simp [fresh, Ne.symm same]

/-- The first character that satisfies a test, between what stands before and after it. -/
def splitWhere? (p : Char → Bool) : List Char → Option (List Char × Char × List Char)
  | [] => none
  | c :: rest =>
    if p c then some ([], c, rest)
    else (splitWhere? p rest).map fun (before, found, after) => (c :: before, found, after)

theorem eq_append_of_splitWhere? {p : Char → Bool} {s before after : List Char} {c : Char}
    (split : splitWhere? p s = some (before, c, after)) :
    s = before ++ c :: after ∧ p c = true ∧ ∀ d ∈ before, p d = false := by
  induction s generalizing before with
  | nil => simp [splitWhere?] at split
  | cons d rest ih =>
    by_cases holds : p d
    · simp only [splitWhere?, holds, if_true, Option.some.injEq, Prod.mk.injEq] at split
      obtain ⟨rfl, rfl, rfl⟩ := split
      simp [holds]
    · simp only [splitWhere?, holds, Bool.false_eq_true, if_false, Option.map_eq_some_iff] at split
      obtain ⟨⟨start, found, stop⟩, inner, pair⟩ := split
      simp only [Prod.mk.injEq] at pair
      obtain ⟨rfl, rfl, rfl⟩ := pair
      obtain ⟨rfl, marked, fresh⟩ := ih inner
      simpa [holds, marked] using fresh

theorem length_splitWhere? {p : Char → Bool} {s before after : List Char} {c : Char}
    (split : splitWhere? p s = some (before, c, after)) : after.length < s.length := by
  rw [(eq_append_of_splitWhere? split).1, List.length_append, List.length_cons]
  omega

theorem length_splitFirst? {mark : Char} {s before after : List Char}
    (split : splitFirst? mark s = some (before, after)) : after.length < s.length := by
  rw [(eq_append_of_splitFirst? split).1, List.length_append, List.length_cons]
  omega

theorem length_trimStart_le (s : List Char) : (trimStart s).length ≤ s.length :=
  (List.dropWhile_sublist (l := s) isBlank).length_le

end CosmeticRules.Text
