import CosmeticRules.Matching.Argument

/-!
The values of style properties as they are compared: quotes in `url(...)`, quotes around content, and the
pattern that an expected value stands for.
-/

namespace CosmeticRules.Matching

open Text

def urlStart : List Char := "url(".toList

/-- The address up to the closing parenthesis on the same line, and what follows it. -/
def urlBody? (s : List Char) : Option (List Char × List Char) :=
  let body := s.takeWhile fun c => c != ')' && c != '\n'
  match s.dropWhile fun c => c != ')' && c != '\n' with
  | ')' :: rest => some (body, rest)
  | _ => none

theorem length_urlBody? {s body rest : List Char} (found : urlBody? s = some (body, rest)) :
    rest.length < s.length := by
  unfold urlBody? at found
  simp only [] at found
  split at found
  · rename_i dropped
    have shorter := (List.dropWhile_sublist (l := s) fun c => c != ')' && c != '\n').length_le
    rw [dropped, List.length_cons] at shorter
    simp only [Option.some.injEq, Prod.mk.injEq] at found
    rw [← found.2]
    omega
  · simp at found

/-- Puts quotes into every `url(...)`. -/
def quoteEachUrl (s : List Char) : List Char :=
  match s with
  | [] => []
  | c :: rest =>
    match _found : (afterStart? urlStart (c :: rest)).bind urlBody? with
    | some (body, rest) => urlStart ++ '"' :: body ++ '"' :: ')' :: quoteEachUrl rest
    | none => c :: quoteEachUrl rest
termination_by s.length
decreasing_by
  · obtain ⟨after, started, found⟩ := Option.bind_eq_some_iff.mp _found
    have shorter := length_urlBody? found
    have same := congrArg List.length (afterStart?_eq_some_iff.mp started)
    rw [List.length_append] at same
    omega
  · simp

/-- Puts quotes into every `url(...)`, unless one has them already. -/
def quoteUrls (s : List Char) : List Char :=
  if occursIn "url(\"".toList s then s else quoteEachUrl s

/-- What follows `url` in a pattern when an address starts there: a backslash that may stand before the
escaped parenthesis, the start of the address, and the rest. -/
def patternUrl? (s : List Char) : Option (List Char × List Char × List Char) := do
  let (extra, s) :=
    match s with
    | '\\' :: '\\' :: rest => (['\\'], '\\' :: rest)
    | rest => ([], rest)
  let rest ← afterStart? ['\\', '('] s
  match rest with
  | '[' :: c :: rest => if isWordChar c then some (extra, ['[', c], rest) else none
  | c :: rest => if isWordChar c then some (extra, [c], rest) else none
  | [] => none

theorem length_patternUrl? {s extra start rest : List Char}
    (found : patternUrl? s = some (extra, start, rest)) : rest.length < s.length := by
  have afterPair {a b : List Char} (after : afterStart? ['\\', '('] a = some b) :
      b.length + 2 = a.length := by
    have same := congrArg List.length (afterStart?_eq_some_iff.mp after)
    simp only [List.length_append, List.length_cons, List.length_nil] at same
    omega
  unfold patternUrl? at found
  simp only [Option.bind_eq_bind, Option.bind_eq_some_iff] at found
  obtain ⟨after, started, found⟩ := found
  have shorter := afterPair started
  have body : rest.length < after.length := by
    split at found
    · split at found
      · simp only [Option.some.injEq, Prod.mk.injEq] at found
        rw [← found.2.2]; simp only [List.length_cons]; omega
      · simp at found
    · split at found
      · simp only [Option.some.injEq, Prod.mk.injEq] at found
        rw [← found.2.2]; simp only [List.length_cons]; omega
      · simp at found
    · simp at found
  split at shorter <;> simp only [List.length_cons] at * <;> omega

/-- Lets a quote stand at the start of every address in a pattern. -/
def allowUrlQuotes (s : List Char) : List Char :=
  match s with
  | [] => []
  | c :: rest =>
    match _found : (afterStart? "url".toList (c :: rest)).bind patternUrl? with
    | some (extra, start, rest) =>
      "url".toList ++ extra ++ "\\(\"?".toList ++ start ++ allowUrlQuotes rest
    | none => c :: allowUrlQuotes rest
termination_by s.length
decreasing_by
  · obtain ⟨after, started, found⟩ := Option.bind_eq_some_iff.mp _found
    have shorter := length_patternUrl? found
    have same := congrArg List.length (afterStart?_eq_some_iff.mp started)
    rw [List.length_append] at same
    omega
  · simp

/-- The characters that have a meaning in patterns. -/
def patternSigns : List Char := "\\.*+?()[]\x7b\x7d|^$/".toList

/-- Writes a text as a pattern. Stars, carets and bars keep their meaning. -/
def escapeSigns (s : List Char) : List Char :=
  s.flatMap fun c =>
    if patternSigns.contains c && c != '*' && c != '^' && c != '|' then ['\\', c] else [c]

/-- The characters before which a backslash in an argument only protects them from the selector. -/
def protectedSigns : List Char := "\\()[]\"".toList

/-- The text of the pattern that an expected value stands for. In a plain value, a star stands for any
text. -/
def stylePatternText (value : List Char) : List Char :=
  if value.length ≥ 2 && isSlashed value then strip '/' (allowUrlQuotes value)
  else replaceAll ['*'] ['.', '*'] (escapeSigns (unescape protectedSigns (quoteUrls value)))

/-- The pattern that an expected value stands for; letter case does not count. -/
def stylePattern (value : List Char) : Except Pattern.Error Pattern :=
  Pattern.read { ignoreCase := true } (stylePatternText value)

/-- A computed value as it is compared. -/
def comparedValue (property : List Char) (value : String) : List Char :=
  if property == "background".toList || property == "background-image".toList then
    quoteUrls value.toList
  else if property == "content".toList then
    let stripped := strip '"' value.toList
    if stripped.length < value.length then stripped else strip '\'' value.toList
  else value.toList

end CosmeticRules.Matching
