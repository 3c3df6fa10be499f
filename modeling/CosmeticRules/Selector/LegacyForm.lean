import CosmeticRules.Selector.Error
import CosmeticRules.Text.Blank
import CosmeticRules.Text.Search

/-!
Older spellings of selectors and the spelling they stand for: an attribute condition
`[-ext-name="argument"]` is the pseudo-class `:name(argument)`, a scope before a child combinator is
left out, and the two style pseudo-classes for pseudo-elements become one.
-/

namespace CosmeticRules.LegacyForm

open Text

def isNameChar (c : Char) : Bool := ('a' ≤ c && c ≤ 'z') || c == '-' || c == '_'

/-- Reads up to the quote that is followed by a closing bracket. A backslash keeps the character
after it; a line feed ends the attempt. -/
def argument? (quote : Char) : List Char → Option (List Char × List Char)
  | [] => none
  | [_] => none
  | c :: d :: rest =>
    if c = quote ∧ d = ']' then some ([], rest)
    else if c = '\n' then none
    else if c = '\\' then
      if d = '\n' then none
      else (argument? quote rest).map fun (value, after) => (c :: d :: value, after)
    else (argument? quote (d :: rest)).map fun (value, after) => (c :: value, after)

/-- Takes the backslash away from quotes, except where another backslash stands before it. -/
def unescapeQuotesAfter (quote : Char) : List Char → List Char
  | c :: '\\' :: d :: rest =>
    if c ≠ '\\' ∧ d = quote then c :: d :: unescapeQuotesAfter quote rest
    else c :: unescapeQuotesAfter quote ('\\' :: d :: rest)
  | c :: rest => c :: unescapeQuotesAfter quote rest
  | [] => []

/-- As `unescapeQuotesAfter`, with a quote at the very start freed as well. -/
def unescapeQuotes (quote : Char) : List Char → List Char
  | '\\' :: d :: rest =>
    if d = quote then d :: unescapeQuotesAfter quote rest
    else unescapeQuotesAfter quote ('\\' :: d :: rest)
  | s => unescapeQuotesAfter quote s

def opening : List Char := ['[', '-', 'e', 'x', 't', '-']

/-- The argument after an equals sign, out of its quotes, and the text after the bracket. -/
def quotedArgument? : List Char → Option (List Char × List Char)
  | '=' :: quote :: rest =>
    if quote = '"' ∨ quote = '\'' then
      (argument? quote rest).map fun (value, after) => (unescapeQuotes quote value, after)
    else none
  | _ => none

/-- An old attribute form at the start of the text, as the pseudo-class it stands for and the text
after it. -/
def condition? (s : List Char) : Option (List Char × List Char) :=
  match afterStart? opening s with
  | none => none
  | some rest =>
    if (rest.takeWhile isNameChar).isEmpty then none
    else (quotedArgument? (rest.dropWhile isNameChar)).map fun (value, after) =>
      (':' :: rest.takeWhile isNameChar ++ '(' :: value ++ [')'], after)

theorem length_argument? {quote : Char} {s value after : List Char}
    (found : argument? quote s = some (value, after)) : after.length < s.length := by
  fun_induction argument? quote s generalizing value with
  | case1 => simp at found
  | case2 => simp at found
  | case3 c d rest closed =>
    obtain ⟨_, rfl⟩ := Prod.mk.inj (Option.some.inj found)
    simp only [List.length_cons]; omega
  | case4 => simp at found
  | case5 => simp at found
  | case6 rest d _ _ _ ih =>
    obtain ⟨⟨_, _⟩, inner, pair⟩ := Option.map_eq_some_iff.mp found
    obtain ⟨_, rfl⟩ := Prod.mk.inj pair
    have shorter := ih inner
    simp only [List.length_cons]; omega
  | case7 c d rest _ _ _ ih =>
    obtain ⟨⟨_, _⟩, inner, pair⟩ := Option.map_eq_some_iff.mp found
    obtain ⟨_, rfl⟩ := Prod.mk.inj pair
    have shorter := ih inner
    simp only [List.length_cons] at shorter ⊢; omega

theorem length_quotedArgument? {s value after : List Char}
    (found : quotedArgument? s = some (value, after)) : after.length < s.length := by
  unfold quotedArgument? at found
  split at found
  · split at found
    · obtain ⟨⟨_, _⟩, inner, pair⟩ := Option.map_eq_some_iff.mp found
      obtain ⟨_, rfl⟩ := Prod.mk.inj pair
      have shorter := length_argument? inner
      simp only [List.length_cons]; omega
    · simp at found
  · simp at found

theorem length_condition? {s form after : List Char} (found : condition? s = some (form, after)) :
    after.length < s.length := by
  unfold condition? at found
  split at found
  · simp at found
  · rename_i rest start
    split at found
    · simp at found
    · obtain ⟨⟨_, _⟩, inner, pair⟩ := Option.map_eq_some_iff.mp found
      obtain ⟨_, rfl⟩ := Prod.mk.inj pair
      have shorter := length_quotedArgument? inner
      have suffix := (List.dropWhile_sublist (l := rest) isNameChar).length_le
      rw [afterStart?_eq_some_iff.mp start, List.length_append]; omega

/-- Replaces the old attribute forms from left to right. -/
def replaceConditions (s : List Char) : List Char :=
  match found : condition? s with
  | some (form, after) =>
    have := length_condition? found
    form ++ replaceConditions after
  | none =>
    match s with
    | [] => []
    | c :: rest => c :: replaceConditions rest
  termination_by s.length

/-- The shorter spellings and what they stand for, in the order in which they are replaced. -/
def shorthands : List (String × String) :=
  [("(:scope >", "(>"), (":matches-css-before(", ":matches-css(before,"),
    (":matches-css-after(", ":matches-css(after,")]

def replaceShorthands (s : List Char) : List Char :=
  shorthands.foldl (fun text (long, short) => replaceAll long.toList short.toList text) s

/-- The selector in the current spelling, without blanks around it. What still opens an old attribute
form afterwards is an error. -/
def normalize (selector : String) : Except SelectorError (List Char) :=
  let trimmed := trim selector.toList
  let current := replaceShorthands (replaceConditions trimmed)
  if occursIn opening current then .error (.oldSyntax (String.ofList trimmed)) else .ok current

end CosmeticRules.LegacyForm
