import CosmeticRules.Text.Blank
import CosmeticRules.Text.Case

/-!
The sets of characters that patterns are made of.
-/

namespace CosmeticRules

inductive CharSet
  | empty
  | one (c : Char)
  /-- A character and those that differ from it in case. -/
  | anyCase (c : Char)
  | range (first last : Char)
  | digits
  | blanks
  | wordChars
  /-- The characters whose code points lie in the set with these edges. -/
  | edges (list : List Nat)
  | all
  | union (s t : CharSet)
  | intersection (s t : CharSet)
  | difference (s t : CharSet)
  | symmetricDifference (s t : CharSet)
  | complement (s : CharSet)
  /-- A set and all characters that differ from one of its characters in case. -/
  | folded (s : CharSet)
  deriving DecidableEq, Repr, Inhabited

namespace CharSet

def contains : CharSet → Char → Bool
  | empty, _ => false
  | one a, c => a == c
  | anyCase a, c => Text.sameFold a c
  | range first last, c => first ≤ c && c ≤ last
  | digits, c => Text.isDecimalDigit c
  | blanks, c => Text.isBlank c
  | wordChars, c => Text.isWordChar c
  | edges list, c => Text.withinEdges list c.toNat
  | all, _ => true
  | union s t, c => s.contains c || t.contains c
  | intersection s t, c => s.contains c && t.contains c
  | difference s t, c => s.contains c && !t.contains c
  | symmetricDifference s t, c => s.contains c != t.contains c
  | complement s, c => !s.contains c
  | folded s, c => (Text.caseVariants c).any s.contains

def ofList (sets : List CharSet) : CharSet := sets.foldr union empty

/-- The set of one character, with or without regard to case. -/
def ofChar (ignoreCase : Bool) (c : Char) : CharSet := if ignoreCase then anyCase c else one c

def hexDigits : CharSet := ofList [range '0' '9', range 'A' 'F', range 'a' 'f']

/-- The sets of ASCII characters that have names of their own. -/
def named : List (String × CharSet) :=
  let lower := range 'a' 'z'
  let upper := range 'A' 'Z'
  let digit := range '0' '9'
  [("alnum", ofList [digit, upper, lower]), ("alpha", ofList [upper, lower]),
    ("ascii", range '\x00' '\x7f'), ("blank", ofList [one '\t', one ' ']),
    ("cntrl", ofList [range '\x00' '\x1f', one '\x7f']), ("digit", digit),
    ("graph", range '!' '~'), ("lower", lower), ("print", range ' ' '~'),
    ("punct", ofList [range '!' '/', range ':' '@', range '[' '\x60', range '\x7b' '~']),
    ("space", ofList [one '\t', one '\n', one '\x0b', one '\x0c', one '\r', one ' ']),
    ("upper", upper), ("word", ofList [digit, upper, one '_', lower]), ("xdigit", hexDigits)]

@[simp] theorem contains_ofChar (ignoreCase : Bool) (a c : Char) :
    (ofChar ignoreCase a).contains c = if ignoreCase then Text.sameFold a c else a == c := by
  cases ignoreCase <;> rfl

end CharSet

end CosmeticRules
