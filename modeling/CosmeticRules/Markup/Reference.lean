import CosmeticRules.Text.Digit
import CosmeticRules.Text.Search

/-!
Character references in markup, such as `&amp;` and `&#65;`. A reference that is not known stands for
itself, and the semicolon after a known one may be missing.
-/

namespace CosmeticRules.Markup

open Text

/-- The named characters. -/
def namedCharacters : List (String × Char) :=
  [("amp", '&'), ("lt", '<'), ("gt", '>'), ("quot", '"'), ("apos", '\''), ("nbsp", '\u00a0'),
    ("copy", '©'), ("reg", '®'), ("trade", '™'), ("euro", '€'), ("laquo", '«'), ("raquo", '»'),
    ("ldquo", '“'), ("rdquo", '”'), ("lsquo", '‘'), ("rsquo", '’'), ("hellip", '…'),
    ("middot", '·'), ("mdash", '—'), ("ndash", '–')]

def namedCharacter? (name : List Char) : Option Char :=
  (namedCharacters.find? (·.1.toList == name)).map (·.2)

/-- The number that non-empty digits write in a base. -/
def number? (isDigit : Char → Bool) (base : Nat) (digits : List Char) : Option Nat :=
  if digits.isEmpty || !digits.all isDigit then none
  else some (digitsValue base digits)

/-- The character of a numeric reference, without its number sign. -/
def numericCharacter? : List Char → Option Char
  | 'x' :: digits => number? isHexDigit 16 digits >>= scalar?
  | 'X' :: digits => number? isHexDigit 16 digits >>= scalar?
  | digits => number? Char.isDigit 10 digits >>= scalar?

def character? : List Char → Option Char
  | '#' :: digits => numericCharacter? digits
  | name => namedCharacter? name

def isReferenceChar (c : Char) : Bool := c.isAlphanum || c == '#'

/-- Decodes the references of a text; the count says how many characters of the reference at hand are
still to be dropped. -/
def decodeFrom : Nat → List Char → List Char
  | _, [] => []
  | pending + 1, _ :: rest => decodeFrom pending rest
  | 0, c :: rest =>
    if c = '&' then
      let name := rest.takeWhile isReferenceChar
      match character? name with
      | some decoded =>
        let semicolon := if (rest.drop name.length).head? == some ';' then 1 else 0
        decoded :: decodeFrom (name.length + semicolon) rest
      | none => '&' :: decodeFrom 0 rest
    else c :: decodeFrom 0 rest

/-- The text that a piece of markup with references stands for. -/
def decode (s : List Char) : List Char := decodeFrom 0 s

end CosmeticRules.Markup
