/-!
Digits of decimal and hexadecimal numbers, and the numbers that they write.
-/

namespace CosmeticRules.Text

/-- The value of a digit; letters in either case go on after nine. -/
def digitValue (c : Char) : Nat :=
  if c.isDigit then c.toNat - '0'.toNat else c.toLower.toNat - 'a'.toNat + 10

def isHexDigit (c : Char) : Bool := c.isDigit || ('a' ≤ c.toLower && c.toLower ≤ 'f')

/-- The number that digits write in a base. -/
def digitsValue (base : Nat) (digits : List Char) : Nat :=
  digits.foldl (fun value c => base * value + digitValue c) 0

theorem digitsValue_concat (base : Nat) (digits : List Char) (c : Char) :
    digitsValue base (digits ++ [c]) = base * digitsValue base digits + digitValue c := by
  simp [digitsValue]

/-- The character with the given code point, if there is one. -/
def scalar? (point : Nat) : Option Char :=
  if valid : point.isValidChar then some (Char.ofNatAux point valid) else none

end CosmeticRules.Text
