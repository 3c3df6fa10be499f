import CosmeticRules.Css.Syntax
import CosmeticRules.Decimal.Numeral
import CosmeticRules.Text.Blank
import CosmeticRules.Text.Case

/-!
The argument of the counting pseudo-classes: `odd`, `even`, a number, or a number of the form
`an + b`.
-/

namespace CosmeticRules.Css

/-- Reads an integer with an optional sign that fits into 64 bits. -/
def integer? (s : List Char) : Option Int64 :=
  let (negative, digits) :=
    match s with
    | '-' :: digits => (true, digits)
    | '+' :: digits => (false, digits)
    | digits => (false, digits)
  if digits.isEmpty || !digits.all Char.isDigit then none
  else
    let i : Int := if negative then -(Decimal.ofDigits digits : Int) else Decimal.ofDigits digits
    if Int64.minValue.toInt ≤ i ∧ i ≤ Int64.maxValue.toInt then some (Int64.ofInt i) else none

namespace Nth

/-- Reads the factor before the `n`. -/
def factor? (s : List Char) : Option Int64 :=
  if s = [] ∨ s = ['+'] then some 1 else if s = ['-'] then some (-1) else integer? s

/-- Reads the summand after the `n`, which starts with its sign. -/
def summand? : List Char → Option Int64
  | [] => some 0
  | sign :: digits =>
    if digits.head? = some '+' ∨ digits.head? = some '-' then none
    else if sign = '+' then integer? digits
    else if sign = '-' then (integer? digits).map (- ·)
    else none

def linear? (before after : List Char) : Option Nth :=
  if after.contains 'n' then none
  else do return linear (← factor? before) (← summand? after)

/-- Reads a single position. One that is not positive selects nothing. -/
def position? (s : List Char) : Option Nth :=
  let unsigned := match s with
    | '+' :: rest => rest
    | rest => rest
  (integer? unsigned).map fun i => if i ≤ 0 then linear 0 i else exact i.toInt.toNat

/-- Reads the argument of a counting pseudo-class. Blanks and case do not count. -/
def read? (s : List Char) : Option Nth :=
  let compact := Text.asciiLower (s.filter (!Text.isAsciiBlank ·))
  if compact = [] then none
  else if compact = ['o', 'd', 'd'] then some odd
  else if compact = ['e', 'v', 'e', 'n'] then some even
  else
    match Text.splitFirst? 'n' compact with
    | some (before, after) => linear? before after
    | none => position? compact

/-- Whether a position, counted from one, is selected. -/
def selects (formula : Nth) (position : Nat) : Bool :=
  match formula with
  | exact n => position == n
  | odd => position % 2 == 1
  | even => position % 2 == 0
  | linear a b =>
    let p := Int64.ofNat position
    if a == 0 then p == b else (p - b) % a == 0 && (p - b) / a ≥ 0

end Nth

end CosmeticRules.Css
