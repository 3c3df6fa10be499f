import CosmeticRules.Decimal.Binary64

/-!
Decimal numerals: reading them exactly, and the texts in which doubles are written.
-/

namespace CosmeticRules

/-- The number `mantissa * 10 ^ exponent`. -/
structure Decimal where
  mantissa : Nat
  exponent : Int
  deriving DecidableEq, Repr, Inhabited

namespace Decimal

def toFloat (d : Decimal) : Float := Binary64.ofDecimal d.mantissa d.exponent

/-- Appends a decimal digit to a number. -/
def pushDigit (n : Nat) (digit : Char) : Nat := 10 * n + (digit.toNat - '0'.toNat)

def ofDigits (digits : List Char) : Nat := digits.foldl pushDigit 0

/-- The exponent part of a numeral, with its sign; nothing at all is the exponent zero. -/
def exponent? : List Char → Option Int
  | [] => some 0
  | e :: rest =>
    if e = 'e' ∨ e = 'E' then
      let (negative, digits) :=
        match rest with
        | '-' :: digits => (true, digits)
        | '+' :: digits => (false, digits)
        | digits => (false, digits)
      if digits.isEmpty || !digits.all Char.isDigit then none
      else some (if negative then -(ofDigits digits : Int) else ofDigits digits)
    else none

/-- Reads an unsigned numeral: digits with at most one point among or around them, and an
exponent. -/
def read? (s : List Char) : Option Decimal :=
  let whole := s.takeWhile Char.isDigit
  let (fraction, rest) :=
    match s.dropWhile Char.isDigit with
    | '.' :: rest => (rest.takeWhile Char.isDigit, rest.dropWhile Char.isDigit)
    | rest => ([], rest)
  if whole.isEmpty && fraction.isEmpty then none
  else (exponent? rest).map fun exponent =>
    ⟨ofDigits (whole ++ fraction), exponent - fraction.length⟩

end Decimal

namespace Binary64

/-- Reads a numeral with an optional sign, or one of the words for infinity and not-a-number in any
case. -/
def read? (s : List Char) : Option Float :=
  let (negative, unsigned) :=
    match s with
    | '-' :: rest => (true, rest)
    | '+' :: rest => (false, rest)
    | rest => (false, rest)
  let word := String.ofList (unsigned.map Char.toLower)
  let magnitude :=
    if word == "inf" || word == "infinity" then some (ofBitsOf (2047 * leadingBit))
    else if word == "nan" then some (ofBitsOf (2047 * leadingBit + leadingBit / 2))
    else (Decimal.read? unsigned).map Decimal.toFloat
  magnitude.map fun x => if negative then -x else x
where
  ofBitsOf (bits : Nat) : Float := Float.ofBits (UInt64.ofNat bits)

/-- A decimal without exponent: digits, then zeros or a point. -/
def positional (digits : Nat) (exponent : Int) : List Char :=
  let written := Nat.toDigits 10 digits
  if exponent ≥ 0 then
    if digits = 0 then written else written ++ List.replicate exponent.toNat '0'
  else
    let places := (-exponent).toNat
    let padded := List.replicate (places + 1 - written.length) '0' ++ written
    padded.take (padded.length - places) ++ '.' :: padded.drop (padded.length - places)

/-- A decimal with exactly one digit before the point and an exponent. -/
def scientific (digits : Nat) (exponent : Int) : List Char :=
  match Nat.toDigits 10 digits with
  | [] => []
  | first :: rest =>
    let point := if rest.isEmpty then [] else '.' :: rest
    let power := exponent + rest.length
    first :: point ++ 'e' :: (toString power).toList

def signed (x : Float) (magnitude : List Char) : List Char :=
  if isNegative x then '-' :: magnitude else magnitude

/-- The shortest text that reads back, without exponent. -/
def plainText (x : Float) : List Char :=
  if x.isNaN then ['N', 'a', 'N']
  else if x.isInf then signed x ['i', 'n', 'f']
  else
    let (digits, exponent) := shortest x
    signed x (positional digits exponent)

/-- All digits of a double without fractional part. -/
def wholeText (x : Float) : List Char := signed x (Nat.toDigits 10 (wholeDigits x))

/-- The shortest text that reads back and shows that the number is a fraction: at least one decimal
place, or an exponent from 10^16 on and below 10^-4. -/
def preciseText (x : Float) : List Char :=
  if x.isNaN then ['N', 'a', 'N']
  else if x.isInf then signed x ['i', 'n', 'f']
  else
    let (digits, exponent) := shortest x
    let power : Int := exponent + (Nat.toDigits 10 digits).length
    if digits ≠ 0 ∧ (power > 16 ∨ power < -3) then signed x (scientific digits exponent)
    else if exponent ≥ 0 then signed x (positional digits exponent ++ ['.', '0'])
    else signed x (positional digits exponent)

end Binary64

end CosmeticRules
