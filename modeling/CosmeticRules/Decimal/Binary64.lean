/-!
Double-precision numbers as exact rationals: decoding into an integer times a power of two, the double
nearest to a quotient, and the shortest decimal that reads back as the same double.
-/

namespace CosmeticRules.Binary64

/-- A non-negative finite double as `significand * 2 ^ exponent`. -/
structure Parts where
  significand : Nat
  exponent : Int
  deriving DecidableEq, Repr, Inhabited

def isNegative (x : Float) : Bool := x.toBits.toNat >>> 63 == 1

/-- The leading bit of the significand of a normal double, which is not stored. -/
def leadingBit : Nat := 1 <<< 52

/-- The absolute value of a finite double. -/
def decode (x : Float) : Parts :=
  let bits : Nat := x.toBits.toNat
  let fraction : Nat := bits % leadingBit
  let biased : Nat := bits / leadingBit % 2048
  if biased = 0 then ⟨fraction, -1074⟩ else ⟨leadingBit + fraction, (biased : Int) - 1075⟩

/-- The quotient rounded to the nearest integer, a tie to the even one. -/
def roundQuotient (numerator denominator : Nat) : Nat :=
  let quotient := numerator / denominator
  let twice := 2 * (numerator % denominator)
  if twice > denominator ∨ (twice = denominator ∧ quotient % 2 = 1) then quotient + 1 else quotient

/-- Numerator and denominator of `n / d * 2 ^ (-shift)`. -/
def scaleDown (n d : Nat) (shift : Int) : Nat × Nat :=
  if shift ≥ 0 then (n, d <<< shift.toNat) else (n <<< (-shift).toNat, d)

/-- The exponent of the leading binary digit of a positive quotient. -/
def leadingExponent (n d : Nat) : Int :=
  let guess : Int := (n.log2 : Int) - d.log2
  let (scaled, unit) := scaleDown n d guess
  if scaled < unit then guess - 1 else guess

/-- The bits of the double nearest to a quotient, a tie to the even neighbour; quotients beyond the
largest double give infinity. -/
def bitsOfQuotient (n d : Nat) : Nat :=
  if n = 0 then 0
  else
    let exponent := max (-1074) (leadingExponent n d - 52)
    let (scaled, unit) := scaleDown n d exponent
    min ((exponent + 1074).toNat * leadingBit + roundQuotient scaled unit) (2047 * leadingBit)

/-- The double nearest to a quotient. -/
def ofQuotient (n d : Nat) : Float := Float.ofBits (UInt64.ofNat (bitsOfQuotient n d))

/-- The double nearest to an integer. -/
def ofInt (i : Int) : Float := if i < 0 then -ofQuotient i.natAbs 1 else ofQuotient i.natAbs 1

/-- The double nearest to `mantissa * 10 ^ exponent`. -/
def ofDecimal (mantissa : Nat) (exponent : Int) : Float :=
  let magnitude : Int := (Nat.toDigits 10 mantissa).length + exponent
  if mantissa = 0 ∨ magnitude < -400 then ofQuotient 0 1
  else if magnitude > 400 then ofQuotient (Nat.pow 10 400) 1
  else if exponent ≥ 0 then ofQuotient (mantissa * Nat.pow 10 exponent.toNat) 1
  else ofQuotient mantissa (Nat.pow 10 (-exponent).toNat)

/-- Four times a double and the ends of the interval of reals that round to it, in one unit. -/
structure Interval where
  low : Nat
  value : Nat
  high : Nat
  /-- Whether the ends themselves round to the double. -/
  closed : Bool

def Interval.contains (interval : Interval) (point : Nat) : Bool :=
  if interval.closed then interval.low ≤ point && point ≤ interval.high
  else interval.low < point && point < interval.high

/-- The multiple of `step` inside the interval that is nearest to the value, the upper one in case of
a tie, counted in steps. -/
def Interval.multiple? (interval : Interval) (step : Nat) : Option Nat :=
  let below := interval.value / step
  let above := below + 1
  match interval.contains (below * step), interval.contains (above * step) with
  | true, true =>
    some (if interval.value - below * step < above * step - interval.value then below else above)
  | true, false => some below
  | false, true => some above
  | false, false => none

/-- The interval of a double and the number of its units in one. -/
def intervalOf (parts : Parts) : Interval × Nat :=
  let m := parts.significand
  let unit := if parts.exponent ≥ 2 then 1 <<< (parts.exponent - 2).toNat else 1
  let denominator := if parts.exponent ≥ 2 then 1 else 1 <<< (2 - parts.exponent).toNat
  let below := if m = leadingBit ∧ parts.exponent > -1074 then 1 else 2
  (⟨(4 * m - below) * unit, 4 * m * unit, (4 * m + 2) * unit, m % 2 = 0⟩, denominator)

def Interval.scale (interval : Interval) (factor : Nat) : Interval :=
  ⟨interval.low * factor, interval.value * factor, interval.high * factor, interval.closed⟩

/-- The multiple of a power of ten that reads back, in an interval whose unit is one over the
denominator. -/
def Interval.decimal? (interval : Interval) (denominator : Nat) (exponent : Int) : Option Nat :=
  if exponent ≥ 0 then interval.multiple? (denominator * Nat.pow 10 exponent.toNat)
  else (interval.scale (Nat.pow 10 (-exponent).toNat)).multiple? denominator

/-- Tries powers of ten downwards until a multiple of one reads back. -/
def shortestFrom (interval : Interval) (denominator : Nat) : Nat → Int → Nat × Int
  | 0, exponent => (0, exponent)
  | tries + 1, exponent =>
    match interval.decimal? denominator exponent with
    | some digits => (digits, exponent)
    | none => shortestFrom interval denominator tries (exponent - 1)

/-- The decimal with the fewest digits that reads back as the double, as digits and a power of ten. Of
two the nearer one is taken. -/
def shortest (x : Float) : Nat × Int :=
  let parts := decode x
  if parts.significand = 0 then (0, 0)
  else
    let (interval, denominator) := intervalOf parts
    let start := ((parts.significand.log2 + parts.exponent + 1) * 30103) / 100000 + 1
    shortestFrom interval denominator 30 start

/-- A double without fractional part, in full. -/
def wholeDigits (x : Float) : Nat :=
  let parts := decode x
  if parts.exponent ≥ 0 then parts.significand <<< parts.exponent.toNat
  else parts.significand >>> (-parts.exponent).toNat

/-- Whether a finite double has no fractional part. -/
def isWhole (x : Float) : Bool :=
  let parts := decode x
  parts.exponent ≥ 0 || parts.significand % (1 <<< (-parts.exponent).toNat) == 0

end CosmeticRules.Binary64
