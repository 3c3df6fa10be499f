import CosmeticRules.Matching.Argument
import CosmeticRules.Value

/-!
Comparing the reflected properties of an element: the number that a text denotes, the text of a value,
and the values at the end of a chain of names.
-/

namespace CosmeticRules.Matching

open Text

/-- Reads digits of a base, at least one; the value has to fit into 64 bits. A plus sign may stand before
them. -/
def ofBase? (base : Nat) (s : List Char) : Option Float :=
  let digits :=
    match s with
    | '+' :: rest => rest
    | rest => rest
  let isDigit (c : Char) := isHexDigit c && digitValue c < base
  let value := digitsValue base digits
  if digits.isEmpty || !digits.all isDigit || value ≥ UInt64.size then none
  else some (Binary64.ofInt value)

def isNumeralChar (c : Char) : Bool :=
  c.isDigit || c == '.' || c == 'e' || c == 'E' || c == '+' || c == '-'

/-- The numeral after the sign of a number, if there was one. -/
def unsigned? (s : List Char) : Option Float :=
  if s == "Infinity".toList then some (1 / 0)
  else if s.all isNumeralChar && s.any Char.isDigit then Binary64.read? s
  else none

/-- The number that a text denotes, in decimal or after a prefix in another base. A blank text is zero. -/
def number? (text : List Char) : Option Float :=
  match trim text with
  | [] => some 0
  | '-' :: rest => (unsigned? rest).map fun x => -1 * x
  | '+' :: rest => unsigned? rest
  | '0' :: 'x' :: c :: rest => ofBase? 16 (c :: rest)
  | '0' :: 'X' :: c :: rest => ofBase? 16 (c :: rest)
  | '0' :: 'o' :: c :: rest => ofBase? 8 (c :: rest)
  | '0' :: 'O' :: c :: rest => ofBase? 8 (c :: rest)
  | '0' :: 'b' :: c :: rest => ofBase? 2 (c :: rest)
  | '0' :: 'B' :: c :: rest => ofBase? 2 (c :: rest)
  | rest => unsigned? rest

/-- The text of a double: whole numbers below 10^21 in full, and a word for infinity. -/
def doubleText (x : Float) : List Char :=
  if x.isInf then (if x > 0 then "Infinity".toList else "-Infinity".toList)
  else if !x.isNaN && Binary64.isWhole x && x.abs < 1e21 then Binary64.wholeText x
  else Binary64.plainText x

/-- Whether an integer is kept exactly; greater ones count as doubles. -/
def isExact (i : Int) : Bool := Int64.minValue.toInt ≤ i && i ≤ Int64.maxValue.toInt

mutual

/-- A value as text: lists with commas between their items, and one word for every record. -/
def textOf : Value → List Char
  | .null => "null".toList
  | .bool b => if b then "true".toList else "false".toList
  | .int i => if isExact i then (toString i).toList else doubleText (Binary64.ofInt i)
  | .real x => doubleText x
  | .text s => s.toList
  | .list items => joinWith [','] (itemTexts items)
  | .record _ => "[object Object]".toList

/-- The texts of the items of a list; null is left out there. -/
def itemTexts : List Value → List (List Char)
  | [] => []
  | .null :: rest => [] :: itemTexts rest
  | item :: rest => textOf item :: itemTexts rest

end

def toNumber? : Value → Option Float
  | .int i => some (Binary64.ofInt i)
  | .real x => some x
  | _ => none

/-- Whether a value is what a plain text denotes: a number, a word for a constant, or the text itself. -/
def isDenotedBy (literal : List Char) (value : Value) : Bool :=
  match number? literal with
  | some x => (toNumber? value).any (· == x)
  | none =>
    match value with
    | .null => literal == "null".toList
    | .bool b => literal == (if b then "true".toList else "false".toList)
    | .text s =>
      literal == s.toList && !(["undefined", "null", "true", "false"].contains s)
    | _ => false

/-- The names and values that can be listed of a value. -/
def entries : Value → List (List Char × Value)
  | .record fields => fields.map fun (key, value) => (key.toList, value)
  | .list items => items.zipIdx.map fun (item, index) => ((toString index).toList, item)
  | _ => []

/-- The number of 16-bit units of a text. -/
def unitCount (s : String) : Nat := s.toList.foldl (fun n c => n + if c.toNat < 0x10000 then 1 else 2) 0

def index? (s : List Char) : Option Nat :=
  if s.isEmpty || !s.all Char.isDigit then none else some (Decimal.ofDigits s)

/-- The value that a name leads to. -/
def property? (base : Value) (name : List Char) : Option Value :=
  match base with
  | .record fields => (fields.find? fun (key, _) => key.toList == name).map (·.2)
  | .list items =>
    if name == "length".toList then some (.int items.length) else (index? name).bind (items[·]?)
  | .text s => if name == "length".toList then some (.int (unitCount s)) else none
  | _ => none

/-- The values at the ends of the ways that a chain of names leads along. The last name and every pattern
are looked up among what can be listed. -/
def reached : List Matcher → Value → Except MatchError (List Value)
  | [], _ => .ok []
  | [last], base => do
    return (← (entries base).filterM fun (key, _) => last.accepts key).map (·.2)
  | .literal name :: rest, base =>
    match property? base name with
    | some value => reached rest value
    | none => .ok []
  | .pattern p :: rest, base => do
    let found ← (entries base).mapM fun (key, value) => do
      if ← Matcher.accepts (.pattern p) key then reached rest value else return []
    return found.flatten

/-- Whether a matcher accepts a value: a pattern its text, and a plain text what it denotes. -/
def Matcher.acceptsValue (m : Matcher) (value : Value) : Except MatchError Bool :=
  match m with
  | .pattern _ => m.accepts (textOf value)
  | .literal name => .ok (isDenotedBy name value)

/-- Whether one of the values is accepted. For a plain text, the first value that is the name of a missing
value decides. -/
def anyAccepted (m : Matcher) : List Value → Except MatchError Bool
  | [] => .ok false
  | value :: rest => do
    match m, value with
    | .literal name, .text s =>
      if s == "null" || s == "undefined" then return name == s.toList
    | _, _ => pure ()
    if ← m.acceptsValue value then return true else anyAccepted m rest

end CosmeticRules.Matching
