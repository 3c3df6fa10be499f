import CosmeticRules.Pattern.Extended.Syntax
import CosmeticRules.Pattern.Flags
import CosmeticRules.Text.CharacterSet
import CosmeticRules.Text.Digit

/-!
What is known while an extended pattern is read, and the parts of its text that need no more than that:
what is skipped, numbers, repetition marks, and names of groups.
-/

namespace CosmeticRules.Pattern.Extended

open Text

/-- What has been found out about a pattern up to a place in it. -/
structure Reading where
  flags : Flags
  /-- The length of the whole pattern in bytes. -/
  size : Nat
  /-- The number of groups that have been opened. -/
  opened : Nat := 0
  names : List (String × Nat) := []
  /-- The extents of the groups that have been closed. -/
  extents : List (Nat × Extent) := []
  /-- The groups that are referred to. -/
  referred : List Nat := []
  /-- Whether a group is referred to by its number. -/
  numbered : Bool := false
  deriving DecidableEq, Repr, Inhabited

/-- A reference to a group. What is not known of the group yet does not count. -/
def Reading.reference (reading : Reading) (index : Nat) : Extended :=
  .reference index reading.flags.ignoreCase ((reading.extents.lookup index).getD ⟨0, false⟩)

def Reading.refer (reading : Reading) (index : Nat) (byNumber : Bool) : Reading :=
  { reading with
    referred := index :: reading.referred, numbered := reading.numbered || byNumber }

/-- What is being skipped. -/
inductive Skipping
  | nothing
  | line
  | comment
  deriving DecidableEq, Repr, Inhabited

/-- Skips comments in parentheses; in a spaced pattern also blanks and the rest of a line after a number
sign. -/
def skipFrom (spaced : Bool) : Skipping → List Char → Except Error (List Char)
  | .comment, [] => .error .openGroup
  | .comment, '\\' :: _ :: rest => skipFrom spaced .comment rest
  | .comment, c :: rest => skipFrom spaced (if c = ')' then .nothing else .comment) rest
  | .line, [] => .ok []
  | .line, c :: rest => skipFrom spaced (if c = '\n' then .nothing else .line) rest
  | .nothing, '(' :: '?' :: '#' :: rest => skipFrom spaced .comment rest
  | .nothing, [] => .ok []
  | .nothing, c :: rest =>
    if spaced && c == '#' then skipFrom spaced .line rest
    else if spaced && (c == ' ' || c == '\r' || c == '\n' || c == '\t') then
      skipFrom spaced .nothing rest
    else .ok (c :: rest)

def skipIgnored (reading : Reading) (s : List Char) : Except Error (List Char) :=
  skipFrom reading.flags.spaced .nothing s

/-- The number at the start of a text, and what follows it. -/
def decimal? (s : List Char) : Option (Nat × List Char) :=
  let digits := s.takeWhile Char.isDigit
  let value := digitsValue 10 digits
  if digits.isEmpty || value ≥ UInt64.size then none else some (value, s.dropWhile Char.isDigit)

/-- The bounds of a repetition, from after the opening brace on. -/
def countBounds (reading : Reading) (s : List Char) :
    Except Error ((Nat × Option Nat) × List Char) := do
  let s ← skipIgnored reading s
  let (least, s) ←
    match s, decimal? s with
    | ',' :: _, _ => pure (0, s)
    | _, some found => pure found
    | _, none => throw .badCount
  let s ← skipIgnored reading s
  let (most, s) ←
    match s with
    | ',' :: rest => do
      let rest ← skipIgnored reading rest
      match decimal? rest with
      | some (most, rest) => pure (some most, rest)
      | none => pure (none, rest)
    | _ => pure (some least, s)
  match ← skipIgnored reading s with
  | '\x7d' :: rest => return ((least, most), rest)
  | _ => throw .badCount

/-- The bounds of the repetition mark at the start of a text, if there is one. A brace that opens no
valid bounds is no mark. -/
def repetition? (reading : Reading) : List Char → Option ((Nat × Option Nat) × List Char)
  | '?' :: rest => some ((0, some 1), rest)
  | '*' :: rest => some ((0, none), rest)
  | '+' :: rest => some ((1, none), rest)
  | '\x7b' :: rest => (countBounds reading rest).toOption
  | _ => none

def isNameChar (c : Char) : Bool := isAlphanumeric c || c == '_'

/-- A group name up to its closing mark. -/
def groupName (closing : Char) (s : List Char) : Except Error (List Char × List Char) :=
  let name := s.takeWhile isNameChar
  match name, s.dropWhile isNameChar with
  | _ :: _, c :: rest => if c = closing then .ok (name, rest) else .error .badName
  | _, _ => .error .badName

/-- The group that is so many groups back from here or ahead. One back is the group opened last. -/
def relativeGroup? (reading : Reading) (back : Bool) (distance : Nat) : Option Nat :=
  if !back || distance = 0 then some (reading.opened + distance)
  else if distance ≤ reading.opened + 1 then some (reading.opened + 1 - distance)
  else none

/-- A group that is referred to by its name, which has to be known already, by its number, or by its
distance from here with a sign. -/
def groupId (reading : Reading) (signed : Bool) (closing : Char) (s : List Char) :
    Except Error (Nat × List Char) :=
  let (back, distance, rest) : Bool × List Char × List Char :=
    match s with
    | '-' :: rest => (true, rest.takeWhile Char.isDigit, rest.dropWhile Char.isDigit)
    | '+' :: rest => (false, rest.takeWhile Char.isDigit, rest.dropWhile Char.isDigit)
    | rest => (false, [], rest)
  if signed && !distance.isEmpty then
    match relativeGroup? reading back (digitsValue 10 distance), rest with
    | some index, c :: rest => if c = closing then .ok (index, rest) else .error .badName
    | _, _ => .error .badName
  else do
    let (name, rest) ← groupName closing s
    match reading.names.lookup (String.ofList name) with
    | some index => return (index, rest)
    | none => if name.all Char.isDigit then return (digitsValue 10 name, rest) else throw .badName

/-- A group number. One that is half the length of the pattern or more cannot be meant. -/
def groupNumber (reading : Reading) (s : List Char) : Except Error (Nat × List Char) :=
  match decimal? s with
  | some (index, rest) => if index < reading.size / 2 then .ok (index, rest) else .error .badReference
  | none => .error .badReference

end CosmeticRules.Pattern.Extended
