import CosmeticRules.Pattern.Flags
import CosmeticRules.Pattern.Plain.CharClass
import CosmeticRules.Pattern.Plain.Size

/-!
Reading plain patterns. A group gives no more than its pattern, because nothing refers to it. Flags that are
switched inside a group hold until its end.
-/

namespace CosmeticRules.Pattern.Plain

open Text

abbrev PlainReader := Flags → List Char → Except Error (Plain × List Char)

/-- A part of a pattern, or new flags for what follows. -/
inductive Piece
  | part (p : Plain)
  | switch (flags : Flags)
  deriving DecidableEq, Repr, Inhabited

/-- A repetition count with blanks around it. -/
def count (s : List Char) : Except Error (Nat × List Char) :=
  let s := trimStart s
  let digits := s.takeWhile Char.isDigit
  let value := digitsValue 10 digits
  if digits.isEmpty || UInt32.size ≤ value then .error .badCount
  else .ok (value, trimStart (s.dropWhile Char.isDigit))

/-- The bounds of a repetition, from after the opening brace on. -/
def countBounds (s : List Char) : Except Error ((Nat × Option Nat) × List Char) := do
  let (least, s) ← count s
  match s with
  | '\x7d' :: rest => return ((least, some least), rest)
  | ',' :: '\x7d' :: rest => return ((least, none), rest)
  | ',' :: rest =>
    match ← count rest with
    | (most, '\x7d' :: rest) => if most < least then throw .badCount else return ((least, some most), rest)
    | _ => throw .badCount
  | _ => throw .badCount

/-- The bounds of the repetition mark at the start of a text, if there is one. -/
def repetition? : List Char → Except Error (Option ((Nat × Option Nat) × List Char))
  | '?' :: rest => .ok (some ((0, some 1), rest))
  | '*' :: rest => .ok (some ((0, none), rest))
  | '+' :: rest => .ok (some ((1, none), rest))
  | '\x7b' :: rest => (countBounds rest).map some
  | _ => .ok none

/-- Applies the repetition marks at the start of a text to a pattern, at most so many of them. A question
mark after a mark makes the repetition lazy. -/
def repeatedBy (flags : Flags) : Nat → Plain → List Char → Except Error (Plain × List Char)
  | 0, p, s => .ok (p, s)
  | marks + 1, p, s => do
    match ← repetition? s with
    | none => return (p, s)
    | some ((least, most), '?' :: rest) =>
      repeatedBy flags marks (p.times least most flags.lazy) rest
    | some ((least, most), rest) =>
      repeatedBy flags marks (p.times least most (!flags.lazy)) rest

/-- Switches flags on, and after a hyphen off, up to a closing parenthesis or a colon. No letter may come
twice. -/
def switchFlags (flags : Flags) (seen : List Char) (on : Bool) :
    List Char → Except Error (Flags × Char × List Char)
  | [] => .error .openGroup
  | c :: rest =>
    if c = ':' then if seen.head? = some '-' then .error .badFlag else .ok (flags, c, rest)
    else if c = ')' then
      if seen.head? = some '-' || seen.isEmpty then .error .badFlag else .ok (flags, c, rest)
    else if seen.contains c || c = 'x' then .error .badFlag
    else if c = '-' then switchFlags flags (c :: seen) false rest
    else
      match flags.set? on c with
      | some flags => switchFlags flags (c :: seen) on rest
      | none => .error .badFlag

/-- The inside of a group and its closing parenthesis. -/
def inGroup (nested : PlainReader) (flags : Flags) (s : List Char) : Except Error (Piece × List Char) := do
  match ← nested flags s with
  | (p, ')' :: rest) => return (.part p, rest)
  | _ => throw .openGroup

/-- A group from after its opening parenthesis on. -/
def groupFrom (nested : PlainReader) (flags : Flags) : List Char → Except Error (Piece × List Char)
  | '?' :: rest => do
    match ← switchFlags flags [] true rest with
    | (flags, ':', rest) => inGroup nested flags rest
    | (flags, _, rest) => return (.switch flags, rest)
  | rest => inGroup nested flags rest

/-- Any character, or any but a line feed. -/
def anyChar (flags : Flags) : CharSet := if flags.dotAll then .all else .complement (.one '\n')

/-- A piece without a repetition mark. -/
def atom (nested : PlainReader) (flags : Flags) : List Char → Except Error (Piece × List Char)
  | '(' :: rest => groupFrom nested flags rest
  | '[' :: rest => do
    let (set, rest) ← charClass flags.ignoreCase rest
    return (.part (.char set), rest)
  | '\\' :: rest => do
    match ← escape flags.ignoreCase rest with
    | (.char c, rest) => return (.part (.char (.ofChar flags.ignoreCase c)), rest)
    | (.set set, rest) => return (.part (.char set), rest)
  | '.' :: rest => .ok (.part (.char (anyChar flags)), rest)
  | '^' :: rest => .ok (.part (.anchor (if flags.multiLine then .lineStart else .textStart)), rest)
  | '$' :: rest => .ok (.part (.anchor (if flags.multiLine then .lineEnd else .textEnd)), rest)
  | c :: rest =>
    if c == '?' || c == '*' || c == '+' || c == '\x7b' then .error .notRepeatable
    else .ok (.part (.char (.ofChar flags.ignoreCase c)), rest)
  | [] => .error .openGroup

/-- Pieces up to a bar, a closing parenthesis or the end, and the flags after them. The count bounds their
number and that of their repetition marks. -/
def piecesFrom (nested : PlainReader) :
    Nat → Flags → List Char → Except Error (List Plain × Flags × List Char)
  | 0, flags, s => .ok ([], flags, s)
  | pieces + 1, flags, s =>
    if s.isEmpty || s.head? == some '|' || s.head? == some ')' then .ok ([], flags, s)
    else do
      match ← atom nested flags s with
      | (.switch flags, rest) => piecesFrom nested pieces flags rest
      | (.part p, rest) =>
        let (p, rest) ← repeatedBy flags pieces p rest
        let (more, flags, rest) ← piecesFrom nested pieces flags rest
        return (p :: more, flags, rest)

/-- The alternatives after a first one, each after a bar. The count bounds their number and that of the
pieces in each. -/
def branchesFrom (nested : PlainReader) :
    Nat → Flags → List Char → Except Error (List Plain × List Char)
  | branches + 1, flags, '|' :: rest => do
    let (pieces, flags, rest) ← piecesFrom nested branches flags rest
    let (more, rest) ← branchesFrom nested branches flags rest
    return (.ofSequence pieces :: more, rest)
  | _, _, s => .ok ([], s)

/-- One pattern, or several to choose from. The bound is at least the length of the text. -/
def alternatives (nested : PlainReader) (bound : Nat) : PlainReader := fun flags s => do
  let (pieces, flags, rest) ← piecesFrom nested bound flags s
  let (more, rest) ← branchesFrom nested bound flags rest
  return (.ofAlternatives (.ofSequence pieces) more, rest)

/-- Reads a pattern in which groups are nested less deeply than so many levels. The text is no longer than
the number of levels that are left: each level takes a parenthesis. -/
def readNested : Nat → PlainReader
  | 0 => fun _ _ => .error .tooDeep
  | depth + 1 => alternatives (readNested depth) depth

/-- Reads a pattern with the flags that hold at its start. -/
def read (flags : Flags) (s : List Char) : Except Error Plain := do
  match ← readNested (s.length + 1) flags s with
  | (p, []) => if sizeLimit < p.size then throw .tooLarge else return p
  | _ => throw .strayClosing

end CosmeticRules.Pattern.Plain
