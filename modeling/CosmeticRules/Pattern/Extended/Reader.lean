import CosmeticRules.Pattern.Extended.Escape

/-!
Reading extended patterns. What stands in parentheses is read one level of nesting deeper, and the number of
levels is limited.
-/

namespace CosmeticRules.Pattern.Extended

abbrev ExtendedReader (α : Type) := Reading → List Char → Except Error (α × Reading × List Char)

def nextGroup (reading : Reading) : Reading := { reading with opened := reading.opened + 1 }

/-- Switches flags on, and after a hyphen off, up to a closing parenthesis or a colon, which is the
second part of the result. A hyphen has to come before a letter. -/
def switchFlags (reading : Reading) (on given dangling : Bool) :
    Nat → List Char → Except Error (Reading × Char × List Char)
  | 0, _ => .error .openGroup
  | count + 1, s => do
    let isDangling (rest : List Char) := dangling && rest.length + 1 == s.length
    match ← skipIgnored reading s with
    | [] => throw .openGroup
    | ')' :: rest =>
      if isDangling rest || (!given && rest.length + 1 == s.length) then throw .badFlag
      else return (reading, ')', rest)
    | ':' :: rest =>
      if isDangling rest then throw .badFlag else return (reading, ':', rest)
    | '-' :: rest =>
      if on then switchFlags reading false true true count rest else throw .badFlag
    | c :: rest =>
      match reading.flags.set? on c with
      | some flags => switchFlags { reading with flags } on true false count rest
      | none => throw .badFlag

/-- Takes the closing parenthesis of a group. -/
def closeGroup (p : Extended) : ExtendedReader Extended := fun reading s => do
  match ← skipIgnored reading s with
  | ')' :: rest => return (p, reading, rest)
  | _ => throw .openGroup

/-- The inside of a group and its closing parenthesis. -/
def inGroup (nested : ExtendedReader Extended) (close : Extended → Extended) :
    ExtendedReader Extended := fun reading s => do
  let (p, reading, rest) ← nested reading s
  closeGroup (close p) reading rest

/-- A group with a number, and perhaps with a name. -/
def numberedGroup (nested : ExtendedReader Extended) : ExtendedReader Extended := fun reading s => do
  let index := reading.opened + 1
  let (p, reading, rest) ← nested (nextGroup reading) s
  let reading := { reading with extents := (index, p.extent) :: reading.extents }
  closeGroup (.group index p) reading rest

def namedGroup (nested : ExtendedReader Extended) (closing : Char) : ExtendedReader Extended :=
  fun reading s => do
    let (name, rest) ← groupName closing s
    let names := (String.ofList name, reading.opened + 1) :: reading.names
    numberedGroup nested { reading with names } rest

/-- Flags for the rest of the pattern, or flags and a colon before the pattern they are for. -/
def flagGroup (nested : ExtendedReader Extended) : ExtendedReader Extended := fun reading s => do
  let (switched, mark, rest) ← switchFlags reading true false false (s.length + 1) s
  if mark = ')' then return (.empty, switched, rest)
  else
    let (p, after, rest) ← nested switched rest
    match rest with
    | ')' :: rest => return (p, { after with flags := reading.flags }, rest)
    | _ => throw .openGroup

/-- The condition at the start of a conditional: a reference to a group by its number or name, which holds if
the group has matched, or a pattern. The second part of the result is whether it is a reference. -/
def condition (nested : ExtendedReader Extended) : ExtendedReader (Extended × Bool) := fun reading s => do
  match s with
  | [] => throw .openGroup
  | '<' :: rest =>
    let (index, rest) ← groupId reading true '>' rest
    return ((.isMatched index, true), reading.refer index false, rest)
  | '\'' :: rest =>
    let (index, rest) ← groupId reading true '\'' rest
    return ((.isMatched index, true), reading.refer index false, rest)
  | c :: _ =>
    if c.isDigit then
      let (index, rest) ← groupNumber reading s
      return ((.isMatched index, true), reading.refer index true, rest)
    else
      match ← nested reading s with
      | (.reference index _ _, after) => return ((.isMatched index, true), after)
      | (p, after) => return ((p, false), after)

/-- The two sides of a conditional. Without a bar there is nothing for the case that the condition fails. -/
def sides : Extended → Extended × Extended
  | .either [yes, no] => (yes, no)
  | .either (yes :: rest) => (yes, .either rest)
  | p => (p, .empty)

/-- A conditional from after its second opening parenthesis on. A reference alone is a condition, too. -/
def conditionalFrom (nested : ExtendedReader Extended) : ExtendedReader Extended := fun reading s => do
  let ((test, isReference), reading, rest) ← condition nested reading s
  let (test, reading, s) ← closeGroup test reading rest
  let (p, reading, rest) ← nested reading s
  if rest.length = s.length then
    if isReference then closeGroup test reading rest else throw .badCondition
  else
    let (yes, no) := sides p
    closeGroup (if yes.isEmpty && no.isEmpty then test else .conditional test yes no) reading rest

/-- A group from after its opening parenthesis on. -/
def groupFrom (nested : ExtendedReader Extended) : ExtendedReader Extended := fun reading s => do
  match ← skipIgnored reading s with
  | '?' :: '=' :: rest => inGroup nested (.look false false) reading rest
  | '?' :: '!' :: rest => inGroup nested (.look false true) reading rest
  | '?' :: '<' :: '=' :: rest => inGroup nested (.look true false) reading rest
  | '?' :: '<' :: '!' :: rest => inGroup nested (.look true true) reading rest
  | '?' :: '<' :: rest => namedGroup nested '>' reading rest
  | '?' :: '\'' :: rest => namedGroup nested '\'' reading rest
  | '?' :: 'P' :: '<' :: rest => namedGroup nested '>' reading rest
  | '?' :: 'P' :: '=' :: rest => do
    let (index, rest) ← groupId reading false ')' rest
    return (reading.reference index, reading.refer index false, rest)
  | '?' :: 'P' :: '>' :: _ => throw .subroutine
  | '?' :: '>' :: rest => inGroup nested .atomic reading rest
  | '?' :: '(' :: rest => conditionalFrom nested reading rest
  | '?' :: rest => flagGroup nested reading rest
  | rest => numberedGroup nested reading rest

/-- The pattern of an escape. -/
def escapedAtom : ExtendedReader Extended := fun reading s => do
  let ignoreCase := reading.flags.ignoreCase
  match ← escape reading s with
  | (.char c, rest) => return (.literal c ignoreCase, reading, rest)
  | (.set text, rest) => return (.plain text ignoreCase, reading, rest)
  | (.pattern p, rest) => return (p, reading, rest)
  | (.reference index byNumber, rest) =>
    return (reading.reference index, reading.refer index byNumber, rest)

/-- A pattern without a repetition mark; nothing before a mark, a bar or a closing parenthesis. Groups are
refused where they would be nested too deeply. -/
def atom (nested? : Option (ExtendedReader Extended)) : ExtendedReader Extended := fun reading s => do
  let flags := reading.flags
  match ← skipIgnored reading s with
  | [] => return (.empty, reading, [])
  | '.' :: rest => return (.any flags.dotAll, reading, rest)
  | '^' :: rest => return (.anchor (if flags.multiLine then .lineStart else .textStart), reading, rest)
  | '$' :: rest => return (.anchor (if flags.multiLine then .lineEnd else .textEnd), reading, rest)
  | '(' :: rest =>
    match nested? with
    | some nested => groupFrom nested reading rest
    | none => throw .tooDeep
  | '\\' :: rest => escapedAtom reading rest
  | '[' :: rest =>
    let (text, rest) ← classText reading rest
    return (.plain text flags.ignoreCase, reading, rest)
  | c :: rest =>
    if c == '+' || c == '*' || c == '?' || c == '|' || c == ')' then
      return (.empty, reading, c :: rest)
    else return (.literal c flags.ignoreCase, reading, rest)

/-- An atom with its repetition mark. A question mark makes the repetition lazy and a plus sign atomic. -/
def piece (nested? : Option (ExtendedReader Extended)) : ExtendedReader Extended := fun reading s => do
  let (p, reading, s) ← atom nested? reading s
  let s ← skipIgnored reading s
  match repetition? reading s with
  | none => return (p, reading, s)
  | some ((least, most), s) =>
    if !p.isRepeatable then throw .notRepeatable
    let s ← skipIgnored reading s
    let (lazy, s) :=
      match s with
      | '?' :: rest => (true, rest)
      | rest => (false, rest)
    let repetition := Extended.repeated p least most (lazy == reading.flags.lazy)
    match s with
    | '+' :: rest => return (.atomic repetition, reading, rest)
    | rest => return (repetition, reading, rest)

/-- Pieces one after another, as long as there are any. Only one that is empty may take nothing of the text.
The count bounds their number. -/
def piecesFrom (nested? : Option (ExtendedReader Extended)) : Nat → ExtendedReader (List Extended)
  | 0, reading, s => .ok ([], reading, s)
  | count + 1, reading, s => do
    if s.isEmpty then return ([], reading, s)
    let (p, after, rest) ← piece nested? reading s
    if p.isEmpty then
      if rest.length = s.length then return ([], after, rest)
      else piecesFrom nested? count after rest
    else
      let (more, after, rest) ← piecesFrom nested? count after rest
      return (p :: more, after, rest)

def branch (nested? : Option (ExtendedReader Extended)) : ExtendedReader Extended := fun reading s => do
  let (pieces, reading, rest) ← piecesFrom nested? (s.length + 1) reading s
  return (.ofParts pieces, reading, rest)

/-- The alternatives after a first one, each after a bar. The count bounds their number. -/
def branchesFrom (nested? : Option (ExtendedReader Extended)) : Nat → ExtendedReader (List Extended)
  | 0, reading, s => .ok ([], reading, s)
  | count + 1, reading, s => do
    match ← skipIgnored reading s with
    | '|' :: rest => do
      let (p, reading, rest) ← branch nested? reading rest
      let (more, reading, rest) ← branchesFrom nested? count reading rest
      return (p :: more, reading, rest)
    | rest => return ([], reading, rest)

/-- One pattern, or several to choose from. A single one may not refer to groups by number if there are
names. -/
def alternatives (nested? : Option (ExtendedReader Extended)) : ExtendedReader Extended := fun reading s => do
  let (first, reading, rest) ← branch nested? reading s
  let (more, reading, rest) ← branchesFrom nested? (rest.length + 1) reading rest
  if !more.isEmpty then return (.either (first :: more), reading, rest)
  else if reading.numbered && !reading.names.isEmpty then throw .mixedReferences
  else return (first, reading, rest)

/-- Reads a pattern in which groups are nested at most so deeply. -/
def readNested : Nat → ExtendedReader Extended
  | 0 => alternatives none
  | depth + 1 => alternatives (some (readNested depth))

/-- The number of groups that may be open at a time. -/
def depthLimit : Nat := 63

/-- A pattern with the number of its groups and those of them that are referred to. -/
structure Source where
  pattern : Extended
  groups : Nat
  referred : List Nat
  deriving Repr, Inhabited

/-- Reads a pattern with the flags that hold at its start. All groups that are referred to exist. -/
def read (flags : Flags) (s : List Char) : Except Error Source := do
  let size := (String.ofList s).utf8ByteSize
  let (pattern, reading, rest) ← readNested depthLimit { flags, size } s
  if !rest.isEmpty then throw .strayClosing
  else if reading.referred.any fun index => index == 0 || reading.opened < index then
    throw .badReference
  else return ⟨pattern, reading.opened, reading.referred⟩

end CosmeticRules.Pattern.Extended
