import CosmeticRules.Pattern.Extended.Reading

/-!
What a backslash and the characters after it stand for in an extended pattern, and classes in brackets. Only
the escapes of a class are read here; the class itself is kept as the text of a plain pattern.
-/

namespace CosmeticRules.Pattern.Extended

open Text

/-- What an escape stands for. -/
inductive Escaped
  | char (c : Char)
  /-- A set of characters, as a plain pattern. -/
  | set (text : List Char)
  | pattern (p : Extended)
  | reference (group : Nat) (byNumber : Bool)
  deriving Repr, Inhabited

def charOfHex (digits rest : List Char) : Except Error (Escaped × List Char) :=
  match scalar? (digitsValue 16 digits) with
  | some c => .ok (.char c, rest)
  | none => .error .badEscape

/-- A character by its number: exactly so many hexadecimal digits, or up to eight in braces. -/
def numberedChar (reading : Reading) (digits : Nat) (s : List Char) :
    Except Error (Escaped × List Char) := do
  let s ← skipIgnored reading s
  let plain := s.take digits
  if plain.length = digits ∧ plain.all isHexDigit then charOfHex plain (s.drop digits)
  else
    match s with
    | '\x7b' :: rest =>
      let written := rest.takeWhile isHexDigit
      match rest.dropWhile isHexDigit with
      | '\x7d' :: rest =>
        if written.isEmpty || 8 < written.length then throw .badEscape else charOfHex written rest
      | _ => throw .badEscape
    | _ => throw .badEscape

/-- The name of a property in braces, as it stands there, up to the closing brace. The count bounds the
number of its characters. -/
def propertyName (reading : Reading) : Nat → List Char → Except Error (List Char)
  | 0, _ => .error .badEscape
  | count + 1, s => do
    match ← skipIgnored reading s with
    | [] => throw .badEscape
    | '\x7d' :: rest => return rest
    | _ :: rest => propertyName reading count rest

/-- A property by one letter or in braces; its text is kept. -/
def property (reading : Reading) (letter : Char) (s : List Char) : Except Error (Escaped × List Char) := do
  let rest ←
    match ← skipIgnored reading s with
    | [] => throw .badEscape
    | '\x7b' :: rest => propertyName reading (rest.length + 1) rest
    | _ :: rest => pure rest
  return (.set ('\\' :: letter :: s.take (s.length - rest.length)), rest)

/-- The places of a word that braces name. -/
def wordPlaces : List (String × Anchor) :=
  [("start", .wordStart), ("end", .wordEnd), ("start-half", .noWordBefore), ("end-half", .noWordAfter)]

/-- The edge of a word, from after its letter on. Braces name a place of a word, unless they are the bounds
of a repetition. -/
def wordEdge (reading : Reading) (negated : Bool) (s : List Char) : Except Error (Escaped × List Char) := do
  let edge : Escaped := .pattern (.anchor (if negated then .noWordBoundary else .wordBoundary))
  match ← skipIgnored reading s with
  | '\x7b' :: rest =>
    if (countBounds reading rest).toBool then return (edge, s)
    let isPlaceChar (c : Char) := c.isAlpha || c == '-'
    let rest ← skipIgnored reading rest
    match ← skipIgnored reading (rest.dropWhile isPlaceChar) with
    | '\x7d' :: after =>
      match wordPlaces.lookup (String.ofList (rest.takeWhile isPlaceChar)), negated with
      | some place, false => return (.pattern (.anchor place), after)
      | _, _ => throw .badEscape
    | _ => throw .badEscape
  | _ => return (edge, s)

/-- The patterns that are written with one letter or an angle bracket. -/
def escapedPattern? : Char → Option Extended
  | 'A' => some (.anchor .textStart)
  | 'z' => some (.anchor .textEnd)
  | 'Z' => some (.anchor .lastLineEnd)
  | '<' => some (.anchor .wordStart)
  | '>' => some (.anchor .wordEnd)
  | 'K' => some .matchStart
  | 'G' => some .searchStart
  | 'O' => some (.any true)
  | 'N' => some (.any false)
  | 'R' => some .lineBreak
  | _ => none

/-- The sets of characters that are written with one letter, as plain patterns. -/
def escapedSet? : Char → Option (List Char)
  | 'h' => some "[0-9A-Fa-f]".toList
  | 'H' => some "[^0-9A-Fa-f]".toList
  | c => if "dDsSwW".toList.contains c then some ['\\', c] else none

/-- The characters that are written with one letter. In a class, most letters of conditions have none but
their own. -/
def escapedChar? (inClass : Bool) : Char → Option Char
  | 'a' => some '\x07'
  | 'e' => some '\x1b'
  | 'f' => some '\x0c'
  | 'n' => some '\n'
  | 'r' => some '\r'
  | 't' => some '\t'
  | 'v' => some '\x0b'
  | 'b' => if inClass then some '\x08' else none
  | c => if !c.isAlpha || (inClass && "kAzBKG".toList.contains c) then some c else none

/-- The reference that follows the letter for references by name. -/
def namedReference (reading : Reading) : List Char → Except Error (Escaped × List Char)
  | '<' :: rest => (groupId reading true '>' rest).map fun (index, rest) => (.reference index false, rest)
  | '\'' :: rest => (groupId reading true '\'' rest).map fun (index, rest) => (.reference index false, rest)
  | _ => .error .badName

/-- What an escape stands for in a class and outside alike. -/
def commonEscape (reading : Reading) (inClass : Bool) (c : Char) (rest : List Char) :
    Except Error (Escaped × List Char) :=
  if c = 'x' then numberedChar reading 2 rest
  else if c = 'u' then numberedChar reading 4 rest
  else if c = 'U' then numberedChar reading 8 rest
  else if c = 'p' ∨ c = 'P' then property reading c rest
  else
    match escapedSet? c, escapedChar? inClass c with
    | some text, _ => .ok (.set text, rest)
    | none, some c => .ok (.char c, rest)
    | none, none => .error .badEscape

/-- Reads what follows a backslash outside classes. -/
def escape (reading : Reading) : List Char → Except Error (Escaped × List Char)
  | [] => .error .badEscape
  | c :: rest =>
    if c.isDigit then
      (groupNumber reading (c :: rest)).map fun (index, rest) => (.reference index true, rest)
    else if c = 'k' then namedReference reading rest
    else if c = 'g' then .error .subroutine
    else if c = 'b' ∨ c = 'B' then wordEdge reading (c == 'B') rest
    else
      match escapedPattern? c with
      | some p => .ok (.pattern p, rest)
      | none => commonEscape reading false c rest

/-- Reads what follows a backslash in a class, and writes it as a plain class does. -/
def classEscape (reading : Reading) : List Char → Except Error (List Char × List Char)
  | [] => .error .badEscape
  | c :: rest => do
    if c.isDigit then throw .badClass
    match ← commonEscape reading true c rest with
    | (.char c, rest) => return (quotedInClass c, rest)
    | (.set text, rest) => return (text, rest)
    | _ => throw .badClass
where
  quotedInClass (c : Char) : List Char :=
    if "\\.+*?()|[]\x7b\x7d^$#&-~".toList.contains c then ['\\', c] else [c]

/-- The plain text of a class up to the bracket that closes it; inner brackets come in pairs. The count
bounds the number of its parts. -/
def classTextFrom (reading : Reading) : Nat → Nat → List Char → Except Error (List Char × List Char)
  | count + 1, depth, '\\' :: rest => do
    let (text, rest) ← classEscape reading rest
    let (more, rest) ← classTextFrom reading count depth rest
    return (text ++ more, rest)
  | _ + 1, 0, ']' :: rest => .ok ([']'], rest)
  | count + 1, depth, c :: rest => do
    let depth := if c = '[' then depth + 1 else if c = ']' then depth - 1 else depth
    let (more, rest) ← classTextFrom reading count depth rest
    return (c :: more, rest)
  | _, _, _ => .error .openClass

/-- The plain text of a class whose opening bracket has been read. A bracket right at the start, or after the
negation mark there, does not close it. -/
def classText (reading : Reading) (s : List Char) : Except Error (List Char × List Char) := do
  let (head, rest) : List Char × List Char :=
    match s with
    | '^' :: ']' :: rest => (['^', ']'], rest)
    | '^' :: rest => (['^'], rest)
    | ']' :: rest => ([']'], rest)
    | rest => ([], rest)
  let (more, rest) ← classTextFrom reading (rest.length + 1) 0 rest
  return ('[' :: head ++ more, rest)

end CosmeticRules.Pattern.Extended
