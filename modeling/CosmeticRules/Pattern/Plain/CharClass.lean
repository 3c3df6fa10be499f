import CosmeticRules.Pattern.Error
import CosmeticRules.Pattern.Property
import CosmeticRules.Text.Search

/-!
Sets of characters as plain patterns write them: after a backslash, and as classes in brackets with
characters, ranges, classes inside classes, and operations on them.
-/

namespace CosmeticRules.Pattern.Plain

open Text

/-- A set as it takes part in classes. Without regard to case, all variants of a member are members. -/
def closedSet (ignoreCase : Bool) (s : CharSet) : CharSet := if ignoreCase then .folded s else s

/-- The set of a property that is written as a name, or as a name and a value with a sign between them. -/
def propertySet? (written : List Char) : Option CharSet :=
  match splitAround? ['!', '='] written with
  | some (name, value) => CharSet.ofValue? name value
  | none =>
    match splitFirst? ':' written with
    | some (name, value) => CharSet.ofValue? name value
    | none =>
      match splitFirst? '=' written with
      | some (name, value) => CharSet.ofValue? name value
      | none => CharSet.ofName? written

/-- A property by one letter or in braces. The complement is taken last. -/
def property (ignoreCase negated : Bool) (s : List Char) : Except Error (CharSet × List Char) :=
  let (written, rest?) :=
    match s with
    | '\x7b' :: rest => (rest.takeWhile (· != '\x7d'), (rest.dropWhile (· != '\x7d')).tail?)
    | c :: rest => ([c], some rest)
    | [] => ([], none)
  match propertySet? written, rest? with
  | some set, some rest =>
    let set := closedSet ignoreCase set
    .ok (if negated then .complement set else set, rest)
  | _, _ => .error .badEscape

/-- What an escape stands for. -/
inductive Escaped
  | char (c : Char)
  | set (s : CharSet)
  deriving DecidableEq, Repr, Inhabited

/-- Reads what follows a backslash. A sign that is neither a letter nor a digit stands for itself. -/
def escape (ignoreCase : Bool) : List Char → Except Error (Escaped × List Char)
  | 'd' :: rest => .ok (.set .digits, rest)
  | 'D' :: rest => .ok (.set (.complement .digits), rest)
  | 's' :: rest => .ok (.set .blanks, rest)
  | 'S' :: rest => .ok (.set (.complement .blanks), rest)
  | 'w' :: rest => .ok (.set .wordChars, rest)
  | 'W' :: rest => .ok (.set (.complement .wordChars), rest)
  | 'p' :: rest => (property ignoreCase false rest).map fun (set, rest) => (.set set, rest)
  | 'P' :: rest => (property ignoreCase true rest).map fun (set, rest) => (.set set, rest)
  | c :: rest =>
    if c.isAlphanum || c == '<' || c == '>' || 128 ≤ c.toNat then .error .badEscape
    else .ok (.char c, rest)
  | [] => .error .badEscape

abbrev ClassReader := List Char → Except Error (CharSet × List Char)

/-- A class by its name between colons, from after its opening bracket on. -/
def namedClass? (ignoreCase : Bool) : List Char → Option (CharSet × List Char)
  | ':' :: rest =>
    let (negated, rest) :=
      match rest with
      | '^' :: rest => (true, rest)
      | rest => (false, rest)
    match rest.dropWhile (· != ':') with
    | _ :: ']' :: after => do
      let set ← CharSet.named.lookup (String.ofList (rest.takeWhile (· != ':')))
      let set := closedSet ignoreCase set
      return (if negated then .complement set else set, after)
    | _ => none
  | _ => none

/-- The operations that are written as a doubled sign. -/
def setOperation? : List Char → Option ((CharSet → CharSet → CharSet) × List Char)
  | '&' :: '&' :: rest => some (.intersection, rest)
  | '-' :: '-' :: rest => some (.difference, rest)
  | '~' :: '~' :: rest => some (.symmetricDifference, rest)
  | _ => none

/-- One character of a class, or a set that an escape stands for. -/
def classAtom (ignoreCase : Bool) : List Char → Except Error (Escaped × List Char)
  | '\\' :: rest => escape ignoreCase rest
  | c :: rest => .ok (.char c, rest)
  | [] => .error .openClass

/-- A character, a set, or the range between two characters. A hyphen before the closing bracket or before
another hyphen makes no range. -/
def classItem (ignoreCase : Bool) (s : List Char) : Except Error (CharSet × List Char) := do
  let (first, rest) ← classAtom ignoreCase s
  let single : CharSet :=
    match first with
    | .char c => .one c
    | .set s => s
  match rest with
  | '-' :: ']' :: _ | '-' :: '-' :: _ => return (single, rest)
  | '-' :: rest =>
    let (last, rest) ← classAtom ignoreCase rest
    match first, last with
    | .char a, .char b => if a ≤ b then return (.range a b, rest) else throw .badClass
    | _, _ => throw .badClass
  | _ => return (single, rest)

/-- What has been read of a class: the operation that waits for its right side, and the sets since. -/
structure ClassDraft where
  pending : CharSet → CharSet
  sets : List CharSet

def ClassDraft.add (draft : ClassDraft) (s : CharSet) : ClassDraft :=
  { draft with sets := draft.sets ++ [s] }

def ClassDraft.set (ignoreCase : Bool) (draft : ClassDraft) : CharSet :=
  draft.pending (closedSet ignoreCase (.ofList draft.sets))

/-- Reads the rest of a class up to its closing bracket. The count bounds the number of its parts. -/
def classFrom (ignoreCase : Bool) (nested : ClassReader) : Nat → ClassDraft → ClassReader
  | count + 1, draft, '[' :: rest =>
    match namedClass? ignoreCase rest with
    | some (set, rest) => classFrom ignoreCase nested count (draft.add set) rest
    | none => do
      let (set, rest) ← nested rest
      classFrom ignoreCase nested count (draft.add set) rest
  | _ + 1, draft, ']' :: rest => .ok (draft.set ignoreCase, rest)
  | count + 1, draft, s =>
    match setOperation? s with
    | some (operation, rest) =>
      classFrom ignoreCase nested count ⟨operation (draft.set ignoreCase), []⟩ rest
    | none => do
      let (set, rest) ← classItem ignoreCase s
      classFrom ignoreCase nested count (draft.add set) rest
  | 0, _, _ => .error .openClass

/-- Reads a class from after its opening bracket on. Hyphens at the start stand for themselves, and so
does a closing bracket that comes first. -/
def bracketed (ignoreCase : Bool) (nested : ClassReader) : ClassReader := fun s => do
  let (negated, rest) :=
    match s with
    | '^' :: rest => (true, rest)
    | rest => (false, rest)
  let hyphens := (rest.takeWhile (· == '-')).map CharSet.one
  let rest := rest.dropWhile (· == '-')
  let (first, rest) :=
    match hyphens, rest with
    | [], ']' :: rest => ([CharSet.one ']'], rest)
    | _, _ => (hyphens, rest)
  let (set, rest) ← classFrom ignoreCase nested (rest.length + 1) ⟨id, first⟩ rest
  let set := closedSet ignoreCase set
  return (if negated then .complement set else set, rest)

/-- Reads a class with at most so many classes around it. -/
def bracketedNested (ignoreCase : Bool) : Nat → ClassReader
  | 0, _ => .error .badClass
  | depth + 1, s => bracketed ignoreCase (bracketedNested ignoreCase depth) s

/-- Reads a class whose opening bracket has been read. -/
def charClass (ignoreCase : Bool) : ClassReader := fun s =>
  bracketedNested ignoreCase (s.length + 1) s

end CosmeticRules.Pattern.Plain
