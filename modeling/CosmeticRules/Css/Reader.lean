import CosmeticRules.Css.Nesting
import CosmeticRules.Css.Number
import CosmeticRules.Css.Syntax
import CosmeticRules.Text.Case

/-!
Reading native selectors. What cannot be read is refused with the smallest text that was found at
fault: a list, a chain or a compound selector.
-/

namespace CosmeticRules.Css

open Text

structure Unsupported where
  selector : String
  deriving DecidableEq, Repr, Inhabited

def unsupported {α : Type} (text : List Char) : Except Unsupported α := .error ⟨String.ofList text⟩

def isNameChar (c : Char) : Bool := c.isAlphanum || c == '_' || c == '-' || c.toNat ≥ 128

def isKeyChar (c : Char) : Bool := isNameChar c || c == ':'

/-- Reads a name as far as it goes; a backslash makes any character part of it. -/
def nameFrom : List Char → Option (List Char × List Char)
  | [] => some ([], [])
  | '\\' :: c :: rest => (nameFrom rest).map fun (name, after) => (c :: name, after)
  | c :: rest =>
    if c = '\\' then none
    else if isNameChar c then (nameFrom rest).map fun (name, after) => (c :: name, after)
    else some ([], c :: rest)

/-- Reads a name that is not empty and does not start with a digit. -/
def name? (s : List Char) : Option (List Char × List Char) :=
  match nameFrom s with
  | some (c :: name, rest) => if c.isDigit then none else some (c :: name, rest)
  | _ => none

/-- Reads the value of an attribute test up to its quote, or up to a blank or a bracket if it has none;
a backslash makes any character part of it. -/
def valueFrom (quote : Option Char) : List Char → Option (List Char × List Char)
  | [] => none
  | '\\' :: c :: rest => (valueFrom quote rest).map fun (value, after) => (c :: value, after)
  | c :: rest =>
    if c = '\\' then none
    else if quote = some c then some ([], rest)
    else if quote = none ∧ (isBlank c ∨ c = ']') then some ([], c :: rest)
    else (valueFrom quote rest).map fun (value, after) => (c :: value, after)

def value? : List Char → Option (List Char × List Char)
  | [] => none
  | c :: rest =>
    if c = '"' ∨ c = '\'' then valueFrom (some c) rest
    else
      match valueFrom none (c :: rest) with
      | some (value, after) => if value.isEmpty then none else some (value, after)
      | none => none

def operator? : List Char → Option (AttributeOperator × List Char)
  | '=' :: rest => some (.equals, rest)
  | '^' :: '=' :: rest => some (.startsWith, rest)
  | '$' :: '=' :: rest => some (.endsWith, rest)
  | '*' :: '=' :: rest => some (.contains, rest)
  | '~' :: '=' :: rest => some (.includes, rest)
  | '|' :: '=' :: rest => some (.dashMatch, rest)
  | _ => none

/-- Reads the flag after a value: `i` for comparison without case, `s` for comparison with it. -/
def caseFlag : List Char → Bool × List Char
  | c :: rest =>
    if c = 'i' ∨ c = 'I' then (true, rest)
    else if c = 's' ∨ c = 'S' then (false, rest)
    else (false, c :: rest)
  | [] => (false, [])

def skipBlanks (s : List Char) : List Char := s.dropWhile isAsciiBlank

/-- Reads an operator, a value and a flag up to the closing bracket. -/
def comparison? (key : String) (s : List Char) : Option (AttributeTest × List Char) :=
  match operator? s with
  | none => none
  | some (operator, s) =>
    match value? (skipBlanks s) with
    | none => none
    | some (value, s) =>
      match skipBlanks (caseFlag (skipBlanks s)).2 with
      | ']' :: rest =>
        some (.compare key operator (String.ofList value) (caseFlag (skipBlanks s)).1, rest)
      | _ => none

/-- Reads an attribute test after its opening bracket. -/
def attributeTest? (s : List Char) : Option (AttributeTest × List Char) :=
  let s := skipBlanks s
  let key := String.ofList (asciiLower (s.takeWhile isKeyChar))
  if key.isEmpty then none
  else
    match skipBlanks (s.dropWhile isKeyChar) with
    | ']' :: rest => some (.has key, rest)
    | s => comparison? key s

/-- The pseudo-class with an argument that has the given name. The compound selector is the text quoted
when the argument of a counting one is refused. -/
def functional (readGroups : List Char → Except Unsupported (List Chain)) (compound : List Char)
    (name : String) (argument : List Char) : Except Unsupported Simple :=
  if name == "not" then (readGroups argument).map .notAny
  else if name == "is" || name == "matches" then (readGroups argument).map .isAny
  else if name == "where" then (readGroups argument).map .whereAny
  else
    match Counting.all.find? (·.name == name), Nth.read? argument with
    | some counting, some formula => .ok (.nth counting formula)
    | _, _ => unsupported compound

/-- Reads a pseudo-class after its colon. -/
def pseudo (readGroups : List Char → Except Unsupported (List Chain)) (compound s : List Char) :
    Except Unsupported (Simple × List Char) :=
  match name? s with
  | none => unsupported compound
  | some (name, rest) =>
    let name := String.ofList (asciiLower name)
    if rest.head? = some '(' then
      match argumentFrom {} (rest.drop 1) with
      | none => unsupported compound
      | some (body, after) =>
        if (trim body).isEmpty then unsupported compound
        else (functional readGroups compound name (trim body)).map fun simple => (simple, after)
    else
      match Structural.all.find? (·.name == name) with
      | some simple => .ok (.structural simple, rest)
      | none => unsupported compound

def isId : Simple → Bool
  | .id _ => true
  | _ => false

/-- Reads the next simple selector. Tags and the universal selector come first only, and there is at
most one id. -/
def simple (readGroups : List Char → Except Unsupported (List Chain)) (compound : List Char)
    (done : List Simple) (c : Char) (rest : List Char) : Except Unsupported (Simple × List Char) :=
  let orRefuse (found : Option (Simple × List Char)) : Except Unsupported (Simple × List Char) :=
    match found with
    | some found => .ok found
    | none => unsupported compound
  if c = '*' then if done.isEmpty then .ok (.universal, rest) else unsupported compound
  else if c = '#' then
    orRefuse <|
      if done.any isId then none
      else (name? rest).map fun (name, after) => (.id (String.ofList name), after)
  else if c = '.' then
    orRefuse <| (name? rest).map fun (name, after) => (.className (String.ofList name), after)
  else if c = '[' then
    orRefuse <| (attributeTest? rest).map fun (test, after) => (.attribute test, after)
  else if c = ':' then pseudo readGroups compound rest
  else
    orRefuse <|
      if !done.isEmpty then none
      else (name? (c :: rest)).map fun (name, after) => (.tag (String.ofList (asciiLower name)), after)

/-- Reads the simple selectors of a compound selector; as many as it has characters are enough. -/
def simplesFrom (readGroups : List Char → Except Unsupported (List Chain)) (compound : List Char) :
    Nat → List Simple → List Char → Except Unsupported (List Simple)
  | _, done, [] => .ok done
  | 0, _, _ :: _ => unsupported compound
  | count + 1, done, c :: rest => do
    let (next, after) ← simple readGroups compound done c rest
    simplesFrom readGroups compound count (done ++ [next]) after

def compound (readGroups : List Char → Except Unsupported (List Chain)) (text : List Char) :
    Except Unsupported (List Simple) :=
  simplesFrom readGroups text text.length [] text

def combinator (sign : Char) : Combinator :=
  if sign = '>' then .child else if sign = '+' then .nextSibling else .laterSibling

/-- Reads the parts of a chain one after the other, with the chain so far and the sign after it. -/
def chainFrom (readGroups : List Char → Except Unsupported (List Chain)) (text : List Char) :
    Option Chain → Option Combinator → List ChainPart → Except Unsupported Chain
  | some chain, none, [] => .ok chain
  | _, _, [] => unsupported text
  | some chain, none, .sign c :: rest => chainFrom readGroups text (some chain) (some (combinator c)) rest
  | _, _, .sign _ :: _ => unsupported text
  | none, _, .compound part :: rest => do
    let simples ← compound readGroups part
    chainFrom readGroups text (some (.single simples)) none rest
  | some chain, sign, .compound part :: rest => do
    let simples ← compound readGroups part
    chainFrom readGroups text (some (.link chain (sign.getD .descendant) simples)) none rest

def chain (readGroups : List Char → Except Unsupported (List Chain)) (text : List Char) :
    Except Unsupported Chain :=
  match parts? text with
  | none => unsupported text
  | some parts => chainFrom readGroups text none none parts

/-- Reads chains separated by commas, with arguments nested at most so deep. -/
def chainsTo : Nat → List Char → Except Unsupported (List Chain)
  | 0, text => unsupported text
  | depth + 1, text =>
    match groups? text with
    | none => unsupported text
    | some groups => groups.mapM (chain (chainsTo depth))

/-- Reads chains separated by commas. Arguments are nested less deep than the text is long. -/
def read (text : String) : Except Unsupported (List Chain) :=
  chainsTo (text.length + 1) text.toList

end CosmeticRules.Css
