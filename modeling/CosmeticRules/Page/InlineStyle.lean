import CosmeticRules.Rule.Style
import CosmeticRules.Text.Blank
import CosmeticRules.Text.Case

/-!
The text of a style attribute: declarations separated by semicolons that stand outside quotes and
parentheses.
-/

namespace CosmeticRules.InlineStyle

open Text

/-- What is open at a place of the text. A backslash in quotes takes the character after it along. -/
structure Openings where
  quote : Option Char := none
  escaped : Bool := false
  parentheses : Nat := 0
  deriving DecidableEq, Repr, Inhabited

namespace Openings

/-- Whether a character here stands outside quotes and parentheses. -/
def isTop (o : Openings) : Bool := o.quote.isNone && o.parentheses == 0

def feed (o : Openings) (c : Char) : Openings :=
  match o.quote with
  | some opened =>
    if o.escaped then { o with escaped := false }
    else if c = '\\' then { o with escaped := true }
    else if c = opened then { o with quote := none }
    else o
  | none =>
    if c = '\'' ∨ c = '"' then { o with quote := some c }
    else if c = '(' then { o with parentheses := o.parentheses + 1 }
    else if c = ')' then { o with parentheses := o.parentheses - 1 }
    else o

end Openings

/-- The text up to the first separator outside quotes and parentheses, and the parts after it. -/
def partsFrom (separator : Char) (o : Openings) : List Char → List Char × List (List Char)
  | [] => ([], [])
  | c :: rest =>
    let (first, more) := partsFrom separator (o.feed c) rest
    if o.isTop && c == separator then ([], first :: more) else (c :: first, more)

/-- The parts before and after the first separator outside quotes and parentheses. -/
def splitTop? (separator : Char) (o : Openings) : List Char → Option (List Char × List Char)
  | [] => none
  | c :: rest =>
    if o.isTop && c == separator then some ([], rest)
    else (splitTop? separator (o.feed c) rest).map fun (before, after) => (c :: before, after)

/-- Reads a declaration; its property is in lower case. -/
def declaration? (text : List Char) : Option Declaration :=
  match splitTop? ':' {} (trim text) with
  | none => none
  | some (before, after) =>
    let property := asciiLower (trim before)
    if property.isEmpty then none
    else some ⟨String.ofList property, String.ofList (trim after)⟩

/-- Adds the declaration that a part of the text holds, if it holds one. -/
def addPart (done : List Declaration) (part : List Char) : List Declaration :=
  match declaration? part with
  | some d => Declaration.put d.property d.value done
  | none => done

/-- The declarations of a style text. A property that is declared again keeps its place. -/
def read (text : String) : List Declaration :=
  let (first, more) := partsFrom ';' {} text.toList
  (first :: more).foldl addPart []

def write (declarations : List Declaration) : String :=
  String.intercalate " " (declarations.map fun d => s!"{d.property}: {d.value};")

def important : List Char := "!important".toList

/-- A value without the mark that it is important, and whether it had the mark. -/
def stripImportant (value : String) : String × Bool :=
  let trimmed := trimEnd value.toList
  let start := trimmed.length - important.length
  if equalsIgnoringAsciiCase (trimmed.drop start) important then
    (String.ofList (trimEnd (trimmed.take start)), true)
  else (String.ofList trimmed, false)

/-- The value of a property without the mark that it is important. -/
def value? (declarations : List Declaration) (property : String) : Option String :=
  (declarations.find? (·.property == property)).map fun d => (stripImportant d.value).1

/-- Whether a name can be the name of a property. -/
def isPropertyName (s : List Char) : Bool :=
  match s with
  | '-' :: '-' :: custom => !custom.isEmpty
  | '-' :: name => isPlainName name
  | name => isPlainName name
where
  isPlainName (name : List Char) : Bool :=
    name.head?.any Char.isLower && name.all fun c => c.isLower || c.isDigit || c == '-'

end CosmeticRules.InlineStyle
