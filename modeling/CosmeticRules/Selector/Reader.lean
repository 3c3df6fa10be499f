import CosmeticRules.Selector.AttributeText
import CosmeticRules.Selector.Draft
import CosmeticRules.Selector.Folding
import CosmeticRules.Selector.LegacyForm
import CosmeticRules.Selector.Token
import CosmeticRules.Text.Case

/-!
Reading a selector. The tokens of the normalized text are taken one after the other; each changes the
draft according to the class of the open node and the tokens around it.
-/

namespace CosmeticRules

/-- The tokens around the one being read. -/
structure Surroundings where
  beforeLast : Option Token
  last : Option Token
  next : Option Token
  afterNext : Option Token
  deriving Repr, Inhabited

namespace SelectorReader

/-- What is selected from when a selector starts with `:xpath()`. -/
def xpathRoot : String := "body"

/-- Native pseudo-elements: `:has()` is refused after them, and `:matches-css()` takes them as its
first argument. -/
def pseudoElements : List String :=
  ["after", "backdrop", "before", "cue", "cue-region", "first-letter", "first-line",
    "file-selector-button", "grammar-error", "marker", "part", "placeholder", "selection",
    "slotted", "spelling-error", "target-text"]

def isMark (token : Option Token) (c : Char) : Bool := token == some (.mark c)

def isBlank : Option Token → Bool
  | some (.mark c) => Text.isAsciiBlank c
  | _ => false

def isCombinatorToken : Option Token → Bool
  | some (.mark c) => isCombinator c
  | _ => false

def isWordToken (token : Option Token) : Bool := token.any (·.isWord)

/-- The pseudo-class whose name is exactly the text of the token. -/
def namedPseudo? (token : Option Token) : Option PseudoClass :=
  token.bind fun token => PseudoClass.ofName? token.text

def lowerText (token : Token) : String := String.ofList (Text.lower token.chars)

/-- Whether the token names an extended pseudo-class in some spelling of upper and lower case. -/
def isPseudoName (token : Token) : Bool := (PseudoClass.ofName? (lowerText token)).isSome

def isRemoveName (token : Token) : Bool := lowerText token == "remove"

/-- An opening bracket that starts an attribute condition. -/
def opensAttribute (c : Char) (around : Surroundings) : Bool :=
  c == '[' && !isMark around.last '\\'

/-- Whether the token after a space still belongs to the regular selector. -/
def continuesRegular : Option Token → Bool
  | none => false
  | some (.word _) => true
  | some (.mark c) => isCombinator c || ['*', '#', '.', ':', '\'', '"', '['].contains c

/-- Marks before which a slash opens a pattern in a text argument. -/
def beforeTextPattern : List Char := ['(', '\'', '"']

/-- Marks before which a slash opens a pattern in any other argument. -/
def beforePattern : List Char := ['(', '\'', '"', '=', '.', ':', ' ']

def isOneOf (chars : List Char) : Token → Bool
  | .mark c => chars.contains c
  | .word _ => false

/-- Whether a slash that follows the given token opens a pattern in the argument at hand. -/
def opensPattern (d : Draft) (last : Token) : Except SelectorError Bool :=
  match d.pseudoNames with
  | [] => .error .patternOutside
  | name :: _ =>
    if (PseudoClass.ofName? name).any (·.isTextMatching) then
      .ok (isOneOf beforeTextPattern last)
    else if last = .mark '/' ∧ name ≠ PseudoClass.xpath.name then
      .error (.patternPlace name d.openValue)
    else .ok (isOneOf beforePattern last)

/-- Opens the extended pseudo-class of the given name. -/
def openPseudo (token : Token) (d : Draft) : Except SelectorError Draft :=
  let name := lowerText token
  match PseudoClass.ofName? name with
  | none => .error (.unknownPseudo name)
  | some pseudo =>
    let d := { d with pseudoNames := name :: d.pseudoNames }
    if pseudo.isAbsolute then d.add (.absolute pseudo "")
    else { d with foldable := d.foldable || pseudo.isFoldable }.add (.relative pseudo)

def readWord (selector : String) (token : Token) (around : Surroundings) (d : Draft) :
    Except SelectorError Draft :=
  match d.openClass? with
  | none => d.start token.text
  | some .selectorList => d.addSelector token.text
  | some .regular => d.write token.text
  | some .absolute => d.write token.text
  | some .extended =>
    if isBlank around.next && isMark around.afterNext '(' then .error (.blankAtPseudo selector)
    else openPseudo token d
  | some .relative => d.addList token.text
  | some .selector => .ok d

def readComma (selector : String) (around : Surroundings) (d : Draft) :
    Except SelectorError Draft :=
  if around.next.isNone then .error (.notASelector selector)
  else
    match d.openClass? with
    | none => .error (.notASelector selector)
    | some .regular => if d.inAttribute then d.write "," else .ok (d.ascend .selectorList)
    | some .absolute => d.write ","
    | some .selector => .ok (d.ascend .selectorList)
    | _ => .ok d

/-- A space between the colon of a native pseudo-class and its name, or between the name and its
argument. -/
def splitsPseudo (around : Surroundings) : Bool :=
  (isMark around.last ':' && isWordToken around.next) ||
    (isWordToken around.last && isMark around.next '(')

def readSpace (selector : String) (around : Surroundings) (d : Draft) :
    Except SelectorError Draft := do
  let d ← if d.openClass? == some .regular && !d.inAttribute then d.resume else .ok d
  match d.openClass? with
  | some .regular =>
    if d.inAttribute then d.write " "
    else if splitsPseudo around then .error (.notASelector selector)
    else if around.next.isNone || continuesRegular around.next then d.write " "
    else .ok d
  | some .absolute => d.write " "
  | some .relative => d.addList ""
  | some .selector => if continuesRegular around.next then d.addRegular "" else .ok d
  | _ => .ok d

/-- Notes that an attribute condition is open from here on, if the mark opens one. -/
def noteAttribute (c : Char) (around : Surroundings) (d : Draft) : Draft :=
  { d with inAttribute := d.inAttribute || opensAttribute c around }

/-- Notes where a slash in an argument opens or closes a pattern. -/
def noteSlash (around : Surroundings) (d : Draft) : Except SelectorError Draft :=
  match around.last with
  | none => .ok d
  | some last =>
    if last = .mark '/' ∧ isMark around.beforeLast '\\' then .ok { d with inPattern := false }
    else if last = .mark '\\' then .ok d
    else do
      let opens ← opensPattern d last
      return { d with inPattern := opens && !d.inPattern }

/-- Combinators other than the space, and the marks that are plain text of a selector. -/
def readMark (selector : String) (c : Char) (around : Surroundings) (d : Draft) :
    Except SelectorError Draft := do
  let text := String.singleton c
  let d ←
    if isCombinator c then
      if d.openClass?.isNone then .error (.notASelector selector) else d.resume
    else .ok d
  match d.openClass? with
  | none => return noteAttribute c around (← d.start text)
  | some .regular =>
    if c == '\x7b' && !(d.inAttribute || d.inPattern) then .error (.notASelector selector)
    else return noteAttribute c around (← d.write text)
  | some .absolute =>
    let d ← d.write text
    if c == '/' && !d.pseudoNames.isEmpty then noteSlash around d else .ok d
  | some .relative => return noteAttribute c around (← d.addList text)
  | some .selector =>
    if isCombinator c then d.addRegular text
    else if d.inPattern then .ok d
    else return noteAttribute c around (← (← d.reopenRegular).write text)
  | some .selectorList => return noteAttribute c around (← d.addSelector text)
  | some .extended => return d

def readClosingBracket (selector : String) (around : Surroundings) (d : Draft) :
    Except SelectorError Draft :=
  match d.openClass? with
  | some .regular => do
    if !d.inAttribute && !isMark around.last '\\' then
      .error (.strayBracket selector d.openValue)
    else
      let closes ← if d.inAttribute then AttributeText.closes d.attributeText else .ok false
      let d := if closes then { d with inAttribute := false, attributeText := "" } else d
      d.write "]"
  | some .absolute => d.write "]"
  | _ => .ok d

/-- A colon inside a regular selector: the token after it names a native pseudo-class, which stays
in the regular selector, or opens an extended part. -/
def readPseudo (selector : String) (around : Surroundings) (d : Draft) :
    Except SelectorError Draft :=
  match around.next with
  | none => .error (.colonAtEnd selector)
  | some next =>
    if isPseudoName next then
      match d.nativeNames with
      | outer :: _ =>
        if (namedPseudo? next).any (·.isHas) then .error (.hasInsidePseudo next.text outer)
        else (d.ascend .selector).add .extended
      | [] => (d.ascend .selector).add .extended
    else if isRemoveName next then .error (.removePseudo selector)
    else do
      let d ← d.write ":"
      if isMark around.afterNext '(' && !d.inAttribute then
        return { d with nativeNames := next.text :: d.nativeNames }
      else return d

/-- A colon with which the selector, or one of its alternatives, starts. -/
def readFirstColon (around : Surroundings) (d : Draft) : Except SelectorError Draft :=
  match d.openClass? with
  | none =>
    match around.next.map (·.text) with
    | some "xpath" => d.start xpathRoot
    | some "upward" => .error (.nothingBefore "upward")
    | some "nth-ancestor" => .error (.nothingBefore "nth-ancestor")
    | _ => d.start "*"
  | some .selectorList => d.addSelector ""
  | _ => .ok d

def readColon (selector : String) (around : Surroundings) (d : Draft) :
    Except SelectorError Draft := do
  if isBlank around.next && (namedPseudo? around.afterNext).isSome then
    .error (.blankAtPseudo selector)
  else
    let d ← readFirstColon around d
    match d.openClass? with
    | some .regular =>
      let d ←
        if isCombinatorToken around.last || isMark around.last ',' then d.write "*" else .ok d
      readPseudo selector around d
    | some .selector =>
      match around.next with
      | none => .error (.colonAtEnd selector)
      | some next =>
        if isPseudoName next then d.add .extended
        else if isRemoveName next then .error (.removePseudo selector)
        else readPseudo selector around (← d.reopenRegular)
    | some .absolute =>
      if d.openPseudo? == some .xpath && (namedPseudo? around.next).isSome &&
          isMark around.afterNext '(' then
        .error (.xpathNotLast selector)
      else d.write ":"
    | some .relative =>
      match around.next with
      | none => .error (.argumentAtEnd selector)
      | some next =>
        let d ← d.addList "*"
        if isPseudoName next then (d.ascend .selector).add .extended
        else
          let d ← d.write ":"
          if isMark around.afterNext '(' then
            return { d with nativeNames := next.text :: d.nativeNames }
          else return d
    | _ => return d

def readOpeningParenthesis (d : Draft) : Except SelectorError Draft :=
  match d.openClass? with
  | some .absolute =>
    if d.openPseudo? != some .xpath && d.inPattern then d.write "("
    else
      let d := { d with pseudoBrackets := d.pseudoBrackets + 1 }
      if d.pseudoBrackets > d.pseudoNames.length then d.write "(" else .ok d
  | some .regular => do
    let d ←
      if d.nativeNames.isEmpty then .ok d
      else (d.write "(").map fun d => { d with nativeBrackets := d.nativeBrackets + 1 }
    if d.inAttribute then d.write "(" else return d
  | some .relative => .ok { d with pseudoBrackets := d.pseudoBrackets + 1 }
  | _ => .ok d

/-- A closing parenthesis in the argument of an absolute pseudo-class. -/
def closeArgument (d : Draft) : Except SelectorError Draft :=
  let isXPath := d.openPseudo? == some .xpath
  if !isXPath && d.inPattern then d.write ")"
  else
    let d := { d with pseudoBrackets := d.pseudoBrackets - 1 }
    if isXPath then
      if d.pseudoBrackets < d.pseudoNames.length then
        .ok { d with pseudoNames := d.pseudoNames.tail }
      else d.write ")"
    else
      let d := { d with pseudoNames := d.pseudoNames.tail }
      if d.pseudoBrackets > d.pseudoNames.length then d.write ")" else .ok (d.ascend .selector)

/-- A closing parenthesis of a native pseudo-class with an argument. -/
def closeNative (name : String) (around : Surroundings) (d : Draft) :
    Except SelectorError Draft := do
  let d ← d.write ")"
  let d := { d with nativeBrackets := d.nativeBrackets - 1, nativeNames := d.nativeNames.tail }
  match namedPseudo? around.afterNext with
  | some pseudo =>
    if pseudoElements.contains name && isMark around.next ':' && pseudo.isHas then
      .error (.hasAfterElement pseudo.name name)
    else return d
  | none => return d

def readClosingParenthesis (around : Surroundings) (d : Draft) : Except SelectorError Draft :=
  match d.openClass? with
  | some .absolute => closeArgument d
  | some .regular =>
    if d.inAttribute then d.write ")"
    else
      match d.nativeNames with
      | name :: _ => if d.nativeBrackets > 0 then closeNative name around d else .ok d.closePseudo
      | [] => .ok d.closePseudo
  | some .selector => .ok d.closePseudo
  | some .relative =>
    if !d.pseudoNames.isEmpty && d.pseudoBrackets > 0 then
      .ok { d with pseudoBrackets := d.pseudoBrackets - 1, pseudoNames := d.pseudoNames.tail }
    else .ok d
  | _ => .ok d

/-- Takes one token. Line feeds, form feeds and carriage returns are refused everywhere, and a tab
outside attribute conditions. -/
def readToken (selector : String) (token : Token) (around : Surroundings) (d : Draft) :
    Except SelectorError Draft :=
  match token with
  | .word _ => readWord selector token around d
  | .mark ',' => readComma selector around d
  | .mark ' ' => readSpace selector around d
  | .mark ']' => readClosingBracket selector around d
  | .mark ':' => readColon selector around d
  | .mark '(' => readOpeningParenthesis d
  | .mark ')' => readClosingParenthesis around d
  | .mark '\t' =>
    if d.openClass? == some .regular && d.inAttribute then d.write "\t"
    else .error (.notASelector selector)
  | .mark '\n' => .error (.notASelector selector)
  | .mark '\r' => .error (.notASelector selector)
  | .mark '\x0c' => .error (.notASelector selector)
  | .mark c => readMark selector c around d

/-- Takes the tokens in turn; the two last ones taken are handed on. -/
def readTokens (selector : String) (beforeLast last : Option Token) :
    List Token → Draft → Except SelectorError Draft
  | [], d => .ok d
  | token :: rest, d => do
    let around := ⟨beforeLast, last, rest.head?, rest.tail.head?⟩
    readTokens selector last (some token) rest (← readToken selector token around d)

/-- The tree of a draft in which everything is closed. -/
def finish (selector : String) (d : Draft) : Except SelectorError SelectorTree :=
  match d.tree with
  | none => .error (.notASelector selector)
  | some tree =>
    if !d.pseudoNames.isEmpty || d.pseudoBrackets > 0 then
      .error (.openPseudo (d.pseudoNames.headD ""))
    else if d.inAttribute then .error (.openAttribute selector)
    else .ok tree

/-- The tokens of a selector in the current spelling. -/
def tokens (selector : String) : Except SelectorError (List Token) :=
  (LegacyForm.normalize selector).map (Token.split isSelectorMark)

/-- The draft after the last token. -/
def draft (selector : String) : Except SelectorError Draft := do
  readTokens selector none none (← tokens selector) {}

end SelectorReader

namespace SelectorTree

/-- Reads a selector without folding, together with whether it has anything to fold. -/
def readUnfolded (selector : String) : Except SelectorError (SelectorTree × Bool) := do
  let draft ← SelectorReader.draft selector
  return (← SelectorReader.finish selector draft, draft.foldable)

/-- Reads a selector, with `:is()` and `:not()` folded where that is possible. -/
def parse (selector : String) : Except SelectorError SelectorTree := do
  let (tree, foldable) ← readUnfolded selector
  if foldable then tree.foldList.mapError .tree else return tree

end SelectorTree

end CosmeticRules
