import CosmeticRules.Matching.Reflected
import CosmeticRules.Matching.StyleValue
import CosmeticRules.Page.Basic
import CosmeticRules.Selector.Reader

/-!
Whether an element passes an absolute pseudo-class that compares its text, style, attributes or
properties.
-/

namespace CosmeticRules

/-- Which text of an element is compared: the one that scripts of the page show, or the real one. -/
inductive TextSource
  | visible
  | native
  deriving DecidableEq, Repr, Inhabited

def Page.textFrom (page : Page) (source : TextSource) (n : NodeId) : String :=
  match source with
  | .visible => page.visibleText n
  | .native => page.nativeText n

/-- What an absolute pseudo-class compares, if it filters elements one by one. -/
def PseudoClass.subject? : PseudoClass → Option MatchSubject
  | .contains | .hasText | .abpContains => some .text
  | .matchesCss | .matchesCssBefore | .matchesCssAfter => some .style
  | .matchesAttr => some .attributes
  | .matchesProperty => some .properties
  | _ => none

namespace Matching

open Text

abbrev Outcome := Logged MatchError

/-- Logs an error on its way. -/
def reported {α : Type} (x : Except MatchError α) : Outcome α :=
  (Logged.ofExcept x).reportAs MatchError.message id

/-- Whether a text contains what the argument says: a pattern in slashes, or a plain text. -/
def textMatches (pseudo : PseudoClass) (argument text : String) : Except MatchError Bool :=
  match patternLiteral? argument.toList with
  | some (pattern, flags) =>
    let read := do Pattern.read (← Pattern.readFlags flags) (unescape ['\\', '"'] pattern)
    match read with
    | .ok p => (p.occursIn text.toList).mapError .pattern
    | .error _ => .error (.badTextPattern pseudo argument)
  | none => .ok (Text.occursIn (unescape protectedSigns argument.toList) text.toList)

/-- The pseudo-element in front of a declaration, and the declaration. -/
def styleArgument (pseudo : PseudoClass) (argument : String) :
    Except MatchError (Option String × List Char) :=
  let (head, rest) := splitArgument ',' argument.toList
  let head := String.ofList head
  let (pseudoElement, declaration) :=
    if SelectorReader.pseudoElements.contains head then (some ("::" ++ head), rest.getD [])
    else (none, argument.toList)
  if declaration.isEmpty then .error (.noStyle pseudo argument) else .ok (pseudoElement, declaration)

/-- Whether the computed value of a property is as the argument says. -/
def styleMatches (page : Page) (n : NodeId) (pseudo : PseudoClass) (argument : String) :
    Outcome Bool := do
  let (pseudoElement, declaration) ← Logged.ofExcept (styleArgument pseudo argument)
  match splitArgument ':' declaration with
  | (property, some value) =>
    if property.isEmpty || value.isEmpty then
      throw (.noStyleValue pseudo (String.ofList declaration))
    let pattern ← (Logged.ofExcept (stylePattern value)).reportAs
      (fun e => (MatchError.pattern e).message) fun _ => .badArgument pseudo (String.ofList declaration)
    let actual := page.computedStyle n pseudoElement (String.ofList property)
    Logged.ofExcept ((pattern.occursIn (comparedValue property actual)).mapError .pattern)
  | (_, none) => throw (.noStyleValue pseudo (String.ofList declaration))

/-- The name in an argument, and the value after the equals sign if there is one. -/
def nameAndValue (pseudo : PseudoClass) (argument : String) :
    Except MatchError (List Char × Option (List Char)) :=
  let (name, value) := splitArgument '=' argument.toList
  if name.isEmpty then .error (.noName pseudo argument) else .ok (name, value.filter (!·.isEmpty))

/-- Whether an attribute has the name, and the value if one is given. -/
def attributesMatch (e : Element) (pseudo : PseudoClass) (argument : String) : Outcome Bool := do
  if e.attributes.isEmpty then return false
  let (name, value) ← Logged.ofExcept (nameAndValue pseudo argument)
  let name ← reported (Matcher.read false name)
  let value ← value.mapM fun raw => reported (Matcher.read false raw)
  Logged.ofExcept <| e.attributes.anyM fun a => do
    if ← name.accepts a.name.toList then value.toList.allM (·.accepts a.value.toList)
    else return false

/-- Whether a chain of names leads to a property, with the value if one is given. -/
def propertiesMatch (page : Page) (n : NodeId) (pseudo : PseudoClass) (argument : String) :
    Outcome Bool := do
  let (name, value) ← Logged.ofExcept (nameAndValue pseudo argument)
  if Text.occursIn ['\\', '/'] name || Text.occursIn ['\\', '.'] name then
    throw (.badName pseudo (String.ofList name))
  let chain ← (readChain name).reportAs MatchError.message id
  let found ← Logged.ofExcept (reached chain (page.reflect n))
  if found.isEmpty then return false
  match value with
  | none => return true
  | some raw => Logged.ofExcept (anyAccepted (← reported (Matcher.read false raw)) found)

/-- Whether an element passes a pseudo-class that compares the given part of it. -/
def passes (page : Page) (source : TextSource) (subject : MatchSubject) (pseudo : PseudoClass)
    (argument : String) (n : NodeId) : Outcome Bool :=
  let outcome :=
    match subject with
    | .text => Logged.ofExcept (textMatches pseudo argument (page.textFrom source n))
    | .style => styleMatches page n pseudo argument
    | .attributes =>
      match page.tree.element? n with
      | some e => attributesMatch e pseudo argument
      | none => return false
    | .properties => propertiesMatch page n pseudo argument
  outcome.reportAs MatchError.message fun _ => .element subject pseudo argument

end Matching

end CosmeticRules
