import CosmeticRules.Matching.Filter
import CosmeticRules.Selector.Tree
import CosmeticRules.XPath.Evaluation

/-!
Selecting the elements of a page by a selector tree. The first part of a selector is selected natively;
every further part filters the elements found so far, or leads on from them.
-/

namespace CosmeticRules

/-- The message of an error in a path expression when it is reported on its own. -/
def XPath.Error.report (e : XPath.Error) : String := s!"xpath error: {e.message}"

namespace Matching

/-- A page and the texts that are compared on it. -/
structure View where
  page : Page
  source : TextSource

/-- An element described by its tag and all its attributes. -/
def describe (e : Element) : String :=
  e.tag ++ String.join (e.attributes.map condition)
where
  quotedChar (c : Char) : List Char := if c = '\\' ∨ c = '"' then ['\\', c] else [c]
  condition (a : Attribute) : String :=
    s!"[{a.name}=\"" ++ String.ofList (a.value.toList.flatMap quotedChar) ++ "\"]"

def describeNode (t : PageTree) (n : NodeId) : String := ((t.element? n).map describe).getD ""

/-- Selects below a node by a native selector. -/
def nativeElements (page : Page) (root : NodeId) (selector : String) : Outcome (List NodeId) :=
  Logged.ofExcept ((Css.select page.tree root selector).mapError (.nativeSelector selector))

def startsWithSibling (selector : String) : Bool :=
  match selector.toList with
  | '+' :: _ | '~' :: _ => true
  | _ => false

/-- The elements that a native selector leads to from an element: its children, its siblings or all that
is below it. An element without a parent has no siblings. -/
def elementsFrom (page : Page) (selector : String) (n : NodeId) : Outcome (List NodeId) :=
  if selector.toList.head? = some '>' then nativeElements page n (":scope" ++ selector)
  else if startsWithSibling selector then
    match page.tree.parentElement? n with
    | some parent => nativeElements page parent (":scope>" ++ describeNode page.tree n ++ selector)
    | none => return []
  else nativeElements page n (":scope " ++ selector)

/-- The elements that a native selector leads to from each of some elements. -/
def following (page : Page) (part : SelectorTree) (elements : List NodeId) : Outcome (List NodeId) := do
  let selector ← Logged.ofExcept (part.requiredValue.mapError .tree)
  return (← elements.mapM (elementsFrom page selector)).flatten

/-- The greatest depth of an ancestor is below this. -/
def depthLimit : Nat := 256

/-- The number of steps upwards that a text asks for, from one on; a fraction counts as a whole step. -/
def ancestorDepth? (argument : String) : Option Nat :=
  match number? argument.toList with
  | some depth =>
    if 1 ≤ depth && depth < Float.ofNat depthLimit then
      (List.range (depthLimit + 1)).find? fun steps => depth ≤ Float.ofNat steps
    else none
  | none => none

/-- The ancestor that is so many steps up. -/
def ancestorAt? (t : PageTree) : Nat → NodeId → Option NodeId
  | 0, n => some n
  | steps + 1, n => (t.parentElement? n).bind (ancestorAt? t steps)

/-- The ancestor of each element that is so many steps up. It is logged when there is none. -/
def nthAncestors (page : Page) (pseudo : PseudoClass) (argument : String) (elements : List NodeId) :
    Outcome (List NodeId) :=
  match ancestorDepth? argument with
  | none => throw (.badTarget pseudo argument)
  | some depth => do
    let found ← elements.mapM fun n =>
      match ancestorAt? page.tree depth n with
      | some ancestor => return some ancestor
      | none => do
        Logged.write .error
          s!"Out of DOM: Argument of :{pseudo.name}() pseudo-class is too big -- '{argument}'."
        return none
    return (found.filterMap id).filter page.tree.isElement

/-- The elements that a path expression leads to from each of some elements. -/
def byPath (page : Page) (argument : String) (elements : List NodeId) : Outcome (List NodeId) := do
  if let .error _ := XPath.validate argument then throw (.badArgument .xpath argument)
  let found ← elements.mapM fun n =>
    (Logged.ofExcept (XPath.evaluate page.tree n argument)).reportAs XPath.Error.report
      fun _ => MatchError.badArgument .xpath argument
  return found.flatten

/-- The nearest ancestor of each element that a native selector selects. -/
def upward (page : Page) (argument : String) (elements : List NodeId) : Outcome (List NodeId) :=
  if (number? argument.toList).isSome then nthAncestors page .upward argument elements
  else
    let refuse {α : Type} (x : Except Css.Unsupported α) : Outcome α :=
      Logged.ofExcept (x.mapError fun _ => .badTarget .upward argument)
    do
      let _ ← refuse (page.select argument)
      let found ← elements.mapM fun n =>
        match page.tree.parentElement? n with
        | some parent => refuse (Css.closest? page.tree parent argument)
        | none => return none
      return found.filterMap id

/-- Keeps the elements that pass a test. -/
def keep (test : NodeId → Outcome Bool) : List NodeId → Outcome (List NodeId)
  | [] => return []
  | n :: rest => do
    let passes ← test n
    let kept ← keep test rest
    return if passes then n :: kept else kept

/-- What an absolute pseudo-class makes of the elements found so far. -/
def byAbsolute (view : View) (pseudo : PseudoClass) (argument : String) (elements : List NodeId) :
    Outcome (List NodeId) :=
  match pseudo with
  | .nthAncestor => nthAncestors view.page pseudo argument elements
  | .xpath => byPath view.page argument elements
  | .upward => upward view.page argument elements
  | _ =>
    match pseudo.subject? with
    | some subject => keep (passes view.page view.source subject pseudo argument) elements
    | none => return []

/-- The native selector with which an alternative in a pseudo-class starts. -/
def firstRegular (pseudo : PseudoClass) (alternative : List SelectorTree) : Except MatchError String :=
  match alternative with
  | .node (.regular value) _ :: _ => .ok value
  | _ => .error (.noRegular pseudo)

/-- A native selector below an element as an alternative of `:has()` asks for it, with the node to select
from. -/
def hasScope (t : PageTree) (pseudo : PseudoClass) (selector : String) (n : NodeId) :
    Except MatchError (NodeId × String) :=
  if startsWithSibling selector then
    match t.parentElement? n with
    | some parent => .ok (parent, ":scope>" ++ describeNode t n ++ selector)
    | none => .error (.notPossible pseudo)
  else .ok (n, ":scope " ++ selector)

/-- A native selector among the children of the parent of an element, with the parent. -/
def isScope (t : PageTree) (pseudo : PseudoClass) (selector : String) (n : NodeId) :
    Except MatchError (NodeId × String) :=
  match t.parentElement? n with
  | some parent => .ok (parent, ":scope>" ++ selector)
  | none => .error (.notPossible pseudo)

/-- An error inside a pseudo-class is logged, and the pseudo-class is blamed. -/
def blame (pseudo : PseudoClass) (selector : String) (x : Outcome (List NodeId)) :
    Outcome (List NodeId) :=
  x.reportAs MatchError.message fun _ => .badSelector pseudo selector

mutual

/-- Selects below a node by a selector; the native selector of its first part may be replaced. -/
def elementsOf (view : View) (root : NodeId) (specified : Option String) :
    SelectorTree → Outcome (List NodeId)
  | .node _ parts => elementsOfParts view root specified parts

def elementsOfParts (view : View) (root : NodeId) (specified : Option String) :
    List SelectorTree → Outcome (List NodeId)
  | [] => return []
  | first :: rest => do
    let selector ← match specified with
      | some selector => pure selector
      | none => Logged.ofExcept (first.requiredValue.mapError .tree)
    byParts view rest (← nativeElements view.page root selector)

/-- What further parts of a selector make of the elements found so far. -/
def byParts (view : View) : List SelectorTree → List NodeId → Outcome (List NodeId)
  | [], elements => return elements
  | part :: rest, elements => do byParts view rest (← byPart view part elements)

def byPart (view : View) : SelectorTree → List NodeId → Outcome (List NodeId)
  | .node .extended children, elements => byPseudo view children elements
  | .node (.regular value) children, elements =>
    following view.page (.node (.regular value) children) elements
  | _, elements => return elements

/-- What the pseudo-class in an extended part makes of the elements found so far. -/
def byPseudo (view : View) : List SelectorTree → List NodeId → Outcome (List NodeId)
  | [], _ => throw (.tree .noChildren)
  | .node (.absolute pseudo argument) children :: _, elements =>
    if pseudo.isRelative then byRelative view pseudo children elements
    else if argument.isEmpty then throw (.noArgument pseudo)
    else byAbsolute view pseudo argument elements
  | .node (.relative pseudo) children :: _, elements =>
    if pseudo.isRelative then byRelative view pseudo children elements
    else throw (.noArgument pseudo)
  | _ :: _, _ => throw .noPseudo

/-- Keeps the elements that pass a relative pseudo-class. -/
def byRelative (view : View) (pseudo : PseudoClass) :
    List SelectorTree → List NodeId → Outcome (List NodeId)
  | [], _ => throw (.noList pseudo)
  | .node _ alternatives :: _, elements =>
    keep (fun n =>
      if pseudo.isHas then hasAll view pseudo n alternatives
      else if pseudo = .is then isAny view pseudo n alternatives
      else isNone view pseudo n alternatives) elements

/-- Whether every alternative leads somewhere from an element. -/
def hasAll (view : View) (pseudo : PseudoClass) (n : NodeId) : List SelectorTree → Outcome Bool
  | [] => return true
  | .node _ parts :: rest => do
    let selector ← Logged.ofExcept (firstRegular pseudo parts)
    let (root, anchored) ← Logged.ofExcept (hasScope view.page.tree pseudo selector n)
    let found ← blame pseudo selector (elementsOfParts view root (some anchored) parts)
    if found.isEmpty then return false else hasAll view pseudo n rest

/-- Whether some alternative selects the element itself. An alternative that fails selects nothing. -/
def isAny (view : View) (pseudo : PseudoClass) (n : NodeId) : List SelectorTree → Outcome Bool
  | [] => return false
  | .node _ parts :: rest => do
    let selector ← Logged.ofExcept (firstRegular pseudo parts)
    let (root, anchored) ← Logged.ofExcept (isScope view.page.tree pseudo selector n)
    match ← (elementsOfParts view root (some anchored) parts).attempt with
    | .ok found => if found.contains n then return true else isAny view pseudo n rest
    | .error _ => isAny view pseudo n rest

/-- Whether no alternative selects the element itself. -/
def isNone (view : View) (pseudo : PseudoClass) (n : NodeId) : List SelectorTree → Outcome Bool
  | [] => return true
  | .node _ parts :: rest => do
    let selector ← Logged.ofExcept (firstRegular pseudo parts)
    let (root, anchored) ← Logged.ofExcept (isScope view.page.tree pseudo selector n)
    let found ← blame pseudo selector (elementsOfParts view root (some anchored) parts)
    if found.contains n then return false else isNone view pseudo n rest

end

/-- The elements of the document that a list of selectors selects, each once. -/
def select (view : View) (list : SelectorTree) : Outcome (List NodeId) := do
  let found ← list.children.mapM (elementsOf view PageTree.root none)
  return found.flatten.eraseDups

end Matching

end CosmeticRules
