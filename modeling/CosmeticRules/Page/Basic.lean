import CosmeticRules.Css.Matching
import CosmeticRules.Markup.Graft
import CosmeticRules.Page.InlineStyle
import CosmeticRules.Value

/-!
A page: its tree, the changes that are waiting to be observed, its clock, and what scripts have added
to it. Every change of the tree, of an attribute or of a style is recorded.
-/

namespace CosmeticRules

inductive MutationKind
  | childList
  | attribute (name : String)
  deriving DecidableEq, Repr, Inhabited

structure Mutation where
  target : NodeId
  kind : MutationKind
  deriving DecidableEq, Repr, Inhabited

/-- The most recent input of the user. -/
structure InputEvent where
  type : String
  time : Nat
  deriving DecidableEq, Repr, Inhabited

/-- A style rule of the page itself. -/
structure PageStyleRule where
  selector : List Css.Chain
  pseudoElement : Option String
  declarations : List Declaration
  deriving Inhabited

structure Page where
  tree : PageTree
  mutations : List Mutation := []
  now : Nat := 0
  lastInput : Option InputEvent := none
  ready : Bool := true
  styleRules : List PageStyleRule := []
  /-- Texts that scripts show in place of the real ones. -/
  textOverrides : List (NodeId × String) := []
  /-- Properties that scripts have added to elements. -/
  properties : List (NodeId × List (String × Value)) := []
  deriving Inhabited

/-- Why a change of a page is refused. -/
inductive PageError
  | cannotHaveChildren (operation : String)
  | invalidNode (operation : String)
  | wouldContainItself (operation : String)
  | notAChild
  | referenceGone
  | notAnElement (operation : String)
  | documentCannotGo
  deriving DecidableEq, Repr, Inhabited

def PageError.message : PageError → String
  | cannotHaveChildren operation => s!"{operation} target cannot have children"
  | invalidNode operation => s!"invalid {operation} node"
  | wouldContainItself operation => s!"{operation} would create a cycle"
  | notAChild => "insertBefore reference is not a direct child"
  | referenceGone => "insertBefore reference is missing"
  | notAnElement operation => s!"{operation} target is not an element"
  | documentCannotGo => "cannot remove document root"

/-- Gives a key a value in a list of pairs: in its place, or at the end if the key is new. -/
def putPair {κ α : Type} [DecidableEq κ] (key : κ) (value : α) : List (κ × α) → List (κ × α)
  | [] => [(key, value)]
  | (k, v) :: rest => if k = key then (key, value) :: rest else (k, v) :: putPair key value rest

namespace Page

/-- The page of a markup text, with the elements that every document has. -/
def ofHtml (html : String) : Except Markup.Error Page :=
  match Markup.insert .empty PageTree.root html with
  | (tree, .ok _) => .ok { tree := tree.ensureBody }
  | (_, .error e) => .error e

def record (page : Page) (target : NodeId) (kind : MutationKind) : Page :=
  { page with mutations := page.mutations ++ [⟨target, kind⟩] }

def recordChildren (page : Page) (target : NodeId) : Page := page.record target .childList

/-- The page without the changes that were waiting, and those changes. -/
def takeMutations (page : Page) : Page × List Mutation := ({ page with mutations := [] }, page.mutations)

def select (page : Page) (selector : String) : Except Css.Unsupported (List NodeId) :=
  Css.select page.tree PageTree.root selector

def elementById? (page : Page) (id : String) : Option NodeId :=
  page.tree.elements.find? fun n => page.tree.attribute? n "id" == some id

/-- The text of the style attribute. -/
def styleText (page : Page) (n : NodeId) : String := (page.tree.attribute? n "style").getD ""

/-- The value of a property in the style attribute. -/
def inlineProperty? (page : Page) (n : NodeId) (property : String) : Option String :=
  InlineStyle.value? (InlineStyle.read (page.styleText n)) property

/-- The text of a node as scripts of the page show it. -/
def visibleText (page : Page) (n : NodeId) : String :=
  match page.textOverrides.find? (·.1 == n) with
  | some (_, text) => text
  | none => page.tree.textContent n

/-- The real text of a node. -/
def nativeText (page : Page) (n : NodeId) : String := page.tree.textContent n

/-! What scripts can do. -/

def ensureElement (page : Page) (n : NodeId) (operation : String) : Except PageError Unit :=
  if page.tree.isElement n then .ok () else .error (.notAnElement operation)

/-- Whether a node can be put below another. -/
def checkInsertion (page : Page) (parent child : NodeId) (operation : String) :
    Except PageError Unit :=
  let t := page.tree
  if !t.contains parent || !t.canHaveChildren parent then .error (.cannotHaveChildren operation)
  else if child == PageTree.root || child == parent || !t.contains child then
    .error (.invalidNode operation)
  else if t.isDescendantOf parent child then .error (.wouldContainItself operation)
  else .ok ()

/-- Records a move: for the former parent, if it is another one, and for the new parent. -/
def recordMove (page : Page) (old : Option NodeId) (parent : NodeId) : Page :=
  match old with
  | some old =>
    if old = parent then page.recordChildren parent
    else (page.recordChildren old).recordChildren parent
  | none => page.recordChildren parent

inductive InsertionError
  | page (e : PageError)
  | markup (e : Markup.Error)
  deriving DecidableEq, Repr, Inhabited

/-- Adds what a markup text holds below a node. What was read before an error stays, but only success
is recorded. -/
def appendHtml (page : Page) (parent : NodeId) (html : String) :
    Page × Except InsertionError (List NodeId) :=
  if !page.tree.contains parent || !page.tree.canHaveChildren parent then
    (page, .error (.page (.cannotHaveChildren "appendHTML")))
  else
    match Markup.insert page.tree parent html with
    | (tree, .error e) => ({ page with tree }, .error (.markup e))
    | (tree, .ok created) =>
      let page := { page with tree }
      (if created.isEmpty then page else page.recordChildren parent, .ok created)

/-- Makes an element outside the document. -/
def createElement (page : Page) (tag : String) : Page × NodeId :=
  let (tree, n) := page.tree.createElement none tag []
  ({ page with tree }, n)

def appendChild (page : Page) (parent child : NodeId) : Except PageError Page := do
  page.checkInsertion parent child "appendChild"
  let moved := { page with tree := page.tree.moveLast parent child }
  return moved.recordMove (page.tree.parent? child) parent

/-- Moves a node to the place before a child of another. The place is looked up when the node has been
taken out already; if there is none, the node stays out. -/
def moveBefore (page : Page) (parent child reference : NodeId) : Page × Except PageError Unit :=
  match page.checkInsertion parent child "insertBefore" with
  | .error e => (page, .error e)
  | .ok () =>
    if page.tree.parent? reference != some parent then (page, .error .notAChild)
    else if child = reference then (page.recordChildren parent, .ok ())
    else if ((page.tree.detach child).children parent).contains reference then
      let moved := { page with tree := page.tree.moveBefore parent child reference }
      (moved.recordMove (page.tree.parent? child) parent, .ok ())
    else ({ page with tree := page.tree.detach child }, .error .referenceGone)

def insertBefore (page : Page) (parent child reference : NodeId) : Except PageError Page :=
  match page.moveBefore parent child reference with
  | (later, .ok ()) => .ok later
  | (_, .error e) => .error e

/-- Takes an element out of its parent; tells whether it had one. -/
def removeElement (page : Page) (n : NodeId) : Page × Bool :=
  match page.tree.parent? n with
  | some parent => ({ page with tree := page.tree.detach n }.recordChildren parent, true)
  | none => (page, false)

def removeNode (page : Page) (n : NodeId) : Except PageError Page :=
  if n = PageTree.root then .error .documentCannotGo else .ok (page.removeElement n).1

def setAttribute (page : Page) (n : NodeId) (name value : String) : Except PageError Page := do
  page.ensureElement n "setAttribute"
  let changed := { page with tree := page.tree.modifyElement n (·.setAttribute name value) }
  return changed.record n (.attribute (lowerName name))

def removeAttribute (page : Page) (n : NodeId) (name : String) : Except PageError Page := do
  page.ensureElement n "removeAttribute"
  if (page.tree.attribute? n name).isNone then return page
  else
    let changed := { page with tree := page.tree.modifyElement n (·.removeAttribute name) }
    return changed.record n (.attribute (lowerName name))

/-- Writes the style attribute of an element; any other node is left alone. -/
def writeStyle (page : Page) (n : NodeId) (text : String) : Page :=
  if page.tree.isElement n then
    { page with tree := page.tree.modifyElement n (·.setAttribute "style" text) }.record n
      (.attribute "style")
  else page

def setStyleText (page : Page) (n : NodeId) (text : String) : Except PageError Page := do
  page.ensureElement n "style"
  return page.writeStyle n text

def setText (page : Page) (n : NodeId) (text : String) : Except PageError Page := do
  page.ensureElement n "textContent"
  return { page with tree := page.tree.replaceChildren n text }.recordChildren n

/-- Shows a text in place of the real one. -/
def overrideText (page : Page) (n : NodeId) (text : String) : Page :=
  { page with textOverrides := putPair n text page.textOverrides }

/-- The properties that scripts have added to a node. -/
def addedProperties (page : Page) (n : NodeId) : List (String × Value) :=
  ((page.properties.find? (·.1 == n)).map (·.2)).getD []

def setProperty (page : Page) (n : NodeId) (name : String) (value : Value) :
    Except PageError Page := do
  page.ensureElement n "property"
  let added := putPair name value (page.addedProperties n)
  return { page with properties := putPair n added page.properties }

/-- A pseudo-element without its colons, in lower case. -/
def pseudoElementName (text : String) : String :=
  String.ofList (Text.asciiLower (text.toList.dropWhile (· == ':')))

def addStyleRule (page : Page) (selector : String) (pseudoElement : Option String)
    (declarations : String) : Except Css.Unsupported Page := do
  let chains ← Css.read selector
  let rule := ⟨chains, pseudoElement.map pseudoElementName, InlineStyle.read declarations⟩
  return { page with styleRules := page.styleRules ++ [rule] }

def inputEvent (page : Page) (type : String) : Page :=
  { page with lastInput := some ⟨type, page.now⟩ }

/-- The latest time a clock can show. -/
def endOfTime : Nat := UInt64.size - 1

def advance (page : Page) (milliseconds : Nat) : Page :=
  { page with now := min (page.now + milliseconds) endOfTime }

/-! Style properties. -/

def supportsProperty (page : Page) (n : NodeId) (property : String) : Bool :=
  page.tree.isElement n && InlineStyle.isPropertyName property.toList

/-- Declares a property in the style attribute of an element. -/
def setStyleProperty (page : Page) (n : NodeId) (property value : String) (isImportant : Bool) :
    Page :=
  if page.tree.isElement n then
    let value := if isImportant then s!"{value} !important" else value
    let declarations := Declaration.put property value (InlineStyle.read (page.styleText n))
    page.writeStyle n (InlineStyle.write declarations)
  else page

/-- How elements of a tag are displayed when no style says otherwise. -/
def defaultDisplay (tag : String) : String :=
  if ["head", "script", "style", "template", "title", "meta", "link", "noscript"].contains tag then
    "none"
  else if tag == "li" then "list-item"
  else if tag == "table" then "table"
  else if tag == "tr" then "table-row"
  else if tag == "td" || tag == "th" then "table-cell"
  else if ["address", "article", "aside", "blockquote", "body", "dd", "details", "div", "dl", "dt",
      "fieldset", "figcaption", "figure", "footer", "form", "h1", "h2", "h3", "h4", "h5", "h6",
      "header", "hr", "html", "main", "nav", "ol", "p", "pre", "section", "summary",
      "ul"].contains tag then "block"
  else "inline"

/-- The value of a property when no style declares it. -/
def initialValue (e : Element) (property : String) : String :=
  if property == "display" then defaultDisplay e.tag
  else if property == "visibility" then "visible"
  else if property == "opacity" then "1"
  else ""

/-- The value that the rules of the page give to a property: the last rule that declares it counts. -/
def valueByRules? (page : Page) (n : NodeId) (pseudoElement : Option String) (property : String) :
    Option String :=
  page.styleRules.reverse.findSome? fun rule =>
    if rule.pseudoElement == pseudoElement && Css.anyMatches page.tree none rule.selector n then
      InlineStyle.value? rule.declarations property
    else none

/-- The value of a property for an element, or for one of its pseudo-elements: from its style attribute,
from the rules of the page, or the initial one. -/
def computedStyle (page : Page) (n : NodeId) (pseudoElement : Option String) (property : String) :
    String :=
  match page.tree.element? n with
  | none => ""
  | some e =>
    let property := String.ofList (Text.asciiLower (Text.trim property.toList))
    match (pseudoElement.map pseudoElementName).filter (!·.isEmpty) with
    | none =>
      ((page.inlineProperty? n property).or (page.valueByRules? n none property)).getD
        (initialValue e property)
    | some pseudo => (page.valueByRules? n (some pseudo) property).getD ""

/-! Reflection. -/

/-- A hyphenated name with capitals in place of the hyphens. -/
def camelCase (capital : Bool) : List Char → List Char
  | [] => []
  | '-' :: rest => camelCase true rest
  | c :: rest => (if capital then c.toUpper else c) :: camelCase false rest

def scriptName (name : String) : String := String.ofList (camelCase false name.toList)

def datasetOf (e : Element) : Value :=
  .ofFields <| e.attributes.filterMap fun a =>
    match Text.afterStart? "data-".toList a.name.toList with
    | some key => some (String.ofList (camelCase false key), .text a.value)
    | none => none

def styleObjectOf (declarations : List Declaration) : Value :=
  .ofFields <| (declarations.map fun d => (scriptName d.property, Value.text d.value)) ++
    [("cssText", .text (InlineStyle.write declarations))]

/-- The properties of an element as a script sees them: those that every element has here, and those
that scripts have added, which count first. -/
def reflect (page : Page) (n : NodeId) : Value :=
  match page.tree.element? n with
  | none => .null
  | some e =>
    let upperTag := Value.text (String.ofList (e.tag.toList.map Char.toUpper))
    .ofFields <|
      [("tagName", upperTag), ("nodeName", upperTag), ("localName", .text e.tag),
        ("id", .text ((e.attribute? "id").getD "")),
        ("className", .text ((e.attribute? "class").getD "")),
        ("textContent", .text (page.visibleText n)),
        ("childElementCount", .int (page.tree.childElements n).length),
        ("attributes", .ofFields [("length", .int e.attributes.length)]),
        ("dataset", datasetOf e), ("style", styleObjectOf (InlineStyle.read (page.styleText n)))] ++
      page.addedProperties n

end Page

end CosmeticRules
