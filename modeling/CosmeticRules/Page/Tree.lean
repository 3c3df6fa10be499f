import CosmeticRules.Text.Blank
import CosmeticRules.Text.Case

/-!
The tree of a page. Nodes stand in one array in the order of their creation and are never taken out;
each knows its parent and its children.
-/

namespace CosmeticRules

/-- The place of a node in the order of creation. -/
structure NodeId where
  index : Nat
  deriving DecidableEq, Repr, Inhabited, Hashable

structure Attribute where
  name : String
  value : String
  deriving DecidableEq, Repr, Inhabited

/-- A tag and attributes in source order. Tags and attribute names are in lower case. -/
structure Element where
  tag : String
  attributes : List Attribute
  deriving DecidableEq, Repr, Inhabited

inductive NodeContent
  | document
  | element (element : Element)
  | text (text : String)
  | comment (text : String)
  deriving DecidableEq, Repr, Inhabited

structure Node where
  parent : Option NodeId
  children : List NodeId
  content : NodeContent
  deriving DecidableEq, Repr, Inhabited

def lowerName (name : String) : String := String.ofList (Text.asciiLower name.toList)

namespace Attribute

/-- Gives an attribute a value: in its place if it is there already, and at the end if not. -/
def put (name value : String) : List Attribute → List Attribute
  | [] => [⟨name, value⟩]
  | a :: rest => if a.name = name then ⟨name, value⟩ :: rest else a :: put name value rest

end Attribute

namespace Element

def attribute? (e : Element) (name : String) : Option String :=
  (e.attributes.find? (·.name == name)).map (·.value)

def setAttribute (e : Element) (name value : String) : Element :=
  { e with attributes := Attribute.put (lowerName name) value e.attributes }

def removeAttribute (e : Element) (name : String) : Element :=
  { e with attributes := e.attributes.filter (·.name != lowerName name) }

def hasClass (e : Element) (name : String) : Bool :=
  match e.attribute? "class" with
  | some classes => (Text.fields classes.toList).any (String.ofList · == name)
  | none => false

end Element

structure PageTree where
  nodes : Array Node
  deriving Repr, Inhabited

namespace PageTree

/-- The tree that holds just the document. -/
def empty : PageTree := ⟨#[⟨none, [], .document⟩]⟩

/-- The document, which is the first node. -/
def root : NodeId := ⟨0⟩

def size (t : PageTree) : Nat := t.nodes.size

def node? (t : PageTree) (n : NodeId) : Option Node := t.nodes[n.index]?

def contains (t : PageTree) (n : NodeId) : Bool := n.index < t.size

def modifyNode (t : PageTree) (n : NodeId) (f : Node → Node) : PageTree :=
  ⟨t.nodes.modify n.index f⟩

def content? (t : PageTree) (n : NodeId) : Option NodeContent := (t.node? n).map (·.content)

def element? (t : PageTree) (n : NodeId) : Option Element :=
  match t.content? n with
  | some (.element e) => some e
  | _ => none

def isElement (t : PageTree) (n : NodeId) : Bool := (t.element? n).isSome

def tag? (t : PageTree) (n : NodeId) : Option String := (t.element? n).map (·.tag)

def parent? (t : PageTree) (n : NodeId) : Option NodeId := t.node? n >>= (·.parent)

def parentElement? (t : PageTree) (n : NodeId) : Option NodeId := (t.parent? n).filter t.isElement

def children (t : PageTree) (n : NodeId) : List NodeId :=
  match t.node? n with
  | some node => node.children
  | none => []

def childElements (t : PageTree) (n : NodeId) : List NodeId := (t.children n).filter t.isElement

def attribute? (t : PageTree) (n : NodeId) (name : String) : Option String :=
  (t.element? n).bind (·.attribute? (lowerName name))

def canHaveChildren (t : PageTree) (n : NodeId) : Bool :=
  match t.content? n with
  | some .document => true
  | some (.element _) => true
  | _ => false

/-! Walks. A path in the tree has no more nodes than the tree, so the count with which each walk
starts never stops it early. -/

/-- The nodes met by repeating a step, for at most so many times. -/
def iterate (step : NodeId → Option NodeId) : Nat → NodeId → List NodeId
  | 0, _ => []
  | count + 1, n =>
    match step n with
    | some next => next :: iterate step count next
    | none => []

/-- The proper ancestors, the parent first. -/
def ancestors (t : PageTree) (n : NodeId) : List NodeId := iterate t.parent? t.size n

/-- The element ancestors up to the first that is not an element, the parent first. -/
def ancestorElements (t : PageTree) (n : NodeId) : List NodeId := iterate t.parentElement? t.size n

def isDescendantOf (t : PageTree) (n ancestor : NodeId) : Bool := (t.ancestors n).contains ancestor

def isConnected (t : PageTree) (n : NodeId) : Bool := n == root || t.isDescendantOf n root

/-- A node and everything below it in document order, down to the given depth. -/
def subtreeTo (t : PageTree) : Nat → NodeId → List NodeId
  | 0, _ => []
  | depth + 1, n => n :: (t.children n).flatMap (t.subtreeTo depth)

def subtree (t : PageTree) (n : NodeId) : List NodeId := t.subtreeTo t.size n

/-- Everything below a node in document order. -/
def descendants (t : PageTree) (n : NodeId) : List NodeId := (t.children n).flatMap t.subtree

def descendantElements (t : PageTree) (n : NodeId) : List NodeId :=
  (t.descendants n).filter t.isElement

/-- All elements of the document in document order. -/
def elements (t : PageTree) : List NodeId := t.descendantElements root

def documentElement? (t : PageTree) : Option NodeId := (t.childElements root).head?

def body? (t : PageTree) : Option NodeId := do
  (t.childElements (← t.documentElement?)).find? fun n => t.tag? n == some "body"

/-- The text of a single node. -/
def ownText (t : PageTree) (n : NodeId) : String :=
  match t.content? n with
  | some (.text text) => text
  | _ => ""

/-- The texts at and below a node, joined; comments do not count. -/
def textContent (t : PageTree) (n : NodeId) : String := String.join ((t.subtree n).map t.ownText)

/-- The element siblings before a node, the nearest first. -/
def previousElements (t : PageTree) (n : NodeId) : List NodeId :=
  match t.parent? n with
  | none => []
  | some parent =>
    let siblings := t.children parent
    if siblings.contains n then ((siblings.takeWhile (· != n)).filter t.isElement).reverse else []

/-- The element siblings after a node, the nearest first. -/
def nextElements (t : PageTree) (n : NodeId) : List NodeId :=
  match t.parent? n with
  | none => []
  | some parent => (((t.children parent).dropWhile (· != n)).drop 1).filter t.isElement

def previousElement? (t : PageTree) (n : NodeId) : Option NodeId := (t.previousElements n).head?

def nextElement? (t : PageTree) (n : NodeId) : Option NodeId := (t.nextElements n).head?

/-! Changes. -/

/-- Adds a node, as the last child of its parent if it has one. -/
def create (t : PageTree) (parent : Option NodeId) (content : NodeContent) : PageTree × NodeId :=
  let n : NodeId := ⟨t.size⟩
  let t : PageTree := ⟨t.nodes.push ⟨parent, [], content⟩⟩
  match parent with
  | some p => (t.modifyNode p fun node => { node with children := node.children ++ [n] }, n)
  | none => (t, n)

def createElement (t : PageTree) (parent : Option NodeId) (tag : String)
    (attributes : List Attribute) : PageTree × NodeId :=
  t.create parent (.element ⟨lowerName tag, attributes⟩)

/-- Takes a node out of its parent. -/
def detach (t : PageTree) (n : NodeId) : PageTree :=
  match t.parent? n with
  | none => t
  | some parent =>
    (t.modifyNode parent fun node => { node with children := node.children.filter (· != n) }).modifyNode
      n fun node => { node with parent := none }

/-- Moves a node to the end of the children of another. -/
def moveLast (t : PageTree) (parent child : NodeId) : PageTree :=
  ((t.detach child).modifyNode child fun node => { node with parent := some parent }).modifyNode
    parent fun node => { node with children := node.children ++ [child] }

/-- Puts an item before the first occurrence of another. -/
def insertBeforeIn (item reference : NodeId) : List NodeId → List NodeId
  | [] => []
  | n :: rest => if n = reference then item :: n :: rest else n :: insertBeforeIn item reference rest

/-- Moves a node to the place before one of the children of another. -/
def moveBefore (t : PageTree) (parent child reference : NodeId) : PageTree :=
  ((t.detach child).modifyNode child fun node => { node with parent := some parent }).modifyNode
    parent fun node => { node with children := insertBeforeIn child reference node.children }

/-- Takes all children out of a node. -/
def clearChildren (t : PageTree) (n : NodeId) : PageTree :=
  ((t.children n).foldl (fun t child => t.modifyNode child fun node => { node with parent := none })
    t).modifyNode n fun node => { node with children := [] }

/-- Puts a single text in place of the children of a node, or nothing if the text is empty. -/
def replaceChildren (t : PageTree) (n : NodeId) (text : String) : PageTree :=
  let t := t.clearChildren n
  if text.isEmpty then t else (t.create (some n) (.text text)).1

def modifyElement (t : PageTree) (n : NodeId) (f : Element → Element) : PageTree :=
  t.modifyNode n fun node =>
    match node.content with
    | .element e => { node with content := .element (f e) }
    | _ => node

/-- Whether a node is an element, or a text that is not blank. -/
def isMeaningful (t : PageTree) (n : NodeId) : Bool :=
  match t.content? n with
  | some (.element _) => true
  | some (.text text) => !(Text.trim text.toList).isEmpty
  | _ => false

/-- The root element `html`, made around the meaningful top-level nodes if the document has none. -/
def ensureHtml (t : PageTree) : PageTree × NodeId :=
  let wrap (t : PageTree) :=
    let loose := (t.children root).filter t.isMeaningful
    let (t, html) := t.createElement (some root) "html" []
    (loose.foldl (fun t child => t.moveLast html child) t, html)
  match t.documentElement? with
  | some element => if t.tag? element == some "html" then (t, element) else wrap t
  | none => wrap t

/-- Makes a body around everything in the root element but its head, if there is none. -/
def ensureBody (t : PageTree) : PageTree :=
  match t.body? with
  | some _ => t
  | none =>
    let (t, html) := t.ensureHtml
    let loose := (t.children html).filter fun n => t.tag? n != some "head"
    let (t, body) := t.createElement (some html) "body" []
    loose.foldl (fun t child => t.moveLast body child) t

end PageTree

end CosmeticRules
