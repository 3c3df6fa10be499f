import CosmeticRules.Page.Tree
import CosmeticRules.Text.Search
import CosmeticRules.XPath.Reader

/-!
The value of a path expression at a place of a page. Node sets are lists in document order without
repetitions.
-/

namespace CosmeticRules.XPath

open Text

/-- What a node set holds: a node of the page, or an attribute of an element. -/
inductive Item
  | node (n : NodeId)
  | attributeOf (owner : NodeId) (name : String)
  deriving DecidableEq, Repr, Inhabited

inductive Result
  | items (items : List Item)
  | text (text : List Char)
  | number (value : Float)
  | truth (holds : Bool)
  deriving Inhabited

/-- An item among the items that a predicate is asked about. -/
structure Place where
  item : Item
  position : Nat
  size : Nat
  deriving DecidableEq, Repr, Inhabited

/-- A page tree with the connected nodes in document order. -/
structure Document where
  tree : PageTree
  order : List NodeId

def Document.ofTree (tree : PageTree) : Document := ⟨tree, tree.subtree PageTree.root⟩

namespace Item

/-- The node, or the element that has the attribute. -/
def holder : Item → NodeId
  | node n => n
  | attributeOf owner _ => owner

def attributeName? : Item → Option String
  | node _ => none
  | attributeOf _ name => some name

/-- Whether an item may stand before another in document order: an element stands before its attributes,
and these are in the order of their names. Nodes outside the document come last. -/
def le (d : Document) (a b : Item) : Bool :=
  let rank (x : Item) := d.order.idxOf x.holder
  if rank a = rank b then
    match a.attributeName?, b.attributeName? with
    | none, _ => true
    | some _, none => false
    | some first, some second => !decide (second < first)
  else rank a < rank b

def sorted (d : Document) (items : List Item) : List Item := (items.mergeSort (le d)).eraseReps

def stringValue (t : PageTree) : Item → List Char
  | node n =>
    match t.content? n with
    | some (.comment text) => text.toList
    | _ => (t.textContent n).toList
  | attributeOf owner name => ((t.attribute? owner name).getD "").toList

/-- The tag of an element, the name of an attribute, and nothing for any other node. -/
def name (t : PageTree) : Item → String
  | node n => (t.tag? n).getD ""
  | attributeOf _ name => name

end Item

/-- The siblings after a node in document order. -/
def followingSiblings (t : PageTree) (n : NodeId) : List NodeId :=
  match t.parent? n with
  | some parent => ((t.children parent).dropWhile (· != n)).drop 1
  | none => []

/-- The siblings before a node, the nearest first. -/
def precedingSiblings (t : PageTree) (n : NodeId) : List NodeId :=
  match t.parent? n with
  | some parent =>
    let siblings := t.children parent
    if siblings.contains n then (siblings.takeWhile (· != n)).reverse else []
  | none => []

namespace Axis

/-- The items on an axis. The axes that go backwards give the nearest item first, so that positions count
from where the axis starts. -/
def items (t : PageTree) (axis : Axis) : Item → List Item
  | .node n =>
    match axis with
    | child => (t.children n).map .node
    | descendant => (t.descendants n).map .node
    | descendantOrSelf => (n :: t.descendants n).map .node
    | parent => (t.parent? n).toList.map .node
    | ancestor => (t.ancestors n).map .node
    | ancestorOrSelf => (n :: t.ancestors n).map .node
    | followingSibling => (followingSiblings t n).map .node
    | precedingSibling => (precedingSiblings t n).map .node
    | self => [.node n]
    | attributes =>
      match t.element? n with
      | some e => e.attributes.map fun a => .attributeOf n a.name
      | none => []
  | .attributeOf owner name =>
    match axis with
    | parent => [.node owner]
    | ancestor => (owner :: t.ancestors owner).map .node
    | ancestorOrSelf => .attributeOf owner name :: (owner :: t.ancestors owner).map .node
    | self => [.attributeOf owner name]
    | _ => []

end Axis

/-- Whether an item found on an axis passes a node test. Names and the star select elements, and attributes
only on the axis of attributes. -/
def NodeTest.accepts (t : PageTree) (axis : Axis) (test : NodeTest) : Item → Bool
  | .attributeOf _ found =>
    match test with
    | name expected => axis == .attributes && found == expected
    | any => axis == .attributes
    | node => true
    | text => false
  | .node n =>
    match test, t.content? n with
    | node, _ => true
    | text, some (.text _) => true
    | any, some (.element _) => true
    | name expected, some (.element e) => e.tag == expected
    | _, _ => false

namespace Result

/-- The text of a number: whole numbers below 10^15 without a sign of zero, any other in full. -/
def numberText (x : Float) : List Char :=
  if x.isNaN then ['N', 'a', 'N']
  else if Binary64.isWhole x && x.abs < 1e15 then
    if x == 0 then ['0'] else Binary64.wholeText x
  else Binary64.plainText x

def toText (t : PageTree) : Result → List Char
  | items found =>
    match found with
    | first :: _ => first.stringValue t
    | [] => []
  | text s => s
  | number x => numberText x
  | truth b => if b then "true".toList else "false".toList

/-- The number that a text denotes; not-a-number if it denotes none. -/
def numberOfText (s : List Char) : Float := (Binary64.read? (trim s)).getD (0 / 0)

def toNumber (t : PageTree) : Result → Float
  | number x => x
  | truth b => if b then 1 else 0
  | other => numberOfText (other.toText t)

def toTruth : Result → Bool
  | items found => !found.isEmpty
  | text s => !s.isEmpty
  | number x => x != 0 && !x.isNaN
  | truth b => b

def isTruth : Result → Bool
  | truth _ => true
  | _ => false

def isNumber : Result → Bool
  | number _ => true
  | _ => false

/-- Whether two values are equal: as truth values if one is one, else as numbers if one is one, else as
texts. -/
def equal (t : PageTree) (a b : Result) : Bool :=
  if a.isTruth || b.isTruth then a.toTruth == b.toTruth
  else if a.isNumber || b.isNumber then a.toNumber t == b.toNumber t
  else a.toText t == b.toText t

end Result

/-- Compares two values that are not node sets. -/
def Comparison.holdsOfSingle (t : PageTree) (c : Comparison) (a b : Result) : Bool :=
  match c with
  | equal => a.equal t b
  | notEqual => !a.equal t b
  | less => a.toNumber t < b.toNumber t
  | lessEqual => a.toNumber t ≤ b.toNumber t
  | greater => a.toNumber t > b.toNumber t
  | greaterEqual => a.toNumber t ≥ b.toNumber t

/-- Compares two values. A node set stands for each of its items in turn, except beside a truth value. -/
def Comparison.holds (t : PageTree) (c : Comparison) (a b : Result) : Bool :=
  let texts (found : List Item) := found.map fun item => Result.text (item.stringValue t)
  match a, b with
  | .items found, .truth expected => c.holdsOfSingle t (.truth !found.isEmpty) (.truth expected)
  | .truth expected, .items found => c.holdsOfSingle t (.truth !found.isEmpty) (.truth expected)
  | .items left, .items right =>
    (texts left).any fun l => (texts right).any fun r => c.holdsOfSingle t l r
  | .items left, other => (texts left).any fun l => c.holdsOfSingle t l other
  | other, .items right => (texts right).any fun r => c.holdsOfSingle t other r
  | left, right => c.holdsOfSingle t left right

/-- The value of a call. Only the arguments that the function uses count, also for their errors. -/
def call (t : PageTree) (place : Place) (function : String)
    (arguments : List (Except Error Result)) : Except Error Result :=
  let argument (index : Nat) : Except Error Result :=
    arguments.getD index (.error (.missingArgument function))
  let textOrItem : Except Error (List Char) :=
    match arguments with
    | [] => .ok (place.item.stringValue t)
    | first :: _ => first.map (·.toText t)
  match function with
  | "last" => .ok (.number (Float.ofNat place.size))
  | "position" => .ok (.number (Float.ofNat place.position))
  | "count" => do
    match ← argument 0 with
    | .items found => return .number (Float.ofNat found.length)
    | _ => throw .countOfOthers
  | "not" => do return .truth !(← argument 0).toTruth
  | "true" => .ok (.truth true)
  | "false" => .ok (.truth false)
  | "boolean" => do return .truth (← argument 0).toTruth
  | "number" => do return .number ((← argument 0).toNumber t)
  | "string" => textOrItem.map .text
  | "contains" => do
    let whole := (← argument 0).toText t
    return .truth (occursIn ((← argument 1).toText t) whole)
  | "starts-with" => do
    let whole := (← argument 0).toText t
    return .truth (((← argument 1).toText t).isPrefixOf whole)
  | "concat" => do
    let parts ← arguments.mapM id
    return .text (parts.flatMap (·.toText t))
  | "normalize-space" => textOrItem.map fun s => .text (joinWith [' '] (fields s))
  | "string-length" => textOrItem.map fun s => .number (Float.ofNat s.length)
  | "name" | "local-name" =>
    match arguments with
    | [] => .ok (.text (place.item.name t).toList)
    | first :: _ => do
      match ← first with
      | .items (item :: _) => return .text (item.name t).toList
      | .items [] => return .text []
      | _ => throw (.nameOfOthers function)
  | _ => .error (.unknownFunction function)

/-- Keeps the items that pass a test; the test also gets the position, which starts at the given one. -/
def keepItems (test : Nat → Item → Except Error Bool) : Nat → List Item → Except Error (List Item)
  | _, [] => .ok []
  | position, item :: rest => do
    let passes ← test position item
    let kept ← keepItems test (position + 1) rest
    return if passes then item :: kept else kept

/-- A predicate holds if its value is the number of the position, or if its value counts as true. -/
def predicateHolds (position : Nat) : Result → Bool
  | .number x => x == Float.ofNat position
  | other => other.toTruth

mutual

def Expr.value (d : Document) (place : Place) : Expr → Except Error Result
  | .literal text => .ok (.text text.toList)
  | .number value => .ok (.number value.toFloat)
  | .or left right => do
    if (← left.value d place).toTruth then return .truth true
    else return .truth (← right.value d place).toTruth
  | .and left right => do
    if (← left.value d place).toTruth then return .truth (← right.value d place).toTruth
    else return .truth false
  | .compare left c right => do
    let a ← left.value d place
    let b ← right.value d place
    return .truth (c.holds d.tree a b)
  | .union left right => do
    let a ← left.value d place
    let b ← right.value d place
    match a, b with
    | .items l, .items r => return .items (Item.sorted d (l ++ r))
    | _, _ => throw .unionOfOthers
  | .path absolute steps => do
    let start := if absolute then .node PageTree.root else place.item
    return .items (← walk d steps [start])
  | .call function arguments => call d.tree place function (argumentValues d place arguments)

/-- The values of the arguments of a call, each with its own error. -/
def argumentValues (d : Document) (place : Place) : List Expr → List (Except Error Result)
  | [] => []
  | argument :: rest => argument.value d place :: argumentValues d place rest

/-- The items that a sequence of steps reaches. -/
def walk (d : Document) : List Step → List Item → Except Error (List Item)
  | [], items => .ok items
  | .mk axis test predicates :: rest, items => do
    let reached ← items.mapM fun item =>
      filtered d predicates ((axis.items d.tree item).filter (test.accepts d.tree axis))
    walk d rest (Item.sorted d reached.flatten)

/-- The items that pass one predicate after another; each counts the positions anew. -/
def filtered (d : Document) : List Expr → List Item → Except Error (List Item)
  | [], items => .ok items
  | predicate :: rest, items => do
    let kept ← keepItems (fun position item => do
      return predicateHolds position (← predicate.value d ⟨item, position, items.length⟩)) 1 items
    filtered d rest kept

end

/-- The elements in the node set that an expression denotes at a node, in document order. -/
def evaluate (t : PageTree) (n : NodeId) (text : String) : Except Error (List NodeId) := do
  let expression ← Expr.read text
  match ← expression.value (.ofTree t) ⟨.node n, 1, 1⟩ with
  | .items found =>
    return found.filterMap fun
      | .node n => if t.isElement n then some n else none
      | .attributeOf _ _ => none
  | _ => throw (.notNodes text)

/-- Checks that a text is a path expression. -/
def validate (text : String) : Except Error Unit := do
  let _ ← Expr.read text

end CosmeticRules.XPath
