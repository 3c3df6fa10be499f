import CosmeticRules.Selector.PseudoClass
import CosmeticRules.Selector.Error

/-!
Trees of parsed selectors. A list holds selectors; a selector is a sequence of regular parts, which
are native selector texts, and extended parts, each around one pseudo-class; a relative pseudo-class
holds a list again. The type allows every combination of kinds, because trees may also be built by
hand.
-/

namespace CosmeticRules

/-- What a node of a selector tree stands for, without its children. -/
inductive NodeKind
  | selectorList
  | selector
  | regular (value : String)
  | extended
  | absolute (pseudo : PseudoClass) (argument : String)
  | relative (pseudo : PseudoClass)
  deriving DecidableEq, Repr, Inhabited

/-- The kind of a node without the data it carries. -/
inductive NodeClass
  | selectorList
  | selector
  | regular
  | extended
  | absolute
  | relative
  deriving DecidableEq, Repr, Inhabited

def NodeKind.toClass : NodeKind → NodeClass
  | .selectorList => .selectorList
  | .selector => .selector
  | .regular _ => .regular
  | .extended => .extended
  | .absolute .. => .absolute
  | .relative _ => .relative

inductive SelectorTree
  | node (kind : NodeKind) (children : List SelectorTree)
  deriving Repr, Inhabited

namespace SelectorTree

mutual

def decEq : (s t : SelectorTree) → Decidable (s = t)
  | node kind children, node kind' children' =>
    match inferInstanceAs (Decidable (kind = kind')), decEqAll children children' with
    | isTrue same, isTrue alike => isTrue (by rw [same, alike])
    | isFalse other, _ => isFalse fun equal => other (SelectorTree.node.inj equal).1
    | _, isFalse other => isFalse fun equal => other (SelectorTree.node.inj equal).2

def decEqAll : (s t : List SelectorTree) → Decidable (s = t)
  | [], [] => isTrue rfl
  | [], _ :: _ => isFalse (by simp)
  | _ :: _, [] => isFalse (by simp)
  | s :: ss, t :: ts =>
    match decEq s t, decEqAll ss ts with
    | isTrue same, isTrue alike => isTrue (by rw [same, alike])
    | isFalse other, _ => isFalse fun equal => other (List.cons.inj equal).1
    | _, isFalse other => isFalse fun equal => other (List.cons.inj equal).2

end

instance : DecidableEq SelectorTree := decEq

def kind : SelectorTree → NodeKind
  | node kind _ => kind

def children : SelectorTree → List SelectorTree
  | node _ children => children

def leaf (kind : NodeKind) : SelectorTree := node kind []

def toClass (tree : SelectorTree) : NodeClass := tree.kind.toClass

def isRegular (tree : SelectorTree) : Bool := tree.toClass == .regular

def isExtended (tree : SelectorTree) : Bool := tree.toClass == .extended

/-- The text of a regular selector or the argument of an absolute pseudo-class. -/
def value? : SelectorTree → Option String
  | node (.regular value) _ => some value
  | node (.absolute _ argument) _ => some argument
  | _ => none

/-- Applies a function to the text that `value?` reads. -/
def mapValue (f : String → String) : SelectorTree → SelectorTree
  | node (.regular value) children => node (.regular (f value)) children
  | node (.absolute pseudo argument) children => node (.absolute pseudo (f argument)) children
  | tree => tree

/-- The text that `value?` reads, refused when it is empty. -/
def requiredValue (tree : SelectorTree) : Except TreeFault String :=
  match tree.value? with
  | some value => if value.isEmpty then .error .emptyValue else .ok value
  | none => .error .noValue

def pseudo? : SelectorTree → Option PseudoClass
  | node (.absolute pseudo _) _ => some pseudo
  | node (.relative pseudo) _ => some pseudo
  | _ => none

/-- The text of a selector that is a single regular part. -/
def plainValue : SelectorTree → Except TreeFault String
  | node _ [part] => if part.isRegular then part.requiredValue else .error .notPlain
  | _ => .error .notOneChild

/-- A list of single regular parts as text, separated by a comma and a space. -/
def plainListText (list : SelectorTree) : Except TreeFault String :=
  (list.children.mapM plainValue).map (String.intercalate ", ")

/-- The node at the end of a path of child positions. -/
def at? : SelectorTree → List Nat → Option SelectorTree
  | tree, [] => some tree
  | tree, i :: path => tree.children[i]? >>= (·.at? path)

/-- Changes the node at the end of a path; a path that leads nowhere changes nothing. -/
def modifyAt (f : SelectorTree → SelectorTree) : SelectorTree → List Nat → SelectorTree
  | tree, [] => f tree
  | node kind children, i :: path => node kind (children.modify i (fun child => child.modifyAt f path))

/-- The longest start of a path that leads to a node of the given class. -/
def closest? (target : NodeClass) : SelectorTree → List Nat → Option (List Nat)
  | tree, [] => if tree.toClass = target then some [] else none
  | tree, i :: path =>
    match tree.children[i]? >>= (·.closest? target path) with
    | some found => some (i :: found)
    | none => if tree.toClass = target then some [] else none

/-- Adds a last child. -/
def push (tree child : SelectorTree) : SelectorTree := node tree.kind (tree.children ++ [child])

@[simp] theorem kind_push (tree child : SelectorTree) : (tree.push child).kind = tree.kind := rfl

@[simp] theorem children_push (tree child : SelectorTree) :
    (tree.push child).children = tree.children ++ [child] := rfl

theorem at?_append (tree : SelectorTree) (path more : List Nat) :
    tree.at? (path ++ more) = (tree.at? path).bind (·.at? more) := by
  induction path generalizing tree with
  | nil => rfl
  | cons i path ih =>
    simp only [List.cons_append, at?]
    cases tree.children[i]? with
    | none => rfl
    | some child => exact ih child

end SelectorTree

end CosmeticRules
