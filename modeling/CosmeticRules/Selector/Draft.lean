import CosmeticRules.Selector.Tree

/-!
A selector tree under construction: the tree so far, the path to the open node, which takes the next
token, and the brackets and names that are still to be closed.
-/

namespace CosmeticRules

structure Draft where
  tree : Option SelectorTree := none
  /-- Child positions from the root to the open node. -/
  path : List Nat := []
  /-- Names of the extended pseudo-classes that are open, the innermost first. -/
  pseudoNames : List String := []
  pseudoBrackets : Nat := 0
  /-- Names of the native pseudo-classes with an argument that are open, the innermost first. -/
  nativeNames : List String := []
  nativeBrackets : Nat := 0
  inAttribute : Bool := false
  /-- Text of the attribute condition so far. -/
  attributeText : String := ""
  inPattern : Bool := false
  /-- Whether a pseudo-class was read that folding can remove. -/
  foldable : Bool := false
  deriving Repr, Inhabited

namespace Draft

def nodeAt? (d : Draft) (path : List Nat) : Option SelectorTree := d.tree.bind (·.at? path)

/-- The open node. -/
def open? (d : Draft) : Option SelectorTree := d.nodeAt? d.path

def openClass? (d : Draft) : Option NodeClass := d.open?.map (·.toClass)

/-- The class of the node around the open one. -/
def parentClass? (d : Draft) : Option NodeClass :=
  if d.path.isEmpty then none else (d.nodeAt? d.path.dropLast).map (·.toClass)

def openPseudo? (d : Draft) : Option PseudoClass := d.open?.bind (·.pseudo?)

def openValue (d : Draft) : String := (d.open?.bind (·.value?)).getD ""

/-- Adds a last child to the open node and opens it. -/
def add (kind : NodeKind) (d : Draft) : Except SelectorError Draft :=
  match d.tree, d.open? with
  | some tree, some parent =>
    .ok { d with
      tree := some (tree.modifyAt (·.push (.leaf kind)) d.path)
      path := d.path ++ [parent.children.length] }
  | _, _ => .error .noParent

def addRegular (value : String) (d : Draft) : Except SelectorError Draft := d.add (.regular value)

/-- Opens a selector with one regular part below the open node. -/
def addSelector (value : String) (d : Draft) : Except SelectorError Draft := do
  let d ← d.add .selector
  d.addRegular value

/-- Starts the tree with one regular part. -/
def start (value : String) (d : Draft) : Except SelectorError Draft :=
  { d with tree := some (.leaf .selectorList), path := [] }.addSelector value

/-- Opens a list of selectors below a relative pseudo-class. -/
def addList (value : String) (d : Draft) : Except SelectorError Draft := do
  let d ← d.add .selectorList
  d.addSelector value

/-- Opens the closest node of the given class on the path, if there is one. -/
def ascend (target : NodeClass) (d : Draft) : Draft :=
  match d.tree.bind (·.closest? target d.path) with
  | some path => { d with path }
  | none => d

/-- Adds text to the value of the open node, and to the attribute condition if one is open. -/
def write (text : String) (d : Draft) : Except SelectorError Draft :=
  match d.tree, d.open? with
  | some tree, some node =>
    if node.value?.isNone then .error .openHasNoValue
    else .ok { d with
      tree := some (tree.modifyAt (·.mapValue (· ++ text)) d.path)
      attributeText :=
        if node.isRegular && d.inAttribute then d.attributeText ++ text else d.attributeText }
  | _, _ => .error .nothingOpen

/-- Opens the last regular part of the selector that is open. -/
def reopenRegular (d : Draft) : Except SelectorError Draft :=
  match d.open? with
  | none => .error .nothingToContinue
  | some (.node .selector children) =>
    match children.reverse.findIdx? (·.isRegular) with
    | some back => .ok { d with path := d.path ++ [children.length - 1 - back] }
    | none => .error (.tree .noRegular)
  | some _ => .error .notInSelector

/-- Whether an extended part that comes last is still open: a relative pseudo-class while its brackets
are, an absolute one while its name is the innermost. -/
def isUnclosed (d : Draft) (pseudo : PseudoClass) : Bool :=
  (pseudo.isRelative && d.pseudoBrackets > 0 && d.pseudoBrackets == d.pseudoNames.length) ||
    (pseudo.isAbsolute && d.pseudoNames.head? == some pseudo.name)

/-- Finds the node with which a combinator continues: the list that a pseudo-class has just opened, an
unclosed pseudo-class, or the last regular part. -/
def resume (d : Draft) : Except SelectorError Draft :=
  if d.openClass? == some .selectorList && d.parentClass? == some .relative then .ok d
  else
    let d := d.ascend .selector
    match d.open? with
    | none => .error .noSelector
    | some selector =>
      match selector.children.getLast? with
      | some (.node .extended parts) =>
        if d.nativeBrackets == 0 then
          match parts.head?.bind (·.pseudo?) with
          | some pseudo =>
            if d.isUnclosed pseudo then
              .ok { d with path := d.path ++ [selector.children.length - 1, 0] }
            else .ok d
          | none => .ok d
        else d.reopenRegular
      | _ => d.reopenRegular

/-- Leaves the argument of a pseudo-class. -/
def closePseudo (d : Draft) : Draft :=
  ({ d with
      pseudoBrackets := d.pseudoBrackets - 1
      pseudoNames := d.pseudoNames.tail }.ascend .extended).ascend .selector

end Draft

end CosmeticRules
