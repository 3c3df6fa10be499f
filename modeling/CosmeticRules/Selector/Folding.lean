import CosmeticRules.Selector.Tree

/-!
Folding of `:is()` and `:not()`: where all alternatives are plain selectors, the pseudo-class becomes
part of the regular selector before it and is left to native matching.
-/

namespace CosmeticRules.SelectorTree

/-- What stands in for a lone `*` before an `:is()` or `:not()` that stays: matching those needs a
parent element, which the document element lacks. -/
def anyInsideRoot : String := "html *"

/-- A selector that is a single regular part. -/
def isPlain : SelectorTree → Bool
  | node _ [part] => part.isRegular
  | _ => false

def hasExtended (list : SelectorTree) : Bool :=
  list.children.any fun selector => selector.children.any (·.isExtended)

mutual

/-- Whether an extended part can be folded, itself or somewhere inside its first list. -/
def isFoldable : SelectorTree → Bool
  | node _ (node (.relative pseudo) (node _ selectors :: _) :: _) =>
    (pseudo.isFoldable && selectors.all isPlain) || anyFoldable selectors
  | _ => false

/-- Whether one of the selectors has a part that can be folded. -/
def anyFoldable : List SelectorTree → Bool
  | [] => false
  | node _ parts :: rest => anyPartFoldable parts || anyFoldable rest

def anyPartFoldable : List SelectorTree → Bool
  | [] => false
  | part :: rest => (part.isExtended && part.isFoldable) || anyPartFoldable rest

end

/-- The text of the last regular part, refused when it is empty. -/
def lastRegularValue (parts : List SelectorTree) : Except TreeFault String :=
  match parts.reverse.find? (·.isRegular) with
  | some part => part.requiredValue
  | none => .error .noRegular

/-- Changes the text of the first regular part. -/
def mapFirstRegular (f : String → String) : List SelectorTree → List SelectorTree
  | [] => []
  | part :: rest => if part.isRegular then part.mapValue f :: rest else part :: mapFirstRegular f rest

/-- Changes the text of the last regular part. -/
def mapLastRegular (f : String → String) (parts : List SelectorTree) : List SelectorTree :=
  (mapFirstRegular f parts.reverse).reverse

/-- Writes a pseudo-class behind the last regular part. -/
def foldInto (parts : List SelectorTree) (pseudo : PseudoClass) (list : SelectorTree) :
    Except TreeFault (List SelectorTree) := do
  let _ ← lastRegularValue parts
  let alternatives ← list.plainListText
  return mapLastRegular (· ++ s!":{pseudo.name}({alternatives})") parts

/-- Adds an extended part that stays. -/
def keepExtended (parts : List SelectorTree) (extended : SelectorTree) :
    Except TreeFault (List SelectorTree) := do
  let value ← lastRegularValue parts
  let pseudo := extended.children.head?.bind (·.pseudo?)
  if value == "*" && pseudo.any (·.isFoldable) then
    return mapLastRegular (fun _ => anyInsideRoot) parts ++ [extended]
  else return parts ++ [extended]

/-- Adds a regular part; one that follows another directly is joined to it by a space. -/
def joinRegular (parts : List SelectorTree) (regular : SelectorTree) :
    Except TreeFault (List SelectorTree) :=
  if parts.getLast?.any (·.isRegular) then do
    let _ ← lastRegularValue parts
    let value ← regular.requiredValue
    return mapLastRegular (· ++ s!" {value}") parts
  else .ok (parts ++ [regular])

/-- Adds an extended part whose inside is folded already: it disappears into the regular part before
it, or stays. -/
def settle (parts : List SelectorTree) (extended : SelectorTree) :
    Except TreeFault (List SelectorTree) :=
  match extended with
  | node _ (node (.relative pseudo) (list :: _) :: _) =>
    if pseudo.isFoldable && list.children.all isPlain then foldInto parts pseudo list
    else keepExtended parts extended
  | _ => keepExtended parts extended

mutual

/-- Folds every selector of a list. -/
def foldList : SelectorTree → Except TreeFault SelectorTree
  | node kind selectors => return node kind (← foldSelectors selectors)

def foldSelectors : List SelectorTree → Except TreeFault (List SelectorTree)
  | [] => return []
  | selector :: rest => return (← foldSelector selector) :: (← foldSelectors rest)

/-- Folds the parts of a selector after the first, which is always kept. -/
def foldSelector : SelectorTree → Except TreeFault SelectorTree
  | node kind [] => return node kind []
  | node kind (first :: rest) => return node kind (← foldParts [first] rest)

/-- Adds the parts that remain to those that are done. -/
def foldParts (done : List SelectorTree) : List SelectorTree → Except TreeFault (List SelectorTree)
  | [] => return done
  | part :: rest => do
    if part.isExtended then
      if part.isFoldable then foldParts (← settle done (← foldInside part)) rest
      else foldParts (← keepExtended done part) rest
    else if part.isRegular then foldParts (← joinRegular done part) rest
    else foldParts done rest

/-- Folds the lists of the pseudo-class of an extended part. -/
def foldInside : SelectorTree → Except TreeFault SelectorTree
  | node kind (node pseudo lists :: rest) =>
    return node kind (node pseudo (← foldLists lists) :: rest)
  | tree => return tree

def foldLists : List SelectorTree → Except TreeFault (List SelectorTree)
  | [] => return []
  | list :: rest => return (← foldList list) :: (← foldLists rest)

end

end CosmeticRules.SelectorTree
