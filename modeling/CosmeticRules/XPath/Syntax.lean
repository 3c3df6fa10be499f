import CosmeticRules.XPath.Token

/-!
Path expressions.
-/

namespace CosmeticRules.XPath

inductive Axis
  | child
  | descendant
  | descendantOrSelf
  | parent
  | ancestor
  | ancestorOrSelf
  | followingSibling
  | precedingSibling
  | self
  | attributes
  deriving DecidableEq, Repr, Inhabited

namespace Axis

def all : List Axis :=
  [child, descendant, descendantOrSelf, parent, ancestor, ancestorOrSelf, followingSibling,
    precedingSibling, self, attributes]

def name : Axis → String
  | child => "child"
  | descendant => "descendant"
  | descendantOrSelf => "descendant-or-self"
  | parent => "parent"
  | ancestor => "ancestor"
  | ancestorOrSelf => "ancestor-or-self"
  | followingSibling => "following-sibling"
  | precedingSibling => "preceding-sibling"
  | self => "self"
  | attributes => "attribute"

def ofName? (name : String) : Option Axis := all.find? (·.name == name)

end Axis

inductive NodeTest
  | name (name : String)
  | any
  | text
  | node
  deriving DecidableEq, Repr, Inhabited

mutual

inductive Step
  | mk (axis : Axis) (test : NodeTest) (predicates : List Expr)

inductive Expr
  | or (left right : Expr)
  | and (left right : Expr)
  | compare (left : Expr) (comparison : Comparison) (right : Expr)
  | union (left right : Expr)
  | path (absolute : Bool) (steps : List Step)
  | literal (text : String)
  | number (value : Decimal)
  | call (function : String) (arguments : List Expr)

end

instance : Inhabited Expr := ⟨.literal ""⟩

/-- The step that a double slash stands for. -/
def Step.anyDepth : Step := .mk .descendantOrSelf .node []

end CosmeticRules.XPath
