/-!
Native selectors. A compound selector is a list of simple ones that all hold of one element; a chain
relates compound selectors from left to right, and the last one is that of the selected element.
-/

namespace CosmeticRules.Css

/-- How an element is related to the one on its left in a chain. -/
inductive Combinator
  | descendant
  | child
  | nextSibling
  | laterSibling
  deriving DecidableEq, Repr, Inhabited

inductive AttributeOperator
  | equals
  | startsWith
  | endsWith
  | contains
  | includes
  | dashMatch
  deriving DecidableEq, Repr, Inhabited

inductive AttributeTest
  | has (key : String)
  | compare (key : String) (operator : AttributeOperator) (value : String) (ignoreCase : Bool)
  deriving DecidableEq, Repr, Inhabited

/-- Positions: a single one, every second one, or those of the form `a * n + b` with `n ≥ 0`. -/
inductive Nth
  | exact (position : Nat)
  | odd
  | even
  | linear (a b : Int64)
  deriving DecidableEq, Repr, Inhabited

/-- Which siblings are counted, and from which end. -/
inductive Counting
  | fromFirst
  | fromLast
  | ofTypeFromFirst
  | ofTypeFromLast
  deriving DecidableEq, Repr, Inhabited

/-- Pseudo-classes without argument. -/
inductive Structural
  | scope
  | root
  | firstChild
  | lastChild
  | firstOfType
  | lastOfType
  | onlyChild
  | onlyOfType
  | empty
  deriving DecidableEq, Repr, Inhabited

def Structural.name : Structural → String
  | scope => "scope"
  | root => "root"
  | firstChild => "first-child"
  | lastChild => "last-child"
  | firstOfType => "first-of-type"
  | lastOfType => "last-of-type"
  | onlyChild => "only-child"
  | onlyOfType => "only-of-type"
  | empty => "empty"

def Structural.all : List Structural :=
  [scope, root, firstChild, lastChild, firstOfType, lastOfType, onlyChild, onlyOfType, empty]

def Counting.name : Counting → String
  | fromFirst => "nth-child"
  | fromLast => "nth-last-child"
  | ofTypeFromFirst => "nth-of-type"
  | ofTypeFromLast => "nth-last-of-type"

def Counting.all : List Counting := [fromFirst, fromLast, ofTypeFromFirst, ofTypeFromLast]

mutual

inductive Simple
  | universal
  | tag (name : String)
  | id (name : String)
  | className (name : String)
  | attribute (test : AttributeTest)
  | structural (pseudo : Structural)
  | nth (counting : Counting) (formula : Nth)
  | isAny (alternatives : List Chain)
  | whereAny (alternatives : List Chain)
  | notAny (alternatives : List Chain)

inductive Chain
  | single (compound : List Simple)
  | link (before : Chain) (combinator : Combinator) (compound : List Simple)

end

instance : Inhabited Simple := ⟨.universal⟩

instance : Inhabited Chain := ⟨.single []⟩

end CosmeticRules.Css
