import CosmeticRules.Proofs.Css.Printing
import CosmeticRules.XPath.Evaluation

/-!
Paths from the document to elements that both query languages can write: each step goes to children or to
elements anywhere below, and asks for a tag and for attributes.
-/

namespace CosmeticRules

/-- An attribute that an element has to have, with its value where that counts. -/
structure AttributeCondition where
  name : String
  value : Option String
  deriving DecidableEq, Repr, Inhabited

/-- What is asked of an element: its tag, where that counts, and conditions on its attributes. -/
structure ElementTest where
  tag : Option String
  conditions : List AttributeCondition
  deriving DecidableEq, Repr, Inhabited

/-- Where a step leads from an element. -/
inductive Hop
  | child
  | below
  deriving DecidableEq, Repr, Inhabited

structure PathStep where
  hop : Hop
  test : ElementTest
  deriving DecidableEq, Repr, Inhabited

/-- The first step leads from the document to elements anywhere below it. -/
structure ElementPath where
  first : ElementTest
  rest : List PathStep
  deriving DecidableEq, Repr, Inhabited

/-- All steps of a path. -/
def ElementPath.steps (path : ElementPath) : List PathStep := ⟨.below, path.first⟩ :: path.rest

/-! The texts of a path. -/

namespace AttributeCondition

/-- The text of a condition between its brackets, with the mark of attributes before the name. -/
def inner (mark : List Char) (condition : AttributeCondition) : List Char :=
  match condition.value with
  | none => mark ++ condition.name.toList
  | some value => mark ++ (condition.name.toList ++ '=' :: '"' :: (value.toList ++ ['"']))

def print (mark : List Char) (condition : AttributeCondition) : List Char :=
  '[' :: (condition.inner mark ++ [']'])

end AttributeCondition

/-- The text of a test, with the mark of attributes before their names. -/
def ElementTest.print (mark : List Char) (test : ElementTest) : List Char :=
  (test.tag.map (·.toList)).getD ['*'] ++ test.conditions.flatMap (·.print mark)

namespace Hop

/-- One slash or two. -/
def slashes : Hop → List Char
  | child => ['/']
  | below => ['/', '/']

/-- The combinator of native selectors. -/
def combinator : Hop → Css.Combinator
  | child => .child
  | below => .descendant

end Hop

namespace ElementPath

/-- The path as an expression from the document. -/
def xpath (path : ElementPath) : String :=
  String.ofList <| path.steps.flatMap fun step => step.hop.slashes ++ step.test.print ['@']

/-- The path as a native selector. -/
def selector (path : ElementPath) : String :=
  String.ofList <| path.first.print [] ++
    path.rest.flatMap fun step => step.hop.combinator.print ++ step.test.print []

end ElementPath

/-! The paths that both languages read. -/

/-- Lower-case letters, digits and hyphens, a letter first. -/
def isTagName (name : String) : Bool :=
  match name.toList with
  | [] => false
  | c :: rest => c.isLower && rest.all fun c => c.isLower || c.isDigit || c == '-'

/-- Lower-case letters, digits, hyphens and underscores, a letter or an underscore first. -/
def isAttributeName (name : String) : Bool :=
  match name.toList with
  | [] => false
  | c :: rest =>
    (c.isLower || c == '_') && rest.all fun c => c.isLower || c.isDigit || c == '-' || c == '_'

namespace AttributeCondition

/-- The name is none of the words for types of nodes, and the value needs no escapes. -/
def isPlain (condition : AttributeCondition) : Bool :=
  isAttributeName condition.name && !XPath.NodeTest.isType condition.name &&
    condition.value.all fun value => value.toList.all fun c => c != '"' && c != '\\'

end AttributeCondition

namespace ElementTest

def isPlain (test : ElementTest) : Bool :=
  (test.tag.all fun tag => isTagName tag && !XPath.NodeTest.isType tag) && test.conditions.all (·.isPlain)

end ElementTest

def ElementPath.isPlain (path : ElementPath) : Bool := path.steps.all (·.test.isPlain)

/-! The expression of a path. -/

/-- The step to the attributes with the name of a condition. -/
def AttributeCondition.attributeStep (condition : AttributeCondition) : XPath.Step :=
  .mk .attributes (.name condition.name) []

def AttributeCondition.expr (condition : AttributeCondition) : XPath.Expr :=
  match condition.value with
  | none => .path false [condition.attributeStep]
  | some value => .compare (.path false [condition.attributeStep]) .equal (.literal value)

def ElementTest.step (test : ElementTest) : XPath.Step :=
  .mk .child ((test.tag.map .name).getD .any) (test.conditions.map (·.expr))

def PathStep.steps (step : PathStep) : List XPath.Step :=
  match step.hop with
  | .child => [step.test.step]
  | .below => [.anyDepth, step.test.step]

def ElementPath.expr (path : ElementPath) : XPath.Expr :=
  .path true (path.steps.flatMap (·.steps))

/-! What a path selects. -/

def AttributeCondition.holds (condition : AttributeCondition) (e : Element) : Bool :=
  match condition.value with
  | none => (e.attribute? condition.name).isSome
  | some value => e.attribute? condition.name == some value

def ElementTest.holds (test : ElementTest) (e : Element) : Bool :=
  test.tag.all (e.tag == ·) && test.conditions.all (·.holds e)

/-- Whether a node is an element that passes a test. -/
def ElementTest.accepts (test : ElementTest) (t : PageTree) (n : NodeId) : Bool := (t.element? n).any test.holds

/-- The nodes that a step may come from. -/
def Hop.origins (t : PageTree) (n : NodeId) : Hop → List NodeId
  | child => (t.parent? n).toList
  | below => t.ancestors n

/-- Whether a step leads to a node from one of those that it may come from. -/
def PathStep.reaches (t : PageTree) (origin : NodeId → Bool) (step : PathStep) (n : NodeId) : Bool :=
  step.test.accepts t n && (step.hop.origins t n).any origin

/-- Whether a path leads from the document to a node. -/
def ElementPath.reaches (t : PageTree) (path : ElementPath) : NodeId → Bool :=
  path.steps.foldl (PathStep.reaches t) (· == PageTree.root)

end CosmeticRules
