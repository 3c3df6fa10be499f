import CosmeticRules.Css.Number
import CosmeticRules.Css.Reader
import CosmeticRules.Page.Tree
import CosmeticRules.Text.Search

/-!
Which elements of a page native selectors match, and selecting them.
-/

namespace CosmeticRules.Css

open Text

def AttributeOperator.holds (operator : AttributeOperator) (actual expected : List Char) : Bool :=
  match operator with
  | equals => actual == expected
  | startsWith => !expected.isEmpty && expected.isPrefixOf actual
  | endsWith => !expected.isEmpty && expected.isSuffixOf actual
  | contains => !expected.isEmpty && occursIn expected actual
  | includes => (fields actual).contains expected
  | dashMatch =>
    actual == expected ||
      match afterStart? expected actual with
      | some (c :: _) => c == '-'
      | _ => false

def AttributeTest.holds (test : AttributeTest) (e : Element) : Bool :=
  match test with
  | has key => (e.attribute? key).isSome
  | compare key operator value ignoreCase =>
    match e.attribute? key with
    | none => false
    | some actual =>
      if ignoreCase then operator.holds (lower actual.toList) (lower value.toList)
      else operator.holds actual.toList value.toList

/-- The siblings that count, the node itself included, in the order in which they are counted. -/
def countedSiblings (t : PageTree) (counting : Counting) (n : NodeId) : List NodeId :=
  match t.parent? n with
  | none => []
  | some parent =>
    let siblings := t.childElements parent
    let sameType := siblings.filter fun m => t.tag? m == t.tag? n
    match counting with
    | .fromFirst => siblings
    | .fromLast => siblings.reverse
    | .ofTypeFromFirst => sameType
    | .ofTypeFromLast => sameType.reverse

/-- The position of an element among the siblings that count, from one on. -/
def position? (t : PageTree) (counting : Counting) (n : NodeId) : Option Nat :=
  ((countedSiblings t counting n).idxOf? n).map (· + 1)

def isComment (t : PageTree) (n : NodeId) : Bool :=
  match t.content? n with
  | some (.comment _) => true
  | _ => false

def Structural.holds (t : PageTree) (scope : Option NodeId) (pseudo : Structural) (n : NodeId) :
    Bool :=
  match pseudo with
  | .scope => scope == some n
  | .root => t.documentElement? == some n
  | .firstChild => (t.previousElement? n).isNone
  | .lastChild => (t.nextElement? n).isNone
  | .onlyChild => (t.previousElement? n).isNone && (t.nextElement? n).isNone
  | .firstOfType => position? t .ofTypeFromFirst n == some 1
  | .lastOfType => position? t .ofTypeFromLast n == some 1
  | .onlyOfType => position? t .ofTypeFromFirst n == some 1 && position? t .ofTypeFromLast n == some 1
  | .empty => (t.children n).all (isComment t)

/-- The nodes that a combinator relates to a node on its right. -/
def related (t : PageTree) (combinator : Combinator) (n : NodeId) : List NodeId :=
  match combinator with
  | .child => (t.parentElement? n).toList
  | .descendant => t.ancestorElements n
  | .nextSibling => (t.previousElement? n).toList
  | .laterSibling => t.previousElements n

mutual

/-- Whether a simple selector holds of an element. -/
def Simple.holds (t : PageTree) (scope : Option NodeId) : Simple → NodeId → Bool
  | .universal, _ => true
  | .tag name, n => t.tag? n == some name
  | .id name, n => ((t.element? n).bind (·.attribute? "id")) == some name
  | .className name, n => (t.element? n).any (·.hasClass name)
  | .attribute test, n => (t.element? n).any test.holds
  | .structural pseudo, n => pseudo.holds t scope n
  | .nth counting formula, n => (position? t counting n).any formula.selects
  | .isAny alternatives, n => anyMatches t scope alternatives n
  | .whereAny alternatives, n => anyMatches t scope alternatives n
  | .notAny alternatives, n => !anyMatches t scope alternatives n

/-- Whether all simple selectors of a compound one hold. -/
def allHold (t : PageTree) (scope : Option NodeId) : List Simple → NodeId → Bool
  | [], _ => true
  | simple :: rest, n => simple.holds t scope n && allHold t scope rest n

/-- Whether a chain selects an element. -/
def Chain.matches (t : PageTree) (scope : Option NodeId) : Chain → NodeId → Bool
  | .single compound, n => t.isElement n && allHold t scope compound n
  | .link before combinator compound, n =>
    t.isElement n && allHold t scope compound n &&
      (related t combinator n).any fun m => before.matches t scope m

/-- Whether one of the chains selects an element. -/
def anyMatches (t : PageTree) (scope : Option NodeId) : List Chain → NodeId → Bool
  | [], _ => false
  | chain :: rest, n => chain.matches t scope n || anyMatches t scope rest n

end

/-- The element that `:scope` stands for when elements below a node are selected. -/
def scopeOf (t : PageTree) (root : NodeId) : Option NodeId :=
  if root = PageTree.root then t.documentElement? else some root

/-- The elements below a node that a native selector selects, in document order. -/
def select (t : PageTree) (root : NodeId) (selector : String) : Except Unsupported (List NodeId) := do
  let chains ← read selector
  return (t.descendantElements root).filter (anyMatches t (scopeOf t root) chains)

/-- The nearest element that a selector selects among an element and the elements it is in. -/
def closest? (t : PageTree) (n : NodeId) (selector : String) : Except Unsupported (Option NodeId) := do
  let chains ← read selector
  if t.isElement n then
    return (n :: t.ancestorElements n).find? (anyMatches t (some n) chains)
  else return none

end CosmeticRules.Css
