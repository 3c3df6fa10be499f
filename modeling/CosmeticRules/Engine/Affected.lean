import CosmeticRules.Page.Basic
import CosmeticRules.Rule.Basic

/-!
The elements that are styled or removed at present, and the protection of their styles.
-/

namespace CosmeticRules

namespace Page

/-- The values of content that are left to others: a quote and this word with something after it. -/
def contentMarks : List String := ["\"adguard", "'adguard"]

def isContentMark (d : Declaration) : Bool :=
  d.property == Style.contentProperty && contentMarks.any fun mark =>
    mark.length < d.value.length && mark.toList.isPrefixOf d.value.toList

/-- A value without blanks around it and without a mark that it is important at its end. -/
def bareValue (value : String) : String :=
  let trimmed := Text.trim value.toList
  let bare :=
    if InlineStyle.important.isSuffixOf trimmed then
      Text.trim (trimmed.take (trimmed.length - InlineStyle.important.length))
    else trimmed
  String.ofList bare

/-- Declares a property as important in the style of an element, if the page supports it. -/
def applyDeclaration (page : Page) (n : NodeId) (d : Declaration) : Page :=
  if !page.supportsProperty n d.property || d.value.isEmpty || isContentMark d then page
  else page.setStyleProperty n d.property (bareValue d.value) true

/-- Declares everything in a style as important in the style of an element. -/
def applyStyle (page : Page) (n : NodeId) (style : Style) : Page :=
  style.declarations.foldl (·.applyDeclaration n) page

/-- One element in a path: its tag, with its position among the siblings of that tag if it is not the
first. -/
def pathPart (t : PageTree) (n : NodeId) (e : Element) : String :=
  let before := (t.previousElements n).filter fun m => t.tag? m == some e.tag
  if before.isEmpty then e.tag else s!"{e.tag}:nth-of-type({before.length + 1})"

/-- The path from the nearest element with an id to an element, the last part first. -/
def pathParts (t : PageTree) : List NodeId → List String
  | [] => []
  | n :: rest =>
    match t.element? n with
    | none => []
    | some e =>
      match (e.attribute? "id").filter (!·.isEmpty) with
      | some id => [s!"{e.tag}#{id}"]
      | none => pathPart t n e :: pathParts t rest

/-- A path by which an element that is put back is known again. -/
def elementPath (t : PageTree) (n : NodeId) : String :=
  String.intercalate " > " (pathParts t (n :: t.ancestorElements n)).reverse

end Page

/-- Puts the styles of an element back when others change them. -/
structure Protection where
  id : Nat
  styles : List Style
  /-- How often the styles have been put back. -/
  count : Nat := 0
  connected : Bool := true
  deriving DecidableEq, Repr, Inhabited

namespace Protection

/-- The greatest number of times that styles are put back, or that elements with one path are removed
but once. -/
def limit : Nat := 50

/-- The protection after the styles have been put back once more. It ends at the limit. -/
def next (p : Protection) : Protection :=
  { p with count := p.count + 1, connected := p.count + 1 < limit }

end Protection

structure Affected where
  node : NodeId
  rules : List Rule
  /-- The text of the style attribute before any rule was applied. -/
  initialStyle : String
  removed : Bool := false
  protection : Option Protection := none
  deriving DecidableEq, Repr, Inhabited

namespace Affected

/-- Adds a rule that selects the element, unless it is known to. -/
def addRule (a : Affected) (rule : Rule) : Affected :=
  if a.rules.contains rule then a else { a with rules := a.rules ++ [rule] }

def protectedBy (a : Affected) (id : Nat) : Affected :=
  { a with protection := some { id, styles := a.rules.filterMap (·.style) } }

def isProtected (a : Affected) : Bool := a.protection.any (·.connected)

def protectionCount (a : Affected) : Nat := (a.protection.map (·.count)).getD 0

/-- Records that a rule selects an element: in the entry of the element, or in a new one. -/
def touch (n : NodeId) (rule : Rule) (style : String) : List Affected → List Affected
  | [] => [{ node := n, rules := [rule], initialStyle := style }]
  | a :: rest => if a.node = n then a.addRule rule :: rest else a :: touch n rule style rest

/-- Changes the entry of an element. -/
def update (n : NodeId) (f : Affected → Affected) : List Affected → List Affected
  | [] => []
  | a :: rest => if a.node = n then f a :: rest else a :: update n f rest

def find? (n : NodeId) (entries : List Affected) : Option Affected := entries.find? (·.node == n)

end Affected

end CosmeticRules
