import CosmeticRules.Matching.Selection
import CosmeticRules.Proofs.Page.ShownText

/-!
Selecting by real texts: unless a selector compares properties of elements, among which scripts find the shown
text, it selects the same whatever texts are shown.
-/

namespace CosmeticRules

/-- Compares the properties of elements that scripts see. -/
def NodeKind.readsProperties : NodeKind → Bool
  | .absolute .matchesProperty _ => true
  | _ => false

namespace SelectorTree

mutual

/-- Whether some node of a tree compares properties of elements. -/
def readsProperties : SelectorTree → Bool
  | .node kind children => kind.readsProperties || anyReadsProperties children

def anyReadsProperties : List SelectorTree → Bool
  | [] => false
  | tree :: rest => readsProperties tree || anyReadsProperties rest

end

variable {kind : NodeKind} {tree : SelectorTree} {trees : List SelectorTree}

theorem readsProperties_node :
    (SelectorTree.node kind trees).readsProperties = false ↔
      kind.readsProperties = false ∧ anyReadsProperties trees = false := Bool.or_eq_false_iff

theorem anyReadsProperties_cons :
    anyReadsProperties (tree :: trees) = false ↔
      tree.readsProperties = false ∧ anyReadsProperties trees = false := Bool.or_eq_false_iff

end SelectorTree

namespace Matching

open SelectorTree

variable (page : Page) (texts : List (NodeId × String))

theorem byAbsolute_showing {pseudo : PseudoClass} (other : pseudo ≠ .matchesProperty) (argument : String)
    (elements : List NodeId) :
    byAbsolute ⟨page.showing texts, .native⟩ pseudo argument elements =
      byAbsolute ⟨page, .native⟩ pseudo argument elements := by
  cases pseudo with
  | matchesProperty => exact absurd rfl other
  | _ => rfl

mutual

theorem elementsOfParts_showing (root : NodeId) (specified : Option String) (parts : List SelectorTree)
    (free : anyReadsProperties parts = false) :
    elementsOfParts ⟨page.showing texts, .native⟩ root specified parts =
      elementsOfParts ⟨page, .native⟩ root specified parts := by
  match parts with
  | [] => rfl
  | first :: rest =>
    have more := (anyReadsProperties_cons.mp free).2
    rw [elementsOfParts.eq_def, elementsOfParts.eq_def]
    have later : byParts ⟨page.showing texts, .native⟩ rest = byParts ⟨page, .native⟩ rest :=
      funext (byParts_showing rest more)
    simp only [later]
    rfl

theorem byParts_showing (parts : List SelectorTree) (free : anyReadsProperties parts = false)
    (elements : List NodeId) :
    byParts ⟨page.showing texts, .native⟩ parts elements = byParts ⟨page, .native⟩ parts elements := by
  match parts with
  | [] => rfl
  | part :: rest =>
    obtain ⟨here, more⟩ := anyReadsProperties_cons.mp free
    have later : byParts ⟨page.showing texts, .native⟩ rest = byParts ⟨page, .native⟩ rest :=
      funext (byParts_showing rest more)
    rw [byParts.eq_def, byParts.eq_def]
    simp only [later, byPart_showing part here]

theorem byPart_showing (part : SelectorTree) (free : part.readsProperties = false) (elements : List NodeId) :
    byPart ⟨page.showing texts, .native⟩ part elements = byPart ⟨page, .native⟩ part elements := by
  match part with
  | .node .extended children =>
    exact byPseudo_showing children (readsProperties_node.mp free).2 elements
  | .node .selectorList _ => rfl
  | .node .selector _ => rfl
  | .node (.regular _) _ => rfl
  | .node (.absolute _ _) _ => rfl
  | .node (.relative _) _ => rfl

theorem byPseudo_showing (children : List SelectorTree) (free : anyReadsProperties children = false)
    (elements : List NodeId) :
    byPseudo ⟨page.showing texts, .native⟩ children elements = byPseudo ⟨page, .native⟩ children elements := by
  match children with
  | [] => rfl
  | .node (.absolute pseudo argument) arguments :: _ =>
    obtain ⟨here, below⟩ := readsProperties_node.mp (anyReadsProperties_cons.mp free).1
    have other : pseudo ≠ .matchesProperty := by
      rintro rfl
      exact Bool.noConfusion here
    rw [byPseudo.eq_def, byPseudo.eq_def]
    simp only [byRelative_showing pseudo arguments below, byAbsolute_showing page texts other]
  | .node (.relative pseudo) arguments :: _ =>
    have below := (readsProperties_node.mp (anyReadsProperties_cons.mp free).1).2
    rw [byPseudo.eq_def, byPseudo.eq_def]
    simp only [byRelative_showing pseudo arguments below]
  | .node .selectorList _ :: _ => rfl
  | .node .selector _ :: _ => rfl
  | .node (.regular _) _ :: _ => rfl
  | .node .extended _ :: _ => rfl

theorem byRelative_showing (pseudo : PseudoClass) (lists : List SelectorTree)
    (free : anyReadsProperties lists = false) (elements : List NodeId) :
    byRelative ⟨page.showing texts, .native⟩ pseudo lists elements =
      byRelative ⟨page, .native⟩ pseudo lists elements := by
  match lists with
  | [] => rfl
  | .node _ alternatives :: _ =>
    have below := (readsProperties_node.mp (anyReadsProperties_cons.mp free).1).2
    rw [byRelative.eq_def, byRelative.eq_def]
    simp only [hasAll_showing pseudo _ alternatives below, isAny_showing pseudo _ alternatives below,
      isNone_showing pseudo _ alternatives below]

theorem hasAll_showing (pseudo : PseudoClass) (n : NodeId) (alternatives : List SelectorTree)
    (free : anyReadsProperties alternatives = false) :
    hasAll ⟨page.showing texts, .native⟩ pseudo n alternatives =
      hasAll ⟨page, .native⟩ pseudo n alternatives := by
  match alternatives with
  | [] => rfl
  | .node _ parts :: rest =>
    obtain ⟨here, more⟩ := anyReadsProperties_cons.mp free
    have below := (readsProperties_node.mp here).2
    rw [hasAll.eq_def, hasAll.eq_def]
    simp only [elementsOfParts_showing _ _ parts below, hasAll_showing pseudo n rest more, Page.tree_showing]

theorem isAny_showing (pseudo : PseudoClass) (n : NodeId) (alternatives : List SelectorTree)
    (free : anyReadsProperties alternatives = false) :
    isAny ⟨page.showing texts, .native⟩ pseudo n alternatives =
      isAny ⟨page, .native⟩ pseudo n alternatives := by
  match alternatives with
  | [] => rfl
  | .node _ parts :: rest =>
    obtain ⟨here, more⟩ := anyReadsProperties_cons.mp free
    have below := (readsProperties_node.mp here).2
    rw [isAny.eq_def, isAny.eq_def]
    simp only [elementsOfParts_showing _ _ parts below, isAny_showing pseudo n rest more, Page.tree_showing]

theorem isNone_showing (pseudo : PseudoClass) (n : NodeId) (alternatives : List SelectorTree)
    (free : anyReadsProperties alternatives = false) :
    isNone ⟨page.showing texts, .native⟩ pseudo n alternatives =
      isNone ⟨page, .native⟩ pseudo n alternatives := by
  match alternatives with
  | [] => rfl
  | .node _ parts :: rest =>
    obtain ⟨here, more⟩ := anyReadsProperties_cons.mp free
    have below := (readsProperties_node.mp here).2
    rw [isNone.eq_def, isNone.eq_def]
    simp only [elementsOfParts_showing _ _ parts below, isNone_showing pseudo n rest more, Page.tree_showing]

end

theorem elementsOf_showing (root : NodeId) (specified : Option String) (selector : SelectorTree)
    (free : selector.readsProperties = false) :
    elementsOf ⟨page.showing texts, .native⟩ root specified selector =
      elementsOf ⟨page, .native⟩ root specified selector := by
  obtain ⟨kind, parts⟩ := selector
  exact elementsOfParts_showing page texts root specified parts (readsProperties_node.mp free).2

theorem mapM_elementsOf_showing (selectors : List SelectorTree) (free : anyReadsProperties selectors = false) :
    selectors.mapM (elementsOf ⟨page.showing texts, .native⟩ PageTree.root none) =
      selectors.mapM (elementsOf ⟨page, .native⟩ PageTree.root none) := by
  induction selectors with
  | nil => rw [List.mapM_nil, List.mapM_nil]
  | cons selector rest ih =>
    obtain ⟨here, more⟩ := anyReadsProperties_cons.mp free
    rw [List.mapM_cons, List.mapM_cons, elementsOf_showing page texts PageTree.root none selector here, ih more]

/-- A selector that compares no properties selects the same by real texts, whatever texts are shown. -/
theorem select_showing (list : SelectorTree) (free : list.readsProperties = false) :
    select ⟨page.showing texts, .native⟩ list = select ⟨page, .native⟩ list := by
  obtain ⟨kind, selectors⟩ := list
  have found := mapM_elementsOf_showing page texts selectors (readsProperties_node.mp free).2
  rw [select, select, children, found]

end Matching

end CosmeticRules
