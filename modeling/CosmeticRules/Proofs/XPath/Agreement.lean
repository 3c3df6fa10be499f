import CosmeticRules.Proofs.Css.Selection
import CosmeticRules.Proofs.XPath.ReadPath
import CosmeticRules.Proofs.XPath.Walk

/-!
The two query languages agree on paths: an expression and the native selector that says the same select the same
elements in the same order.
-/

namespace CosmeticRules

open PageTree

/-! The native selector of a path. -/

def AttributeCondition.attributeTest (condition : AttributeCondition) : Css.AttributeTest :=
  match condition.value with
  | none => .has condition.name
  | some value => .compare condition.name .equals value false

def ElementTest.compound (test : ElementTest) : List Css.Simple :=
  (test.tag.map .tag).getD .universal :: test.conditions.map fun condition => .attribute condition.attributeTest

/-- The chain that goes on with a step. -/
def PathStep.link (before : Css.Chain) (step : PathStep) : Css.Chain :=
  .link before step.hop.combinator step.test.compound

def ElementPath.chain (path : ElementPath) : Css.Chain := path.rest.foldl PathStep.link (.single path.first.compound)

namespace Css

theorem escaped_eq {value : List Char} (plain : (value.all fun c => c != '"' && c != '\\') = true) :
    escaped value = value := by
  induction value with
  | nil => rfl
  | cons c rest ih =>
    obtain ⟨first, later⟩ := Bool.and_eq_true_iff.mp plain
    simp only [Bool.and_eq_true, bne_iff_ne] at first
    rw [escaped, if_neg (not_or.mpr ⟨first.2, first.1⟩), ih later]

theorem print_attributeTest {condition : AttributeCondition} (plain : condition.isPlain = true) :
    (Simple.attribute condition.attributeTest).print = condition.print [] := by
  obtain ⟨name, value⟩ := condition
  obtain ⟨_, unquoted⟩ := Bool.and_eq_true_iff.mp plain
  cases value with
  | none => rfl
  | some value =>
    have same := escaped_eq unquoted
    simp [Simple.print, AttributeCondition.attributeTest, AttributeTest.inner, AttributeOperator.sign, quoted, flag,
      same, AttributeCondition.print, AttributeCondition.inner]

theorem print_attributes {conditions : List AttributeCondition} (plain : conditions.all (·.isPlain) = true) :
    printCompound (conditions.map fun condition => .attribute condition.attributeTest) =
      conditions.flatMap (·.print []) := by
  induction conditions with
  | nil => rfl
  | cons condition rest ih =>
    obtain ⟨first, later⟩ := Bool.and_eq_true_iff.mp plain
    rw [List.map_cons, printCompound, print_attributeTest first, ih later, List.flatMap_cons]

theorem print_compound {test : ElementTest} (plain : test.isPlain = true) :
    printCompound test.compound = test.print [] := by
  obtain ⟨_, plain⟩ := Bool.and_eq_true_iff.mp plain
  rw [ElementTest.compound, printCompound, print_attributes plain, ElementTest.print]
  cases test.tag <;> rfl

theorem print_foldl_link {steps : List PathStep} (plain : steps.all (·.test.isPlain) = true) (before : Chain) :
    (steps.foldl PathStep.link before).print =
      before.print ++ steps.flatMap fun step => step.hop.combinator.print ++ step.test.print [] := by
  induction steps generalizing before with
  | nil => simp
  | cons step rest ih =>
    obtain ⟨first, later⟩ := Bool.and_eq_true_iff.mp plain
    rw [List.foldl_cons, ih later, PathStep.link, Chain.print, print_compound first, List.flatMap_cons,
      List.append_assoc]

theorem isPrintable_attributeTest {condition : AttributeCondition} (plain : condition.isPlain = true) :
    condition.attributeTest.isPrintable = true := by
  have named : isAttributeName condition.name = true :=
    (Bool.and_eq_true_iff.mp (Bool.and_eq_true_iff.mp plain).1).1
  obtain ⟨c, rest, split, _, _⟩ := isAttributeName_iff.mp named
  have key : (!condition.name.toList.isEmpty && condition.name.toList.all isLowerKeyChar) = true := by
    rw [Bool.and_eq_true, List.all_eq_true]
    refine ⟨by simp [split], fun c member => ?_⟩
    obtain ⟨plain, lower⟩ := plain_of_isAttributeName named c member
    simp [isLowerKeyChar, plain, lower]
  rw [AttributeCondition.attributeTest]
  cases condition.value <;> exact key

theorem arePrintable_attributes {conditions : List AttributeCondition} (plain : conditions.all (·.isPlain) = true) :
    areSimplesPrintable (conditions.map fun condition => .attribute condition.attributeTest) = true := by
  induction conditions with
  | nil => rfl
  | cons condition rest ih =>
    obtain ⟨first, later⟩ := Bool.and_eq_true_iff.mp plain
    rw [List.map_cons, areSimplesPrintable, Simple.isPrintable, isPrintable_attributeTest first, ih later]
    rfl

theorem isCompound_compound (test : ElementTest) : isCompound test.compound = true := by
  have leading : (test.conditions.map fun condition => Simple.attribute condition.attributeTest).any
      Simple.isLeading = false := by simp [Simple.isLeading]
  have ids : (test.conditions.map fun condition => Simple.attribute condition.attributeTest).countP isId = 0 := by
    simp [List.countP_eq_zero, isId]
  cases tag : test.tag <;> simp [isCompound, ElementTest.compound, tag, leading, ids, isId]

theorem isPrintable_compound {test : ElementTest} (plain : test.isPlain = true) :
    (isCompound test.compound && areSimplesPrintable test.compound) = true := by
  obtain ⟨named, plain⟩ := Bool.and_eq_true_iff.mp plain
  rw [isCompound_compound, Bool.true_and, ElementTest.compound, areSimplesPrintable, arePrintable_attributes plain,
    Bool.and_true]
  cases is : test.tag with
  | none => rfl
  | some tag =>
    rw [is] at named
    have named := isAttributeName_of_isTagName (Bool.and_eq_true_iff.mp named).1
    have plain := plain_of_isAttributeName named
    obtain ⟨c, rest, split, first, _⟩ := isAttributeName_iff.mp named
    have letter := ((classes_of_isPlainChar (plain c (split ▸ List.mem_cons_self)).1).2.2.2 first).2.1
    have identifier : isIdentifier tag = true :=
      isIdentifier_iff.mpr ⟨c, rest, split, letter, fun d member => (plain d (split ▸ member)).1⟩
    have lower : tag.toList.any Char.isUpper = false :=
      List.any_eq_false.mpr fun d member => by simp [(plain d member).2]
    show (isIdentifier tag && !tag.toList.any Char.isUpper) = true
    rw [identifier, lower]
    rfl

theorem isPrintable_foldl_link {steps : List PathStep} (plain : steps.all (·.test.isPlain) = true) {before : Chain}
    (printable : before.isPrintable = true) : (steps.foldl PathStep.link before).isPrintable = true := by
  induction steps generalizing before with
  | nil => exact printable
  | cons step rest ih =>
    obtain ⟨first, later⟩ := Bool.and_eq_true_iff.mp plain
    refine ih later ?_
    rw [PathStep.link, Chain.isPrintable, printable, isPrintable_compound first, Bool.true_and]

/-- The native selector of a path is read as its chain. -/
theorem read_selector {path : ElementPath} (plain : path.isPlain = true) : read path.selector = .ok [path.chain] := by
  obtain ⟨first, later⟩ := Bool.and_eq_true_iff.mp plain
  have printable : path.chain.isPrintable = true := isPrintable_foldl_link later (isPrintable_compound first)
  have printed : path.selector = String.ofList (printList [path.chain]) := by
    rw [printList, ElementPath.chain, print_foldl_link later, Chain.print, print_compound first, printMore,
      List.append_nil]
    rfl
  have all : areChainsPrintable [path.chain] = true := by
    rw [areChainsPrintable, printable]
    rfl
  rw [printed, read, String.toList_ofList, String.length_ofList]
  exact reads_chainsTo _ [path.chain] (List.cons_ne_nil _ _) all (Nat.lt_succ_self _)

end Css

/-! Selecting. -/

section document

variable {t : PageTree} {bound : Option NodeId} {n m : NodeId}

theorem holds_attributeTest (condition : AttributeCondition) (e : Element) :
    condition.attributeTest.holds e = condition.holds e := by
  obtain ⟨name, value⟩ := condition
  cases value with
  | none => rfl
  | some value =>
    simp only [AttributeCondition.attributeTest, AttributeCondition.holds, Css.AttributeTest.holds,
      Css.AttributeOperator.holds]
    cases e.attribute? name with
    | none => rfl
    | some actual =>
      rw [Bool.eq_iff_iff]
      simp [String.toList_inj]

theorem allHold_attributes (conditions : List AttributeCondition) (n : NodeId) :
    Css.allHold t bound (conditions.map fun condition => .attribute condition.attributeTest) n =
      conditions.all fun condition => (t.element? n).any condition.holds := by
  induction conditions with
  | nil => rfl
  | cons condition rest ih =>
    have same : condition.attributeTest.holds = condition.holds := funext (holds_attributeTest condition)
    rw [List.map_cons, Css.allHold, Css.Simple.holds, ih, same, List.all_cons]

/-- The compound selector of a test holds of the elements that pass it. -/
theorem allHold_compound (test : ElementTest) (n : NodeId) :
    (t.isElement n && Css.allHold t bound test.compound n) = test.accepts t n := by
  rw [ElementTest.compound, Css.allHold, allHold_attributes, ElementTest.accepts, isElement]
  cases is : t.element? n with
  | none => rfl
  | some e => cases tag : test.tag <;> simp [Css.Simple.holds, ElementTest.holds, PageTree.tag?, is, tag]

theorem isElement_of_accepts {test : ElementTest} (accepts : test.accepts t n = true) : t.isElement n = true := by
  obtain ⟨e, is, _⟩ := (Option.any_eq_true _ _).mp accepts
  simp [isElement, is]

theorem isWithin_of_relates {hop : Hop} (relates : hop.combinator.Relates t m n) : t.IsWithin n m := by
  cases hop with
  | child => exact .single relates
  | below => exact Relation.TransGen.to_reflTransGen relates

variable (doc : t.IsDocument)

include doc

theorem mem_origins (hop : Hop) : m ∈ hop.origins t n ↔ hop.combinator.Relates t m n := by
  cases hop with
  | child => exact Option.mem_toList
  | below => exact doc.wellFormed.mem_ancestors

/-- A chain selects, among the connected nodes, those that a test accepts, which are elements. -/
structure Agrees (t : PageTree) (bound : Option NodeId) (chain : Css.Chain) (reached : NodeId → Bool) : Prop where
  same : ∀ n, t.IsBelow n root → chain.matches t bound n = reached n
  isElement : ∀ n, reached n = true → t.isElement n = true

theorem Agrees.link {chain : Css.Chain} {reached : NodeId → Bool} (agrees : Agrees t bound chain reached)
    (step : PathStep) : Agrees t bound (step.link chain) (step.reaches t reached) where
  same := by
    intro n connected
    rw [PathStep.link, Css.Chain.matches, allHold_compound, PathStep.reaches]
    refine congrArg (step.test.accepts t n && ·) ?_
    rw [Bool.eq_iff_iff, List.any_eq_true, List.any_eq_true]
    simp only [Css.mem_related doc, mem_origins doc]
    -- The chain asks for an element before it goes on; a node that the path so far leads to is one anyway.
    constructor
    · rintro ⟨m, ⟨element, relates⟩, selected⟩
      have above := doc.wellFormed.isBelow_root_of_isElement connected (isWithin_of_relates relates) element
      exact ⟨m, relates, agrees.same m above ▸ selected⟩
    · rintro ⟨m, relates, origin⟩
      have element := agrees.isElement m origin
      have above := doc.wellFormed.isBelow_root_of_isElement connected (isWithin_of_relates relates) element
      exact ⟨m, ⟨element, relates⟩, (agrees.same m above).trans origin⟩
  isElement := by
    intro n reaches
    exact isElement_of_accepts (Bool.and_eq_true_iff.mp reaches).1

theorem agrees_foldl_link (steps : List PathStep) {chain : Css.Chain} {reached : NodeId → Bool}
    (agrees : Agrees t bound chain reached) :
    Agrees t bound (steps.foldl PathStep.link chain) (steps.foldl (PathStep.reaches t) reached) := by
  induction steps generalizing chain reached with
  | nil => exact agrees
  | cons step rest ih => exact ih (agrees.link doc step)

/-- The first step leads to every connected element that it accepts. -/
theorem agrees_single (test : ElementTest) :
    Agrees t bound (.single test.compound) (PathStep.reaches t (· == root) ⟨.below, test⟩) where
  same := by
    intro n connected
    have origin : (Hop.origins t n .below).any (· == root) = true :=
      List.any_eq_true.mpr ⟨root, doc.wellFormed.mem_ancestors.mpr connected, beq_self_eq_true root⟩
    rw [Css.Chain.matches, allHold_compound, PathStep.reaches, origin, Bool.and_true]
  isElement := fun n reaches => isElement_of_accepts (Bool.and_eq_true_iff.mp reaches).1

/-- The elements that the native selector of a path selects in the document are those that the path leads to. -/
theorem select_path {path : ElementPath} (plain : path.isPlain = true) :
    Css.select t root path.selector = .ok (t.elements.filter (path.reaches t)) := by
  have agrees : Agrees t (Css.scopeOf t root) path.chain (path.reaches t) :=
    agrees_foldl_link doc path.rest (agrees_single doc path.first)
  rw [Css.select, Css.read_selector plain]
  refine congrArg Except.ok (List.filter_congr fun n member => ?_)
  have connected := doc.wellFormed.mem_descendants.mp (List.mem_filter.mp member).1
  rw [Css.anyMatches, Css.anyMatches, Bool.or_false]
  exact agrees.same n connected

end document

/-- On every page, evaluating a path from the document gives the elements that the native selector of the path
selects, in the same order: those that the path leads to. -/
theorem evaluate_eq_select {page : Page} (built : Page.Built page) {path : ElementPath}
    (plain : path.isPlain = true) :
    XPath.evaluate page.tree root path.xpath = .ok (page.tree.elements.filter (path.reaches page.tree)) ∧
      Css.select page.tree root path.selector = .ok (page.tree.elements.filter (path.reaches page.tree)) := by
  have doc := built.isDocument
  have lower : ∀ step ∈ path.steps, ∀ condition ∈ step.test.conditions,
      lowerName condition.name = condition.name := by
    intro step inSteps condition inConditions
    have tested := List.all_eq_true.mp plain step inSteps
    have plain := List.all_eq_true.mp (Bool.and_eq_true_iff.mp tested).2 condition inConditions
    exact lowerName_of_isAttributeName (Bool.and_eq_true_iff.mp (Bool.and_eq_true_iff.mp plain).1).1
  exact ⟨XPath.evaluate_path doc.wellFormed lower (XPath.read_xpath plain), select_path doc plain⟩

/-- Lists in an item of a list, and what an item says about itself. -/
def nestedLists : Page := .ofMarkup "<ul><li data-x=']'><ul><li id=a data-x=']'></li></ul><b></b></li></ul><li></li>"

/-- Everything in an item of a list that has a bracket as its value. -/
def inMarkedItem : ElementPath :=
  ⟨⟨some "ul", []⟩, [⟨.child, ⟨some "li", [⟨"data-x", some "]"⟩]⟩⟩, ⟨.below, ⟨none, []⟩⟩]⟩

theorem evaluate_eq_select_inMarkedItem :
    inMarkedItem.isPlain = true ∧ inMarkedItem.xpath = "//ul/li[@data-x=\"]\"]//*" ∧
      inMarkedItem.selector = "ul > li[data-x=\"]\"] *" ∧
      XPath.evaluate nestedLists.tree root "//ul/li[@data-x=\"]\"]//*" = .ok [⟨3⟩, ⟨4⟩, ⟨5⟩] ∧
      Css.select nestedLists.tree root "ul > li[data-x=\"]\"] *" = .ok [⟨3⟩, ⟨4⟩, ⟨5⟩] := by
  have right : (Page.ofHtml "<ul><li data-x=']'><ul><li id=a data-x=']'></li></ul><b></b></li></ul><li></li>").isOk =
      true := by decide +kernel
  have plain : inMarkedItem.isPlain = true := by decide +kernel
  have xpath : inMarkedItem.xpath = "//ul/li[@data-x=\"]\"]//*" := by decide +kernel
  have selector : inMarkedItem.selector = "ul > li[data-x=\"]\"] *" := by decide +kernel
  have found : nestedLists.tree.elements.filter (inMarkedItem.reaches nestedLists.tree) = [⟨3⟩, ⟨4⟩, ⟨5⟩] := by
    decide +kernel
  obtain ⟨evaluated, selected⟩ := evaluate_eq_select (.read (Page.ofHtml_ofMarkup right)) plain
  rw [xpath] at evaluated
  rw [selector] at selected
  exact ⟨plain, xpath, selector, evaluated.trans (congrArg _ found), selected.trans (congrArg _ found)⟩

/-- The name of an attribute is read as a type of nodes in an expression, but not in a selector. -/
theorem attribute_named_text :
    isAttributeName "text" = true ∧
      ElementPath.xpath ⟨⟨some "div", [⟨"text", none⟩]⟩, []⟩ = "//div[@text]" ∧
      ElementPath.selector ⟨⟨some "div", [⟨"text", none⟩]⟩, []⟩ = "div[text]" ∧
      XPath.evaluate (Page.ofMarkup "<div text=1></div>").tree root "//div[@text]" =
        .error (.expected .openParenthesis (some .closeBracket)) ∧
      Css.select (Page.ofMarkup "<div text=1></div>").tree root "div[text]" = .ok [⟨1⟩] := by
  decide +kernel

end CosmeticRules
