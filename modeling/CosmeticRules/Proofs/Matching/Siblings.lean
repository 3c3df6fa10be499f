import CosmeticRules.Proofs.Matching.Description
import CosmeticRules.Proofs.Page.Built

/-!
Selectors that lead from an element to its next or its later siblings. The element is found again among the
children of its parent by its description, and so is every other child that the description fits.
-/

namespace CosmeticRules

namespace Css

/-! Selectors without `:scope` do not depend on the scope. -/

mutual

/-- Whether `:scope` stands in a simple selector, or in an argument of it. -/
def Simple.usesScope : Simple → Bool
  | .structural pseudo => pseudo = .scope
  | .isAny alternatives => anyUsesScope alternatives
  | .whereAny alternatives => anyUsesScope alternatives
  | .notAny alternatives => anyUsesScope alternatives
  | _ => false

def compoundUsesScope : List Simple → Bool
  | [] => false
  | simple :: rest => simple.usesScope || compoundUsesScope rest

def Chain.usesScope : Chain → Bool
  | .single compound => compoundUsesScope compound
  | .link before _ compound => before.usesScope || compoundUsesScope compound

def anyUsesScope : List Chain → Bool
  | [] => false
  | chain :: rest => chain.usesScope || anyUsesScope rest

end

variable {t : PageTree} (scope other : Option NodeId)

theorem Structural.holds_of_free {pseudo : Structural} (free : pseudo ≠ .scope) (n : NodeId) :
    pseudo.holds t scope n = pseudo.holds t other n := by
  cases pseudo with
  | scope => exact absurd rfl free
  | _ => rfl

mutual

theorem simple_holds_of_free (simple : Simple) (free : simple.usesScope = false) (n : NodeId) :
    simple.holds t scope n = simple.holds t other n := by
  match simple with
  | .structural pseudo => exact Structural.holds_of_free scope other (of_decide_eq_false free) n
  | .isAny alternatives => exact anyMatches_of_free alternatives free n
  | .whereAny alternatives => exact anyMatches_of_free alternatives free n
  | .notAny alternatives => exact congrArg not (anyMatches_of_free alternatives free n)
  | .universal | .tag _ | .id _ | .className _ | .attribute _ | .nth _ _ => rfl

theorem allHold_of_free (compound : List Simple) (free : compoundUsesScope compound = false) (n : NodeId) :
    allHold t scope compound n = allHold t other compound n := by
  match compound with
  | [] => rfl
  | simple :: rest =>
    obtain ⟨first, others⟩ := Bool.or_eq_false_iff.mp free
    rw [allHold, allHold, simple_holds_of_free simple first, allHold_of_free rest others]

theorem matches_of_free (chain : Chain) (free : chain.usesScope = false) (n : NodeId) :
    chain.matches t scope n = chain.matches t other n := by
  match chain with
  | .single compound => rw [Chain.matches, Chain.matches, allHold_of_free compound free]
  | .link before combinator compound =>
    obtain ⟨first, last⟩ := Bool.or_eq_false_iff.mp free
    rw [Chain.matches, Chain.matches, allHold_of_free compound last]
    have same : (fun m => before.matches t scope m) = fun m => before.matches t other m :=
      funext fun m => matches_of_free before first m
    rw [same]

theorem anyMatches_of_free (chains : List Chain) (free : anyUsesScope chains = false) (n : NodeId) :
    anyMatches t scope chains n = anyMatches t other chains n := by
  match chains with
  | [] => rfl
  | chain :: rest =>
    obtain ⟨first, others⟩ := Bool.or_eq_false_iff.mp free
    rw [anyMatches, anyMatches, matches_of_free chain first, anyMatches_of_free rest others]

end

/-! Selecting by a single chain. -/

variable {chain : Chain} {n m : NodeId}

theorem isElement_of_matches {scope : Option NodeId} (selected : chain.matches t scope n = true) :
    t.isElement n = true := by
  cases chain with
  | single compound => exact (Bool.and_eq_true_iff.mp selected).1
  | link before combinator compound => exact (Bool.and_eq_true_iff.mp (Bool.and_eq_true_iff.mp selected).1).1

theorem select_single (wf : t.WellFormed) (base : NodeId) {selector : String} (accepted : read selector = .ok [chain]) :
    ∃ found, select t base selector = .ok found ∧
      ∀ m, m ∈ found ↔ t.IsBelow m base ∧ chain.matches t (scopeOf t base) m = true := by
  refine ⟨(t.descendantElements base).filter (anyMatches t (scopeOf t base) [chain]), ?_, fun m => ?_⟩
  · rw [select, accepted]
    rfl
  · rw [List.mem_filter, PageTree.descendantElements, List.mem_filter, wf.mem_descendants, anyMatches, anyMatches,
      Bool.or_false, and_assoc]
    exact and_congr_right fun _ => and_iff_right_of_imp isElement_of_matches

/-! Siblings. -/

/-- A sign that leads from an element to siblings after it. -/
def IsSiblingSign (c : Char) : Prop := c = '+' ∨ c = '~'

variable {c : Char}

theorem mem_related_sibling (wf : t.WellFormed) (sibling : IsSiblingSign c) : m ∈ related t (combinator c) n ↔
    t.isElement m = true ∧ (combinator c).Relates t m n := by
  rcases sibling with rfl | rfl
  · exact Option.mem_toList.trans (previousElement?_eq_some_iff wf)
  · exact mem_previousElements wf

theorem IsSiblingSign.before (sibling : IsSiblingSign c) (relates : (combinator c).Relates t n m) : t.Before n m := by
  rcases sibling with rfl | rfl
  · exact relates.1
  · exact relates

end Css

namespace Matching

open Css

/-- A child of the same parent that the description of the first element fits. -/
def Twin (t : PageTree) (n d : NodeId) : Prop := t.parent? d = t.parent? n ∧ Resembles t n d

/-- The sign leads from the first element to the second, which the compound selector selects. -/
def LeadsTo (t : PageTree) (sign : Char) (scope : Option NodeId) (compound : List Simple) (n m : NodeId) : Prop :=
  (combinator sign).Relates t n m ∧ (Chain.single compound).matches t scope m = true

theorem matches_scope {t : PageTree} {parent n : NodeId} :
    (Chain.single [.structural .scope]).matches t (some parent) n = true ↔ t.isElement n = true ∧ n = parent := by
  rw [Chain.matches, allHold, allHold, Simple.holds, Structural.holds, Bool.and_true, Bool.and_eq_true, beq_iff_eq,
    Option.some.injEq, eq_comm (a := parent)]

/-- The children of the scope that a compound selector holds of. -/
theorem matches_child_of_scope {t : PageTree} {parent d : NodeId} {compound : List Simple}
    (holder : t.isElement parent = true) :
    (Chain.link (.single [.structural .scope]) .child compound).matches t (some parent) d = true ↔
      t.parent? d = some parent ∧ (Chain.single compound).matches t (some parent) d = true := by
  rw [Chain.matches, Chain.matches, Bool.and_eq_true, List.any_eq_true, and_comm]
  refine and_congr_left fun _ => ?_
  simp only [matches_scope, related, Option.mem_toList, PageTree.parentElement?, Option.filter_eq_some_iff]
  constructor
  · rintro ⟨p, ⟨is, _⟩, _, rfl⟩
    exact is
  · exact fun is => ⟨parent, ⟨is, holder⟩, holder, rfl⟩

/-- Children of the scope that the description of an element fits. -/
theorem matches_description {t : PageTree} (wf : t.WellFormed) {parent n d : NodeId} {e : Element}
    (holder : t.isElement parent = true) (element : t.element? n = some e) :
    (Chain.link (.single [.structural .scope]) .child e.description).matches t (some parent) d = true ↔
      t.parent? d = some parent ∧ Resembles t n d := by
  rw [matches_child_of_scope holder, Chain.matches, Bool.and_eq_true, allHold_description wf element]
  exact and_congr_right fun _ => and_iff_right_of_imp Resembles.isElement

theorem scopeOf_element {t : PageTree} (wf : t.WellFormed) {parent : NodeId} (holder : t.isElement parent = true) :
    scopeOf t parent = some parent := by
  refine if_neg ?_
  rintro rfl
  simp [PageTree.isElement, PageTree.element?, wf.document] at holder

/-- Below an element a native selector of one chain selects with the element as its scope. -/
theorem nativeElements_single {page : Page} (wf : page.tree.WellFormed) {n : NodeId}
    (holder : page.tree.isElement n = true) {text : String} {chain : Chain} (read : Css.read text = .ok [chain]) :
    ∃ found, (nativeElements page n text).result = .ok found ∧
      ∀ m, m ∈ found ↔ page.tree.IsBelow m n ∧ chain.matches page.tree (some n) m = true := by
  obtain ⟨found, selected, members⟩ := select_single wf n read
  rw [scopeOf_element wf holder] at members
  refine ⟨found, ?_, members⟩
  rw [nativeElements, Logged.result_ofExcept, selected]
  rfl

theorem nested_scope : Nested isChainChar ":scope".toList := .of_plain (by decide)

theorem solid_scope : Solid ":scope".toList := .of_dark (by decide) (by decide)

theorem scoped_describe (e : Element) :
    ":scope>" ++ describe e = String.ofList (":scope".toList ++ '>' :: printCompound e.description) := by
  rw [← String.toList_inj, describe_eq]
  simp

/-- The selector by which an element is found again from its parent is a chain of two steps, the second of which is what
the description of the element says. -/
theorem read_scoped_describe {e : Element} (describable : e.Describable) :
    Css.read (":scope>" ++ describe e) = .ok [.link (.single [.structural .scope]) .child e.description] := by
  have scope : Css.read ":scope" = .ok [.single [.structural .scope]] := rfl
  have linked := read_link nested_scope solid_scope scope (c := '>') (by decide) (read_describe describable)
  rw [scoped_describe, ← String.toList_ofList (l := printCompound e.description), ← describe_eq]
  exact linked

section native

variable {sign : Char} (sibling : IsSiblingSign sign) {text : String} {compound : List Simple}
  (read : Css.read text = .ok [.single compound])

include sibling read

/-- The selector by which the siblings of an element are found from its parent. -/
theorem read_anchored {e : Element} (describable : e.Describable) :
    Css.read (":scope>" ++ describe e ++ (String.singleton sign ++ text)) =
      .ok [.link (.link (.single [.structural .scope]) .child e.description) (combinator sign) compound] := by
  have nested : Nested isChainChar (":scope>" ++ describe e).toList := by
    rw [scoped_describe, String.toList_ofList]
    have mark : Nested isChainChar ['>'] := .of_plain (by decide)
    exact nested_scope.append (mark.append ((nested_description describable).mono isChainChar_of_isCompoundChar))
  have solid : Solid (":scope>" ++ describe e).toList := by
    rw [scoped_describe, String.toList_ofList]
    exact solid_scope.append (solid_description describable) ['>']
  have linked := read_link nested solid (read_scoped_describe describable) (c := sign)
    (by rcases sibling with rfl | rfl <;> decide) read
  refine (congrArg Css.read ?_).trans linked
  rw [← String.toList_inj]
  simp

variable {page : Page} (wf : page.tree.WellFormed) (free : compoundUsesScope compound = false)
  (scope : Option NodeId) {n parent : NodeId} {e : Element} (is : page.tree.parentElement? n = some parent)
  (element : page.tree.element? n = some e) (describable : e.Describable)

include wf free is element describable

/-- From the parent of an element the siblings are found to which the sign leads from the children of the parent that
the description of the element fits. -/
theorem nativeElements_sibling : ∃ found,
    (nativeElements page parent (":scope>" ++ describe e ++ (String.singleton sign ++ text))).result = .ok found ∧
      ∀ m, m ∈ found ↔ ∃ d, Twin page.tree n d ∧ LeadsTo page.tree sign scope compound d m := by
  obtain ⟨child, holder⟩ := Option.filter_eq_some_iff.mp is
  obtain ⟨found, result, members⟩ := nativeElements_single wf holder (read_anchored sibling read describable)
  refine ⟨found, result, fun m => ?_⟩
  rw [members, Chain.matches, Bool.and_eq_true, List.any_eq_true, allHold_of_free (some parent) scope compound free]
  simp only [mem_related_sibling wf sibling, matches_description wf holder element, Twin, LeadsTo, child]
  constructor
  · rintro ⟨_, here, d, ⟨_, relates⟩, is, fits⟩
    exact ⟨d, ⟨is, fits⟩, relates, here⟩
  · rintro ⟨d, ⟨is, fits⟩, relates, here⟩
    obtain ⟨p, first, second⟩ := wf.parent?_of_before (sibling.before relates)
    obtain rfl := Option.some.inj (is.symm.trans first)
    exact ⟨.single second, here, d, ⟨fits.isElement, relates⟩, is, fits⟩

end native

/-! Parts of a selector. -/

/-- A test that decides about every element keeps those that pass. -/
theorem keep_eq_filter {test : NodeId → Outcome Bool} {passes : NodeId → Bool} {elements : List NodeId}
    (each : ∀ n ∈ elements, (test n).result = .ok (passes n)) :
    (keep test elements).result = .ok (elements.filter passes) := by
  induction elements with
  | nil => rfl
  | cons first rest ih =>
    obtain ⟨here, others⟩ := List.forall_mem_cons.mp each
    rw [keep, Logged.result_bind, here]
    refine (Logged.result_bind _ _).trans ?_
    rw [ih others, List.filter_cons]
    rfl

theorem result_keep {test : NodeId → Outcome Bool} {P : NodeId → Prop} {elements : List NodeId}
    (each : ∀ n ∈ elements, ∃ passes, (test n).result = .ok passes ∧ (passes = true ↔ P n)) :
    ∃ kept, (keep test elements).result = .ok kept ∧ ∀ n, n ∈ kept ↔ n ∈ elements ∧ P n := by
  choose! passes result holds using each
  refine ⟨elements.filter passes, keep_eq_filter result, fun n => ?_⟩
  rw [List.mem_filter]
  exact and_congr_right (holds n)

theorem result_flatten {lead : NodeId → Outcome (List NodeId)} {P : NodeId → NodeId → Prop} {elements : List NodeId}
    (each : ∀ n ∈ elements, ∃ found, (lead n).result = .ok found ∧ ∀ m, m ∈ found ↔ P n m) :
    ∃ lists, (elements.mapM lead).result = .ok lists ∧ ∀ m, m ∈ lists.flatten ↔ ∃ n ∈ elements, P n m := by
  induction elements with
  | nil => exact ⟨[], by rw [List.mapM_nil]; rfl, by simp⟩
  | cons first rest ih =>
    obtain ⟨⟨found, here, holds⟩, others⟩ := List.forall_mem_cons.mp each
    obtain ⟨lists, later, members⟩ := ih others
    refine ⟨found :: lists, ?_, fun m => ?_⟩
    · rw [List.mapM_cons, Logged.result_bind, here]
      exact (Logged.result_bind _ _).trans (by rw [later]; rfl)
    · rw [List.flatten_cons, List.mem_append, holds, members, List.exists_mem_cons_iff]

/-- A native selector that follows gives together what it leads to from each element. -/
theorem result_following {page : Page} {value : String} (filled : value.isEmpty = false) (children : List SelectorTree)
    {elements : List NodeId} {lists : List (List NodeId)}
    (leads : (elements.mapM (elementsFrom page value)).result = .ok lists) :
    (following page (.node (.regular value) children) elements).result = .ok lists.flatten := by
  rw [following]
  simp only [SelectorTree.requiredValue, SelectorTree.value?, filled, Logged.result_bind, Logged.result_ofExcept]
  simp only [bind, Except.bind, Bool.false_eq_true, if_false, Except.mapError, leads]
  rfl

/-- A pseudo-class with a single native selector for its argument. -/
def relativePart (pseudo : PseudoClass) (selector : String) : SelectorTree :=
  .node .extended [.node (.relative pseudo) [.node .selectorList [.node .selector [.node (.regular selector) []]]]]

/-- The element has a parent element, below which it can be found again by its description. -/
structure Locatable (t : PageTree) (n : NodeId) : Prop where
  parent : ∃ parent, t.parentElement? n = some parent
  element : ∃ e, t.element? n = some e ∧ e.Describable

section parts

variable {view : View} (wf : view.page.tree.WellFormed) {sign : Char} (sibling : IsSiblingSign sign) {text : String}
  {compound : List Simple} (read : Css.read text = .ok [.single compound])
  (free : compoundUsesScope compound = false) (scope : Option NodeId)

include sibling in
theorem startsWithSibling_sign : startsWithSibling (String.singleton sign ++ text) = true := by
  have begins : (String.singleton sign ++ text).toList = sign :: text.toList := by simp
  unfold startsWithSibling
  rw [begins]
  rcases sibling with rfl | rfl <;> rfl

include wf sibling read free

theorem hasAll_sibling (pseudo : PseudoClass) {n : NodeId} (locatable : Locatable view.page.tree n) :
    ∃ passes, (hasAll view pseudo n [.node .selector [.node (.regular (String.singleton sign ++ text)) []]]).result =
        .ok passes ∧
      (passes = true ↔ ∃ d, Twin view.page.tree n d ∧ ∃ m, LeadsTo view.page.tree sign scope compound d m) := by
  obtain ⟨⟨parent, is⟩, e, element, describable⟩ := locatable
  obtain ⟨found, result, members⟩ := nativeElements_sibling sibling read wf free scope is element describable
  refine ⟨!found.isEmpty, ?_, ?_⟩
  · have anchor : hasScope view.page.tree pseudo (String.singleton sign ++ text) n =
        .ok (parent, ":scope>" ++ describe e ++ (String.singleton sign ++ text)) := by
      rw [hasScope, if_pos (startsWithSibling_sign sibling), is, describeNode, element]
      rfl
    have below : (elementsOfParts view parent (some (":scope>" ++ describe e ++ (String.singleton sign ++ text)))
        [.node (.regular (String.singleton sign ++ text)) []]).result = .ok found := by
      simp only [elementsOfParts, byParts, Logged.result_bind, Logged.result_pure]
      simp only [bind, Except.bind, result]
    simp only [hasAll, firstRegular, blame, Logged.result_bind, Logged.result_ofExcept, Logged.result_reportAs]
    simp only [bind, Except.bind, anchor, below]
    cases found <;> rfl
  · rw [Bool.not_eq_true', List.isEmpty_eq_false_iff_exists_mem]
    simp only [members]
    constructor
    · rintro ⟨m, d, twin, leads⟩
      exact ⟨d, twin, m, leads⟩
    · rintro ⟨d, twin, m, leads⟩
      exact ⟨m, d, twin, leads⟩

theorem elementsFrom_sibling {n : NodeId} (locatable : Locatable view.page.tree n) :
    ∃ found, (elementsFrom view.page (String.singleton sign ++ text) n).result = .ok found ∧
      ∀ m, m ∈ found ↔ ∃ d, Twin view.page.tree n d ∧ LeadsTo view.page.tree sign scope compound d m := by
  obtain ⟨⟨parent, is⟩, e, element, describable⟩ := locatable
  obtain ⟨found, result, members⟩ := nativeElements_sibling sibling read wf free scope is element describable
  refine ⟨found, ?_, members⟩
  have other : (String.singleton sign ++ text).toList.head? ≠ some '>' := by
    rcases sibling with rfl | rfl <;> simp
  rw [elementsFrom, if_neg other, if_pos (startsWithSibling_sign sibling), is, describeNode, element]
  exact result

/-- A selector that leads to siblings is asked of an element by its description: the element is kept by `:has()`, or
led on from, as if it were any child of its parent that the description fits. Where it fits no other child, the
siblings of the element itself count. -/
theorem byPart_sibling {pseudo : PseudoClass} (has : pseudo.isHas = true) {elements : List NodeId}
    (locatable : ∀ n ∈ elements, Locatable view.page.tree n) :
    ∃ kept found,
      (byPart view (relativePart pseudo (String.singleton sign ++ text)) elements).result = .ok kept ∧
      (byPart view (.node (.regular (String.singleton sign ++ text)) []) elements).result = .ok found ∧
      (∀ n, n ∈ kept ↔ n ∈ elements ∧
        ∃ d, Twin view.page.tree n d ∧ ∃ m, LeadsTo view.page.tree sign scope compound d m) ∧
      (∀ m, m ∈ found ↔ ∃ n ∈ elements,
        ∃ d, Twin view.page.tree n d ∧ LeadsTo view.page.tree sign scope compound d m) ∧
      ((∀ n ∈ elements, ∀ d, Twin view.page.tree n d → d = n) →
        (∀ n, n ∈ kept ↔ n ∈ elements ∧ ∃ m, LeadsTo view.page.tree sign scope compound n m) ∧
        ∀ m, m ∈ found ↔ ∃ n ∈ elements, LeadsTo view.page.tree sign scope compound n m) := by
  obtain ⟨kept, keeps, inKept⟩ := result_keep fun n member =>
    hasAll_sibling wf sibling read free scope pseudo (locatable n member)
  obtain ⟨lists, leads, inFound⟩ := result_flatten fun n member =>
    elementsFrom_sibling wf sibling read free scope (locatable n member)
  have self {n : NodeId} (member : n ∈ elements) : Twin view.page.tree n n := by
    obtain ⟨e, element, _⟩ := (locatable n member).element
    exact ⟨rfl, .refl (by simp [PageTree.isElement, element])⟩
  refine ⟨kept, lists.flatten, ?_, ?_, inKept, inFound, fun alone => ⟨fun n => ?_, fun m => ?_⟩⟩
  · have relative : pseudo.isRelative = true := by cases pseudo <;> first | rfl | exact has
    rw [relativePart, byPart, byPseudo, if_pos relative, byRelative]
    simp only [if_pos has]
    exact keeps
  · have filled : (String.singleton sign ++ text).isEmpty = false := by
      rw [← Bool.not_eq_true, String.isEmpty_iff, ← String.toList_inj]
      simp
    rw [byPart]
    exact result_following filled [] leads
  · rw [inKept]
    refine and_congr_right fun member => ⟨?_, fun leads => ⟨n, self member, leads⟩⟩
    rintro ⟨d, twin, leads⟩
    exact alone n member d twin ▸ leads
  · rw [inFound]
    refine exists_congr fun n => and_congr_right fun member => ⟨?_, fun leads => ⟨n, self member, leads⟩⟩
    rintro ⟨d, twin, leads⟩
    exact alone n member d twin ▸ leads

end parts

/-- Two paragraphs around a quotation, the first of which has an identifier. -/
def quotation : Page := .ofMarkup "<p id=a></p><q></q><p></p>"

/-- The second paragraph is kept because its description fits the first, which is next to the quotation. -/
theorem byPart_sibling_quotation :
    quotation.tree.WellFormed ∧ Css.read " q" = .ok [.single [.tag "q"]] ∧
      (∀ n ∈ [⟨1⟩, ⟨3⟩], Locatable quotation.tree n) ∧
      SelectorTree.parse "p:has(+ q)" =
        .ok (.node .selectorList [.node .selector [.node (.regular "p") [], relativePart .has "+ q"]]) ∧
      (byPart ⟨quotation, .visible⟩ (relativePart .has "+ q") [⟨1⟩, ⟨3⟩]).result = .ok [⟨1⟩, ⟨3⟩] ∧
      ∃ d, Twin quotation.tree ⟨3⟩ d ∧ ∃ m, LeadsTo quotation.tree '+' none [.tag "q"] d m := by
  have right : (Page.ofHtml "<p id=a></p><q></q><p></p>").isOk = true := by decide +kernel
  have wf : (View.mk quotation .visible).page.tree.WellFormed :=
    (Page.Built.read (Page.ofHtml_ofMarkup right)).wellFormed
  have has : PseudoClass.isHas .has = true := rfl
  have read : Css.read " q" = .ok [.single [.tag "q"]] := rfl
  have tag : IsName "p" := ⟨'p', [], rfl, by decide, by decide⟩
  have locatable : ∀ n ∈ [⟨1⟩, ⟨3⟩], Locatable quotation.tree n := by
    have key : IsKey "id" := ⟨by decide, by decide, by decide⟩
    have first : Locatable quotation.tree ⟨1⟩ :=
      ⟨⟨⟨5⟩, by decide +kernel⟩, ⟨"p", [⟨"id", "a"⟩]⟩, by decide +kernel, tag, by decide, by decide, by simpa using key⟩
    have second : Locatable quotation.tree ⟨3⟩ :=
      ⟨⟨⟨5⟩, by decide +kernel⟩, ⟨"p", []⟩, by decide +kernel, tag, by decide, by decide, by simp⟩
    simpa using ⟨first, second⟩
  have result : (byPart ⟨quotation, .visible⟩ (relativePart .has "+ q") [⟨1⟩, ⟨3⟩]).result = .ok [⟨1⟩, ⟨3⟩] := by
    decide +kernel
  obtain ⟨kept, _, keeps, _, members, _⟩ :=
    byPart_sibling wf (.inl rfl) read rfl none has locatable
  obtain rfl : [⟨1⟩, ⟨3⟩] = kept := Except.ok.inj (result.symm.trans keeps)
  exact ⟨wf, read, locatable, by decide +kernel, result, ((members ⟨3⟩).mp (by simp)).2⟩

/-- An element is kept for the sibling of another. -/
theorem byPart_other_sibling :
    ¬∀ page n text compound kept, Page.Built page → (page.tree.parentElement? n).isSome →
      Css.read text = .ok [.single compound] → compoundUsesScope compound = false →
      (byPart ⟨page, .visible⟩ (relativePart .has (String.singleton '+' ++ text)) [n]).result = .ok kept →
      n ∈ kept → ∃ m, LeadsTo page.tree '+' none compound n m := by
  intro every
  have right : (Page.ofHtml "<p></p><q></q><p></p>").isOk = true := by decide +kernel
  have built : Page.Built (.ofMarkup "<p></p><q></q><p></p>") := .read (Page.ofHtml_ofMarkup right)
  obtain ⟨m, relates, _⟩ := every (.ofMarkup "<p></p><q></q><p></p>") ⟨3⟩ " q" [.tag "q"] [⟨3⟩] built
    (by decide +kernel) rfl rfl (by decide +kernel) (by simp)
  have children : (Page.ofMarkup "<p></p><q></q><p></p>").tree.children ⟨5⟩ = [⟨1⟩, ⟨2⟩] ++ ⟨3⟩ :: [] := by
    decide +kernel
  have none := (built.wellFormed.after_iff children (by decide)).mp relates.1
  simp at none

end Matching

end CosmeticRules
