import CosmeticRules.Matching.Selection

/-!
Only elements are selected: a native selector selects elements, and every further part of a selector keeps
some of them or leads on to elements. The run through the parts is the same for every property that each way of
leading on from a node keeps.
-/

namespace CosmeticRules

namespace Logged

variable {ε ε' α β : Type} {P : α → Prop} {Q : β → Prop}

/-- The result has a property, if there is one. -/
def Gives (x : Logged ε α) (P : α → Prop) : Prop := ∀ a, x.result = .ok a → P a

theorem gives_pure {a : α} (holds : P a) : (Pure.pure a : Logged ε α).Gives P := by
  intro b same
  exact Except.ok.inj same ▸ holds

theorem gives_throw {e : ε} : (throw e : Logged ε α).Gives P := by
  intro a same
  simp at same

theorem Gives.bind {x : Logged ε α} {f : α → Logged ε β} (first : x.Gives P)
    (next : ∀ a, P a → (f a).Gives Q) : (x >>= f).Gives Q := by
  intro b same
  obtain ⟨a, found, rest⟩ := exists_of_bind_eq_ok ((result_bind x f).symm.trans same)
  exact next a (first a found) b rest

/-- Where nothing is needed of the first result. -/
theorem gives_bind {x : Logged ε α} {f : α → Logged ε β} (next : ∀ a, (f a).Gives Q) :
    (x >>= f).Gives Q :=
  Gives.bind (P := fun _ => True) (fun _ _ => trivial) fun a _ => next a

theorem Gives.reportAs {x : Logged ε α} (gives : x.Gives P) (describe : ε → String)
    (replace : ε → ε') : (x.reportAs describe replace).Gives P := by
  intro a same
  exact gives a (eq_ok_of_mapError ((result_reportAs describe replace x).symm.trans same))

theorem gives_ofExcept {x : Except ε α} (holds : ∀ a, x = .ok a → P a) : (ofExcept x).Gives P := holds

theorem gives_mapM {f : α → Logged ε β} {xs : List α} (each : ∀ x ∈ xs, (f x).Gives Q) :
    (xs.mapM f).Gives fun ys => ∀ y ∈ ys, Q y := by
  induction xs with
  | nil => exact gives_pure (by simp)
  | cons x rest ih =>
    obtain ⟨first, others⟩ := List.forall_mem_cons.mp each
    rw [List.mapM_cons]
    refine first.bind fun y holds => (ih others).bind fun ys all => gives_pure ?_
    exact List.forall_mem_cons.mpr ⟨holds, all⟩

end Logged

namespace PageTree

variable {t : PageTree} {n m : NodeId}

theorem isElement_of_parentElement? (is : t.parentElement? n = some m) : t.isElement m = true :=
  (Option.filter_eq_some_iff.mp is).2

theorem isElement_of_mem_ancestorElements (member : m ∈ t.ancestorElements n) : t.isElement m = true := by
  unfold ancestorElements at member
  generalize t.size = count at member
  induction count generalizing n with
  | zero => simp [iterate] at member
  | succ count ih =>
    rw [iterate] at member
    split at member
    · rename_i next is
      rcases List.mem_cons.mp member with rfl | later
      · exact isElement_of_parentElement? is
      · exact ih later
    · simp at member

end PageTree

namespace XPath

variable {t : PageTree} {n : NodeId}

/-- The element that an item is. -/
def Item.element? (t : PageTree) : Item → Option NodeId
  | .node n => if t.isElement n then some n else none
  | .attributeOf _ _ => none

theorem Item.element?_eq_some_iff {item : Item} :
    item.element? t = some n ↔ item = .node n ∧ t.isElement n = true := by
  cases item with
  | node m =>
    rw [element?, Item.node.injEq]
    split
    · rename_i element
      rw [Option.some.injEq]
      exact ⟨fun same => ⟨same, same ▸ element⟩, And.left⟩
    · rename_i other
      refine iff_of_false (by simp) ?_
      rintro ⟨rfl, element⟩
      exact other element
  | attributeOf owner name => simp [element?]

/-- What an expression denotes are the elements among the items that it gives. -/
theorem exists_items_of_evaluate {text : String} {found : List NodeId} (evaluated : evaluate t n text = .ok found) :
    ∃ e items, Expr.read text = .ok e ∧ e.value (.ofTree t) ⟨.node n, 1, 1⟩ = .ok (.items items) ∧
      found = items.filterMap (Item.element? t) := by
  obtain ⟨e, read, evaluated⟩ := exists_of_bind_eq_ok evaluated
  obtain ⟨value, is, chosen⟩ := exists_of_bind_eq_ok evaluated
  split at chosen
  · rename_i items
    refine ⟨e, items, read, is, (Except.ok.inj chosen).symm.trans ?_⟩
    refine congrArg (fun choose => items.filterMap choose) (funext fun item => ?_)
    cases item <;> rfl
  · simp [throw, throwThe, MonadExceptOf.throw] at chosen

end XPath

namespace Matching

open Logged

variable {view : View} {P : NodeId → Prop}

/-! A property of nodes is one of everything that is selected if it holds of what a selector starts with and every
way of leading on from a node keeps it. -/

theorem gives_flatten {α : Type} {f : α → Outcome (List NodeId)} {items : List α}
    (each : ∀ a ∈ items, (f a).Gives fun found => ∀ m ∈ found, P m) :
    (items.mapM f).Gives fun lists => ∀ m ∈ lists.flatten, P m := by
  intro lists same m member
  obtain ⟨found, inLists, inFound⟩ := List.mem_flatten.mp member
  exact gives_mapM each lists same found inLists m inFound

theorem gives_filterMap {f : NodeId → Outcome (Option NodeId)} {elements : List NodeId}
    (each : ∀ n ∈ elements, (f n).Gives fun found => ∀ m, found = some m → P m) :
    (elements.mapM f).Gives fun found => ∀ m ∈ found.filterMap id, P m := by
  intro found same m member
  obtain ⟨entry, inFound, is⟩ := List.mem_filterMap.mp member
  exact gives_mapM each found same entry inFound m is

theorem keep_gives (test : NodeId → Outcome Bool) (elements : List NodeId) :
    (keep test elements).Gives (· ⊆ elements) := by
  induction elements with
  | nil => exact gives_pure (List.Subset.refl _)
  | cons n rest ih =>
    unfold keep
    refine gives_bind fun passes => ih.bind fun kept within => gives_pure ?_
    split
    · exact List.cons_subset_cons n within
    · exact List.subset_cons_of_subset n within

/-- What a selector starts with has the property, and so has what a node with it leads to. -/
structure Keeps (page : Page) (P : NodeId → Prop) : Prop where
  first : ∀ selector, (nativeElements page PageTree.root selector).Gives fun found => ∀ m ∈ found, P m
  onward : ∀ n, P n → ∀ selector, (elementsFrom page selector n).Gives fun found => ∀ m ∈ found, P m
  ancestor : ∀ n, P n → ∀ steps m, ancestorAt? page.tree steps n = some m → page.tree.isElement m = true → P m
  path : ∀ n, P n → ∀ text found, XPath.evaluate page.tree n text = .ok found → ∀ m ∈ found, P m
  closest : ∀ n, P n → ∀ parent, page.tree.parentElement? n = some parent →
    ∀ selector m, Css.closest? page.tree parent selector = .ok (some m) → P m

namespace Keeps

variable {page : Page} (keeps : Keeps page P) {elements : List NodeId} (all : ∀ n ∈ elements, P n)

include keeps all

theorem nthAncestors (pseudo : PseudoClass) (argument : String) :
    (nthAncestors page pseudo argument elements).Gives fun found => ∀ m ∈ found, P m := by
  unfold Matching.nthAncestors
  split
  · exact gives_throw
  · rename_i depth _
    refine Gives.bind (P := fun found => ∀ m ∈ found.filterMap id, page.tree.isElement m = true → P m)
      (gives_filterMap fun n member => ?_) fun found each => gives_pure fun m member => ?_
    · split
      · rename_i ancestor is
        exact gives_pure fun m same => keeps.ancestor n (all n member) depth m (is.trans same)
      · exact gives_bind fun _ => gives_pure (by simp)
    · obtain ⟨inFound, element⟩ := List.mem_filter.mp member
      exact each m inFound element

theorem byPath (argument : String) : (byPath page argument elements).Gives fun found => ∀ m ∈ found, P m := by
  have found := gives_flatten (P := P) fun n member =>
    (gives_ofExcept (keeps.path n (all n member) argument)).reportAs XPath.Error.report fun _ =>
      MatchError.badArgument .xpath argument
  have flat := found.bind (Q := fun found => ∀ m ∈ found, P m) fun lists each => gives_pure each
  unfold Matching.byPath
  simp only []
  split
  · exact gives_bind fun _ => flat
  · exact flat

theorem upward (argument : String) : (upward page argument elements).Gives fun found => ∀ m ∈ found, P m := by
  unfold Matching.upward
  split
  · exact keeps.nthAncestors all _ _
  · refine gives_bind fun _ => (gives_filterMap fun n member => ?_).bind fun found each => gives_pure each
    split
    · rename_i parent is
      refine gives_ofExcept fun found same m isM => ?_
      exact keeps.closest n (all n member) parent is argument m ((eq_ok_of_mapError same).trans (congrArg _ isM))
    · exact gives_pure (by simp)

theorem following (part : SelectorTree) :
    (following page part elements).Gives fun found => ∀ m ∈ found, P m := by
  refine gives_bind fun selector => ?_
  exact (gives_flatten fun n member => keeps.onward n (all n member) selector).bind fun lists each =>
    gives_pure each

end Keeps

section parts

variable (keeps : Keeps view.page P) {elements : List NodeId} (all : ∀ n ∈ elements, P n)

include keeps all

theorem byAbsolute_gives (pseudo : PseudoClass) (argument : String) :
    (byAbsolute view pseudo argument elements).Gives fun found => ∀ m ∈ found, P m := by
  unfold byAbsolute
  split
  · exact keeps.nthAncestors all _ _
  · exact keeps.byPath all _
  · exact keeps.upward all _
  · split
    · exact fun found same m member => all m (keep_gives _ elements found same member)
    · exact gives_pure (by simp)

omit keeps in
theorem byRelative_gives (pseudo : PseudoClass) (lists : List SelectorTree) :
    (byRelative view pseudo lists elements).Gives fun found => ∀ m ∈ found, P m := by
  cases lists with
  | nil =>
    rw [byRelative]
    exact gives_throw
  | cons first rest =>
    obtain ⟨kind, alternatives⟩ := first
    rw [byRelative]
    exact fun found same m member => all m (keep_gives _ elements found same member)

theorem byPseudo_gives (children : List SelectorTree) :
    (byPseudo view children elements).Gives fun found => ∀ m ∈ found, P m := by
  unfold byPseudo
  split
  · exact gives_throw
  · split
    · exact byRelative_gives all _ _
    · split
      · exact gives_throw
      · exact byAbsolute_gives keeps all _ _
  · split
    · exact byRelative_gives all _ _
    · exact gives_throw
  · exact gives_throw

theorem byPart_gives (part : SelectorTree) : (byPart view part elements).Gives fun found => ∀ m ∈ found, P m := by
  unfold byPart
  split
  · exact byPseudo_gives keeps all _
  · exact keeps.following all _
  · exact gives_pure all

end parts

section selectors

variable (keeps : Keeps view.page P)

include keeps

/-- A run through parts keeps the property. -/
theorem byParts_gives (parts : List SelectorTree) {elements : List NodeId} (all : ∀ n ∈ elements, P n) :
    (byParts view parts elements).Gives fun found => ∀ m ∈ found, P m := by
  induction parts generalizing elements with
  | nil =>
    rw [byParts]
    exact gives_pure all
  | cons part rest ih =>
    rw [byParts]
    exact (byPart_gives keeps all part).bind fun found each => ih each

theorem elementsOf_gives (selector : SelectorTree) :
    (elementsOf view PageTree.root none selector).Gives fun found => ∀ m ∈ found, P m := by
  obtain ⟨kind, parts⟩ := selector
  rw [elementsOf]
  cases parts with
  | nil =>
    rw [elementsOfParts]
    exact gives_pure (by simp)
  | cons first rest =>
    unfold elementsOfParts
    exact gives_bind fun text => (keeps.first _).bind fun found each => byParts_gives keeps rest each

theorem select_keeps (list : SelectorTree) : (select view list).Gives fun found => ∀ m ∈ found, P m := by
  refine (gives_flatten fun selector _ => elementsOf_gives keeps selector).bind fun lists each => gives_pure ?_
  exact fun m member => each m (List.mem_eraseDups.mp member)

end selectors

/-! Elements. -/

theorem nativeElements_gives (page : Page) (root : NodeId) (selector : String) :
    (nativeElements page root selector).Gives fun found => ∀ m ∈ found, page.tree.isElement m = true := by
  refine gives_ofExcept fun nodes same => ?_
  obtain ⟨chains, _, filtered⟩ := exists_of_bind_eq_ok (eq_ok_of_mapError same)
  obtain rfl := Except.ok.inj filtered
  intro n member
  exact (List.mem_filter.mp (List.mem_filter.mp member).1).2

theorem elementsFrom_gives (page : Page) (selector : String) (n : NodeId) :
    (elementsFrom page selector n).Gives fun found => ∀ m ∈ found, page.tree.isElement m = true := by
  unfold elementsFrom
  split
  · exact nativeElements_gives _ _ _
  · split
    · split
      · exact nativeElements_gives _ _ _
      · exact gives_pure (by simp)
    · exact nativeElements_gives _ _ _

theorem evaluate_isElement {t : PageTree} {n : NodeId} {text : String} {found : List NodeId}
    (evaluated : XPath.evaluate t n text = .ok found) : ∀ m ∈ found, t.isElement m = true := by
  obtain ⟨_, items, _, _, rfl⟩ := XPath.exists_items_of_evaluate evaluated
  intro m member
  obtain ⟨item, _, is⟩ := List.mem_filterMap.mp member
  exact (XPath.Item.element?_eq_some_iff.mp is).2

theorem closest_isElement {t : PageTree} {n m : NodeId} {selector : String}
    (found : Css.closest? t n selector = .ok (some m)) : t.isElement m = true := by
  obtain ⟨chains, _, found⟩ := exists_of_bind_eq_ok found
  split at found
  · rename_i element
    rcases List.mem_cons.mp (List.mem_of_find?_eq_some (Except.ok.inj found)) with rfl | above
    · exact element
    · exact PageTree.isElement_of_mem_ancestorElements above
  · exact absurd (Except.ok.inj found) (by simp)

theorem keeps_isElement (page : Page) : Keeps page (page.tree.isElement · = true) where
  first := nativeElements_gives page PageTree.root
  onward := fun n _ selector => elementsFrom_gives page selector n
  ancestor := fun _ _ _ _ _ element => element
  path := fun _ _ _ _ => evaluate_isElement
  closest := fun _ _ _ _ _ _ => closest_isElement

/-- Selecting gives elements. -/
theorem select_gives (view : View) (list : SelectorTree) :
    (select view list).Gives fun found => ∀ m ∈ found, view.page.tree.isElement m = true :=
  select_keeps (keeps_isElement view.page) list

end Matching

end CosmeticRules
