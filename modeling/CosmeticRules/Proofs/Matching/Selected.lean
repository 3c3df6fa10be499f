import CosmeticRules.Proofs.Distinct
import CosmeticRules.Proofs.XPath.NodeSets

/-!
What a list of selectors selects: connected elements, each once, and together those that its selectors select one by
one. A selector starts from the document, and every further part of it keeps connected elements or leads on to
others: to what is below or beside them, above them, or in a path expression anywhere in the document.
-/

namespace CosmeticRules

namespace PageTree.WellFormed

variable {t : PageTree} (wf : t.WellFormed) {n m : NodeId}

include wf

theorem isWithin_root_of_parentElement? (connected : t.IsWithin n root) (is : t.parentElement? n = some m) :
    t.IsWithin m root :=
  wf.isWithin_root_of_parent? connected (Option.filter_eq_some_iff.mp is).1

theorem isWithin_of_mem_ancestorElements (member : m ∈ t.ancestorElements n) : t.IsWithin n m := by
  rw [ancestorElements, iterate_parentElement?] at member
  exact (wf.mem_ancestors.mp ((List.takeWhile_sublist _).subset member)).to_reflTransGen

end PageTree.WellFormed

namespace Logged

/-- The results of a run over a list are the results of its items. -/
theorem results_mapM {ε α β : Type} {f : α → Logged ε β} {xs : List α} {ys : List β}
    (result : (xs.mapM f).result = .ok ys) : List.Forall₂ (fun x y => (f x).result = .ok y) xs ys := by
  induction xs generalizing ys with
  | nil => exact Except.ok.inj result ▸ .nil
  | cons x rest ih =>
    rw [List.mapM_cons, result_bind] at result
    obtain ⟨y, found, result⟩ := exists_of_bind_eq_ok result
    rw [result_bind] at result
    obtain ⟨later, found', result⟩ := exists_of_bind_eq_ok result
    exact Except.ok.inj result ▸ .cons found (ih found')

theorem result_mapM_eq_ok_iff {ε α β : Type} {f : α → Logged ε β} {xs : List α} {ys : List β} :
    (xs.mapM f).result = .ok ys ↔ List.Forall₂ (fun x y => (f x).result = .ok y) xs ys := by
  refine ⟨results_mapM, fun each => ?_⟩
  induction each with
  | nil => rfl
  | cons found _ ih =>
    simp only [List.mapM_cons, result_bind, found, ih]
    rfl

end Logged

namespace Matching

open Logged PageTree

/-! Staying in the document. -/

section page

variable {page : Page} (wf : page.tree.WellFormed) {n : NodeId}

include wf

theorem nativeElements_connected (connected : page.tree.IsWithin n root) (selector : String) :
    (nativeElements page n selector).Gives fun found => ∀ m ∈ found, page.tree.IsWithin m root := by
  refine gives_ofExcept fun nodes same => ?_
  obtain ⟨chains, _, filtered⟩ := exists_of_bind_eq_ok (eq_ok_of_mapError same)
  obtain rfl := Except.ok.inj filtered
  intro m member
  have below := (List.mem_filter.mp (List.mem_filter.mp member).1).1
  exact (wf.mem_descendants.mp below).to_reflTransGen.trans connected

theorem elementsFrom_connected (connected : page.tree.IsWithin n root) (selector : String) :
    (elementsFrom page selector n).Gives fun found => ∀ m ∈ found, page.tree.IsWithin m root := by
  unfold elementsFrom
  split
  · exact nativeElements_connected wf connected _
  · split
    · split
      · rename_i parent is
        exact nativeElements_connected wf (wf.isWithin_root_of_parentElement? connected is) _
      · exact gives_pure (by simp)
    · exact nativeElements_connected wf connected _

theorem isWithin_root_of_ancestorAt? (connected : page.tree.IsWithin n root) {steps : Nat} {m : NodeId}
    (is : ancestorAt? page.tree steps n = some m) : page.tree.IsWithin m root := by
  induction steps generalizing n with
  | zero => exact Option.some.inj is ▸ connected
  | succ steps ih =>
    obtain ⟨parent, up, is⟩ := Option.bind_eq_some_iff.mp is
    exact ih (wf.isWithin_root_of_parentElement? connected up) is

theorem isWithin_root_of_closest? (connected : page.tree.IsWithin n root) {selector : String} {m : NodeId}
    (found : Css.closest? page.tree n selector = .ok (some m)) : page.tree.IsWithin m root := by
  obtain ⟨chains, _, found⟩ := exists_of_bind_eq_ok found
  split at found
  · rcases List.mem_cons.mp (List.mem_of_find?_eq_some (Except.ok.inj found)) with rfl | above
    · exact connected
    · exact wf.isWithin_root_of_isWithin connected (wf.isWithin_of_mem_ancestorElements above)
  · cases Except.ok.inj found

/-- Nothing that leads on from a connected node leads out of the document. -/
theorem keeps_connected : Keeps page (page.tree.IsWithin · root) where
  first := nativeElements_connected wf .refl
  onward := fun _ => elementsFrom_connected wf
  ancestor := fun _ connected _ _ is _ => isWithin_root_of_ancestorAt? wf connected is
  path := fun _ connected _ _ evaluated m member =>
    wf.isConnected_iff.mp (XPath.isConnected_of_mem_evaluate wf connected evaluated m member)
  closest := fun _ connected _ is _ _ =>
    isWithin_root_of_closest? wf (wf.isWithin_root_of_parentElement? connected is)

end page

/-! One selector and many. -/

variable {view : View} {list : SelectorTree} {found : List NodeId}

theorem result_select_single (selector : SelectorTree) :
    (select view (.node .selectorList [selector])).result =
      (elementsOf view root none selector).result.map List.eraseDups := by
  have alone : select view (.node .selectorList [selector]) =
      [selector].mapM (elementsOf view root none) >>= fun found => Pure.pure found.flatten.eraseDups := rfl
  rw [alone, List.mapM_cons, List.mapM_nil, result_bind, result_bind]
  cases (elementsOf view root none selector).result with
  | error e => rfl
  | ok own => exact congrArg (fun all => Except.ok (List.eraseDups all)) (List.append_nil own)

/-- Of a list that selects, every selector selects alone. -/
theorem exists_select_single (selected : (select view list).result = .ok found) :
    (∀ selector ∈ list.children, ∃ own, (select view (.node .selectorList [selector])).result = .ok own) ∧
      ∀ n, n ∈ found ↔ ∃ selector ∈ list.children, ∃ own,
        (select view (.node .selectorList [selector])).result = .ok own ∧ n ∈ own := by
  obtain ⟨lists, results, joined⟩ := exists_of_bind_eq_ok ((result_bind _ _).symm.trans selected)
  obtain rfl := Except.ok.inj joined
  have each := results_mapM results
  clear selected results joined
  have alone {selector : SelectorTree} {own : List NodeId}
      (is : (elementsOf view root none selector).result = .ok own) :
      (select view (.node .selectorList [selector])).result = .ok own.eraseDups := by
    rw [result_select_single, is]
    rfl
  generalize list.children = selectors at each
  induction each with
  | nil => simp
  | @cons selector own selectors lists is _ ih =>
    refine ⟨List.forall_mem_cons.mpr ⟨⟨_, alone is⟩, ih.1⟩, fun n => ?_⟩
    have later := ih.2 n
    simp only [List.mem_eraseDups, List.flatten_cons, List.mem_append, List.mem_cons, exists_eq_or_imp, alone is,
      Except.ok.injEq, exists_eq_left'] at later ⊢
    rw [later]

/-- What a list of selectors selects on a page: each node once, connected elements only, and as a set all that the
selectors select one by one. -/
theorem select_sound {page : Page} (built : Page.Built page) {source : TextSource} {list : SelectorTree}
    {found : List NodeId} (selected : (select ⟨page, source⟩ list).result = .ok found) :
    found.Nodup ∧ (∀ n ∈ found, page.tree.isElement n = true ∧ page.tree.isConnected n = true) ∧
      (∀ selector ∈ list.children, ∃ own,
        (select ⟨page, source⟩ (.node .selectorList [selector])).result = .ok own) ∧
      ∀ n, n ∈ found ↔ ∃ selector ∈ list.children, ∃ own,
        (select ⟨page, source⟩ (.node .selectorList [selector])).result = .ok own ∧ n ∈ own := by
  have wf := built.wellFormed
  have elements := select_gives ⟨page, source⟩ list found selected
  have connected := select_keeps (keeps_connected wf) list found selected
  refine ⟨?_, fun n member => ⟨elements n member, wf.isConnected_iff.mpr (connected n member)⟩,
    exists_select_single selected⟩
  obtain ⟨lists, _, joined⟩ := exists_of_bind_eq_ok ((result_bind _ _).symm.trans selected)
  exact Except.ok.inj joined ▸ nodup_eraseDups _

/-- The item around a link, and the items of a list that has any. -/
def aroundLink : SelectorTree :=
  .node .selectorList [
    .node .selector [.leaf (.regular "a"), .node .extended [.leaf (.absolute .upward "li")]],
    .node .selector [.leaf (.regular "ul"),
      .node .extended [.node (.relative .has) [.node .selectorList [.node .selector [.leaf (.regular "> li")]]]],
      .leaf (.regular "> li")]]

/-- Both selectors select the first item. -/
theorem select_sound_aroundLink :
    (Page.ofHtml "<ul><li id=a><a></a></li>.<li></li></ul>").isOk = true ∧
      (select ⟨XPath.twoItems, .visible⟩ aroundLink).result = .ok [⟨2⟩, ⟨5⟩] ∧
      XPath.twoItems.tree.isConnected ⟨5⟩ = true ∧
      ∃ selector ∈ aroundLink.children, ∃ own,
        (select ⟨XPath.twoItems, .visible⟩ (.node .selectorList [selector])).result = .ok own ∧ ⟨2⟩ ∈ own := by
  have selected : (select ⟨XPath.twoItems, .visible⟩ aroundLink).result = .ok [⟨2⟩, ⟨5⟩] := by decide +kernel
  obtain ⟨_, elements, _, union⟩ := select_sound XPath.built_twoItems selected
  exact ⟨XPath.isOk_twoItems, selected, (elements ⟨5⟩ (by simp)).2, (union ⟨2⟩).mp (by simp)⟩

end Matching

end CosmeticRules
