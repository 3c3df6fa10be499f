import CosmeticRules.Proofs.Matching.Elements
import CosmeticRules.Proofs.Page.Built
import CosmeticRules.Proofs.XPath.Printing
import CosmeticRules.Proofs.XPath.Walk
import Mathlib

/-!
The items that an expression gives at a connected node are items of the document, in its order and each once: every
axis stays in the document, predicates only leave items out, and what several axes give together is sorted.
-/

namespace CosmeticRules.XPath

open PageTree

variable {d : Document} {items : List Item}

/-- Items of the document in its order, each once. -/
structure NodeSet (d : Document) (items : List Item) : Prop where
  inside : ∀ item ∈ items, item.holder ∈ d.order
  ordered : items.Pairwise (Item.Precedes d)

namespace NodeSet

theorem singleton {item : Item} (inside : item.holder ∈ d.order) : NodeSet d [item] :=
  ⟨List.forall_mem_singleton.mpr inside, List.pairwise_singleton _ item⟩

theorem sorted (inside : ∀ item ∈ items, item.holder ∈ d.order) : NodeSet d (Item.sorted d items) where
  inside := fun item member => inside item (Item.mem_sorted.mp member)
  ordered := Item.pairwise_sorted inside

end NodeSet

/-! Axes. -/

section axes

variable {t : PageTree} (wf : t.WellFormed) {n m : NodeId}

include wf

theorem isWithin_root_of_mem_followingSiblings (connected : t.IsWithin n root) (member : m ∈ followingSiblings t n) :
    t.IsWithin m root := by
  unfold followingSiblings at member
  split at member
  · rename_i parent is
    have inChildren := (List.dropWhile_sublist _).subset (List.mem_of_mem_drop member)
    exact wf.isWithin_root_of_mem_children (wf.isWithin_root_of_parent? connected is) inChildren
  · cases member

theorem isWithin_root_of_mem_precedingSiblings (connected : t.IsWithin n root) (member : m ∈ precedingSiblings t n) :
    t.IsWithin m root := by
  unfold precedingSiblings at member
  split at member
  · rename_i parent is
    simp only [] at member
    split at member
    · have inChildren := (List.takeWhile_sublist _).subset (List.mem_reverse.mp member)
      exact wf.isWithin_root_of_mem_children (wf.isWithin_root_of_parent? connected is) inChildren
    · cases member
  · cases member

theorem isWithin_root_of_mem_cons_descendants (connected : t.IsWithin n root) (member : m ∈ n :: t.descendants n) :
    t.IsWithin m root :=
  ((mem_cons_descendants wf).mp member).trans connected

theorem isWithin_root_of_mem_cons_ancestors (connected : t.IsWithin n root) (member : m ∈ n :: t.ancestors n) :
    t.IsWithin m root :=
  wf.isWithin_root_of_isWithin connected ((mem_cons_ancestors wf).mp member)

/-- No axis leads out of the document. -/
theorem Axis.isWithin_root_of_mem_items {axis : Axis} {item found : Item} (connected : t.IsWithin item.holder root)
    (member : found ∈ axis.items t item) : t.IsWithin found.holder root := by
  cases item with
  | node n =>
    have connected : t.IsWithin n root := connected
    have nodes {reached : List NodeId} (all : ∀ m ∈ reached, t.IsWithin m root)
        (member : found ∈ reached.map Item.node) : t.IsWithin found.holder root := by
      obtain ⟨m, inReached, rfl⟩ := List.mem_map.mp member
      exact all m inReached
    cases axis with
    | child => exact nodes (fun m => wf.isWithin_root_of_mem_children connected) member
    | descendant =>
      exact nodes (fun m below => isWithin_root_of_mem_cons_descendants wf connected (.tail _ below)) member
    | descendantOrSelf => exact nodes (fun m => isWithin_root_of_mem_cons_descendants wf connected) member
    | parent => exact nodes (fun m is => wf.isWithin_root_of_parent? connected (Option.mem_toList.mp is)) member
    | ancestor =>
      exact nodes (fun m above => isWithin_root_of_mem_cons_ancestors wf connected (.tail _ above)) member
    | ancestorOrSelf => exact nodes (fun m => isWithin_root_of_mem_cons_ancestors wf connected) member
    | followingSibling => exact nodes (fun m => isWithin_root_of_mem_followingSiblings wf connected) member
    | precedingSibling => exact nodes (fun m => isWithin_root_of_mem_precedingSiblings wf connected) member
    | self => exact List.mem_singleton.mp member ▸ connected
    | attributes =>
      unfold Axis.items at member
      simp only [] at member
      split at member
      · obtain ⟨a, _, rfl⟩ := List.mem_map.mp member
        exact connected
      · cases member
  | attributeOf owner name =>
    have connected : t.IsWithin owner root := connected
    have above (member : found ∈ (owner :: t.ancestors owner).map Item.node) : t.IsWithin found.holder root := by
      obtain ⟨m, inReached, rfl⟩ := List.mem_map.mp member
      exact isWithin_root_of_mem_cons_ancestors wf connected inReached
    cases axis with
    | parent | self => exact List.mem_singleton.mp member ▸ connected
    | ancestor => exact above member
    | ancestorOrSelf =>
      rcases List.mem_cons.mp member with rfl | member
      · exact connected
      · exact above member
    | child | descendant | descendantOrSelf | followingSibling | precedingSibling | attributes => cases member

end axes

/-! Predicates. -/

theorem keepItems_sublist {test : Nat → Item → Except Error Bool} {position : Nat} {kept : List Item}
    (result : keepItems test position items = .ok kept) : kept.Sublist items := by
  induction items generalizing position kept with
  | nil => exact Except.ok.inj result ▸ .refl _
  | cons item rest ih =>
    obtain ⟨passes, _, result⟩ := exists_of_bind_eq_ok result
    obtain ⟨later, found, result⟩ := exists_of_bind_eq_ok result
    obtain rfl := Except.ok.inj result
    cases passes with
    | true => exact (ih found).cons_cons item
    | false => exact (ih found).cons item

/-- Predicates leave items out and keep the order of the others. -/
theorem filtered_sublist {predicates : List Expr} {kept : List Item} (result : filtered d predicates items = .ok kept) :
    kept.Sublist items := by
  induction predicates generalizing items with
  | nil =>
    rw [filtered] at result
    exact Except.ok.inj result ▸ .refl _
  | cons predicate rest ih =>
    rw [filtered] at result
    obtain ⟨first, found, result⟩ := exists_of_bind_eq_ok result
    exact (ih result).trans (keepItems_sublist found)

/-! Steps. -/

theorem forall_mem_of_mapM_eq_ok {ε α β : Type} {f : α → Except ε β} {P : β → Prop} {xs : List α} {ys : List β}
    (result : xs.mapM f = .ok ys) (each : ∀ x ∈ xs, ∀ y, f x = .ok y → P y) : ∀ y ∈ ys, P y := by
  induction xs generalizing ys with
  | nil =>
    obtain rfl := Except.ok.inj result
    simp
  | cons x rest ih =>
    obtain ⟨first, others⟩ := List.forall_mem_cons.mp each
    rw [List.mapM_cons] at result
    obtain ⟨y, found, result⟩ := exists_of_bind_eq_ok result
    obtain ⟨later, found', result⟩ := exists_of_bind_eq_ok result
    obtain rfl := Except.ok.inj result
    exact List.forall_mem_cons.mpr ⟨first y found, ih found' others⟩

section document

variable {t : PageTree} (wf : t.WellFormed)

include wf

/-- What a sequence of steps reaches from items of the document. -/
theorem nodeSet_walk {steps : List Step} {found : List Item} (start : NodeSet (.ofTree t) items)
    (walked : walk (.ofTree t) steps items = .ok found) : NodeSet (.ofTree t) found := by
  induction steps generalizing items with
  | nil =>
    rw [walk] at walked
    exact Except.ok.inj walked ▸ start
  | cons step rest ih =>
    obtain ⟨axis, test, predicates⟩ := step
    rw [walk] at walked
    obtain ⟨reached, each, walked⟩ := exists_of_bind_eq_ok walked
    refine ih (.sorted fun item member => ?_) walked
    obtain ⟨list, inReached, inList⟩ := List.mem_flatten.mp member
    refine forall_mem_of_mapM_eq_ok each (P := fun list => ∀ item ∈ list, item.holder ∈ (Document.ofTree t).order)
      (fun origin inItems list result item inList => ?_) list inReached item inList
    have onAxis := (List.mem_filter.mp ((filtered_sublist result).subset inList)).1
    have connected := (mem_order wf).mp (start.inside origin inItems)
    exact (mem_order wf).mpr (Axis.isWithin_root_of_mem_items wf connected onAxis)

end document

/-! Expressions. -/

/-- The value is no list of items. -/
def IsOther : Except Error Result → Prop
  | .ok (.items _) => False
  | _ => True

theorem IsOther.ne {value : Except Error Result} (other : IsOther value) : value ≠ .ok (.items items) := by
  rintro rfl
  exact other

theorem isOther_bind {α : Type} {f : α → Except Error Result} (other : ∀ a, IsOther (f a)) (x : Except Error α) :
    IsOther (x >>= f) := by
  cases x with
  | error e => trivial
  | ok a => exact other a

theorem isOther_map {α : Type} {f : α → Result} (other : ∀ a, IsOther (.ok (f a))) (x : Except Error α) :
    IsOther (x.map f) := by
  cases x with
  | error e => trivial
  | ok a => exact other a

/-- No function gives items. -/
theorem isOther_call (t : PageTree) (place : Place) (function : String) (arguments : List (Except Error Result)) :
    IsOther (call t place function arguments) := by
  unfold call
  simp only []
  split
  case h_1 | h_2 | h_5 | h_6 | h_17 => trivial
  case h_4 | h_7 | h_8 | h_12 =>
    refine isOther_bind (fun _ => ?_) _
    trivial
  case h_9 | h_13 | h_14 =>
    refine isOther_map (fun _ => ?_) _
    trivial
  case h_10 | h_11 =>
    refine isOther_bind (fun _ => isOther_bind (fun _ => ?_) _) _
    trivial
  case h_3 =>
    refine isOther_bind (fun value => ?_) _
    cases value <;> trivial
  case h_15 | h_16 =>
    split
    · trivial
    · refine isOther_bind (fun value => ?_) _
      split <;> trivial

section document

variable {t : PageTree} (wf : t.WellFormed)

include wf

/-- The items that an expression gives at an item of the document. -/
theorem nodeSet_value {place : Place} (inside : place.item.holder ∈ (Document.ofTree t).order) (e : Expr)
    {found : List Item} (value : e.value (.ofTree t) place = .ok (.items found)) : NodeSet (.ofTree t) found := by
  induction e using Expr.induction generalizing found with
  | literal text | number x => cases value
  | or left right =>
    refine absurd value (IsOther.ne ?_)
    rw [Expr.value]
    refine isOther_bind (fun _ => ?_) _
    split
    · trivial
    · refine isOther_bind (fun _ => ?_) _
      trivial
  | and left right =>
    refine absurd value (IsOther.ne ?_)
    rw [Expr.value]
    refine isOther_bind (fun _ => ?_) _
    split
    · refine isOther_bind (fun _ => ?_) _
      trivial
    · trivial
  | compare left c right =>
    refine absurd value (IsOther.ne ?_)
    rw [Expr.value]
    refine isOther_bind (fun _ => isOther_bind (fun _ => ?_) _) _
    trivial
  | call function arguments =>
    refine absurd value (IsOther.ne ?_)
    rw [Expr.value]
    exact isOther_call _ _ _ _
  | union left right first second =>
    rw [Expr.value] at value
    obtain ⟨a, isA, value⟩ := exists_of_bind_eq_ok value
    obtain ⟨b, isB, value⟩ := exists_of_bind_eq_ok value
    split at value
    · obtain rfl := Result.items.inj (Except.ok.inj value)
      have left := (first isA).inside
      have right := (second isB).inside
      exact .sorted fun item member => (List.mem_append.mp member).elim (left item) (right item)
    · cases value
  | path absolute steps =>
    rw [Expr.value] at value
    obtain ⟨reached, walked, value⟩ := exists_of_bind_eq_ok value
    obtain rfl := Result.items.inj (Except.ok.inj value)
    refine nodeSet_walk wf (.singleton ?_) walked
    split
    · exact (mem_order wf).mpr .refl
    · exact inside

/-- The elements that an expression gives at a node of the document. -/
theorem nodeSet_evaluate {n : NodeId} (connected : t.IsWithin n root) {text : String} {found : List NodeId}
    (evaluated : evaluate t n text = .ok found) : NodeSet (.ofTree t) (found.map .node) := by
  obtain ⟨e, items, _, value, rfl⟩ := exists_items_of_evaluate evaluated
  have start : (Item.node n).holder ∈ (Document.ofTree t).order := (mem_order wf).mpr connected
  have set := nodeSet_value wf start e value
  refine ⟨List.forall_mem_map.mpr fun m member => ?_, ?_⟩
  · obtain ⟨item, inItems, is⟩ := List.mem_filterMap.mp member
    exact (Item.element?_eq_some_iff.mp is).1 ▸ set.inside item inItems
  · refine List.pairwise_map.mpr (List.pairwise_filterMap.mpr (set.ordered.imp ?_))
    intro a b precedes m isA n isB
    exact (Item.element?_eq_some_iff.mp isA).1 ▸ (Item.element?_eq_some_iff.mp isB).1 ▸ precedes

/-- Of two nodes of the document, the one at the earlier place comes first. -/
theorem precedes_of_items {m n : NodeId} (inM : m ∈ (Document.ofTree t).order) (inN : n ∈ (Document.ofTree t).order)
    (precedes : Item.Precedes (.ofTree t) (.node m) (.node n)) : t.Precedes m n := by
  have ordered : (Document.ofTree t).order.Pairwise t.Precedes := wf.pairwise_subtreeTo t.size
  have later := List.pairwise_iff_getElem.mp ordered _ _ (List.idxOf_lt_length_of_mem inM)
    (List.idxOf_lt_length_of_mem inN) (Item.rank_lt_of_precedes inM precedes)
  rwa [List.getElem_idxOf, List.getElem_idxOf] at later

theorem pairwise_evaluate {n : NodeId} (connected : t.IsWithin n root) {text : String} {found : List NodeId}
    (evaluated : evaluate t n text = .ok found) : found.Pairwise t.Precedes := by
  have set := nodeSet_evaluate wf connected evaluated
  have inside := List.forall_mem_map.mp set.inside
  exact (List.pairwise_map.mp set.ordered).imp_of_mem fun inM inN => precedes_of_items wf (inside _ inM) (inside _ inN)

theorem isConnected_of_mem_evaluate {n : NodeId} (connected : t.IsWithin n root) {text : String} {found : List NodeId}
    (evaluated : evaluate t n text = .ok found) : ∀ m ∈ found, t.isConnected m = true := by
  have inside := List.forall_mem_map.mp (nodeSet_evaluate wf connected evaluated).inside
  exact fun m member => wf.isConnected_iff.mpr ((mem_order wf).mp (inside m member))

end document

/-- What an expression gives at a connected node of a page: connected elements in document order, none twice. -/
theorem evaluate_in_order {page : Page} (built : Page.Built page) {n : NodeId}
    (connected : page.tree.isConnected n = true) {text : String} {found : List NodeId}
    (evaluated : evaluate page.tree n text = .ok found) :
    found.Pairwise page.tree.Precedes ∧ found.Nodup ∧
      ∀ m ∈ found, page.tree.isElement m = true ∧ page.tree.isConnected m = true := by
  have wf := built.wellFormed
  have within := wf.isConnected_iff.mp connected
  have ordered := pairwise_evaluate wf within evaluated
  exact ⟨ordered, wf.nodup_of_pairwise ordered, fun m member =>
    ⟨Matching.evaluate_isElement evaluated m member, isConnected_of_mem_evaluate wf within evaluated m member⟩⟩

/-- A list with a link in its first item. -/
def twoItems : Page := .ofMarkup "<ul><li id=a><a></a></li>.<li></li></ul>"

theorem isOk_twoItems : (Page.ofHtml "<ul><li id=a><a></a></li>.<li></li></ul>").isOk = true := by decide +kernel

theorem built_twoItems : Page.Built twoItems := .read (Page.ofHtml_ofMarkup isOk_twoItems)

/-- From the link upwards, through an attribute to its owner, and on to the item after that. The root element and
the body are made after the list, but come before it in the document. -/
theorem evaluate_in_order_twoItems :
    (Page.ofHtml "<ul><li id=a><a></a></li>.<li></li></ul>").isOk = true ∧ twoItems.tree.isConnected ⟨3⟩ = true ∧
      evaluate twoItems.tree ⟨3⟩ "../following-sibling::li[preceding-sibling::*]|//@id/..|ancestor-or-self::*" =
        .ok [⟨6⟩, ⟨7⟩, ⟨1⟩, ⟨2⟩, ⟨3⟩, ⟨5⟩] ∧
      twoItems.tree.Precedes ⟨6⟩ ⟨2⟩ ∧ twoItems.tree.isElement ⟨2⟩ = true := by
  have connected : twoItems.tree.isConnected ⟨3⟩ = true := by decide +kernel
  have nodes : twoItems.tree.nodes = #[⟨none, [⟨6⟩], .document⟩, ⟨some ⟨7⟩, [⟨2⟩, ⟨4⟩, ⟨5⟩], .element ⟨"ul", []⟩⟩,
      ⟨some ⟨1⟩, [⟨3⟩], .element ⟨"li", [⟨"id", "a"⟩]⟩⟩, ⟨some ⟨2⟩, [], .element ⟨"a", []⟩⟩,
      ⟨some ⟨1⟩, [], .text "."⟩, ⟨some ⟨1⟩, [], .element ⟨"li", []⟩⟩, ⟨some ⟨0⟩, [⟨7⟩], .element ⟨"html", []⟩⟩,
      ⟨some ⟨6⟩, [⟨1⟩], .element ⟨"body", []⟩⟩] := by decide +kernel
  have evaluated : evaluate twoItems.tree ⟨3⟩
      "../following-sibling::li[preceding-sibling::*]|//@id/..|ancestor-or-self::*" =
        .ok [⟨6⟩, ⟨7⟩, ⟨1⟩, ⟨2⟩, ⟨3⟩, ⟨5⟩] := by
    have tree : twoItems.tree = ⟨_⟩ := congrArg PageTree.mk nodes
    rw [tree]
    cbv
  obtain ⟨ordered, _, elements⟩ := evaluate_in_order built_twoItems connected evaluated
  exact ⟨isOk_twoItems, connected, evaluated, (List.pairwise_cons.mp ordered).1 ⟨2⟩ (by simp), (elements ⟨2⟩ (by simp)).1⟩

end CosmeticRules.XPath
