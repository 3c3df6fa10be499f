import CosmeticRules.Proofs.Decimal.Whole
import CosmeticRules.Proofs.Matching.Elements
import CosmeticRules.Proofs.XPath.ReadPrinted
import CosmeticRules.Proofs.XPath.Walk

/-!
Predicates that are numbers: a whole number leaves the item at its position. Among the elements above a node, the
nearest first, this is the one so many steps up.
-/

namespace CosmeticRules.XPath

/-! Keeping the item at one position. -/

section position

variable {test : Nat → Item → Except Error Bool} {target position : Nat}

theorem keepItems_passed (each : ∀ position item, test position item = .ok (decide (position = target)))
    (passed : target < position) (items : List Item) : keepItems test position items = .ok [] := by
  induction items generalizing position with
  | nil => rfl
  | cons item rest ih =>
    have other : decide (position = target) = false := decide_eq_false (Nat.ne_of_gt passed)
    rw [keepItems, each, other, ih (Nat.lt_succ_of_lt passed)]
    rfl

theorem keepItems_at (each : ∀ position item, test position item = .ok (decide (position = target)))
    (reached : position ≤ target) (items : List Item) :
    keepItems test position items = .ok (items[target - position]?).toList := by
  induction items generalizing position with
  | nil => rfl
  | cons item rest ih =>
    rw [keepItems, each]
    rcases Nat.eq_or_lt_of_le reached with rfl | before
    · rw [decide_eq_true rfl, keepItems_passed each (Nat.lt_succ_self _), Nat.sub_self]
      rfl
    · have further : target - position = (target - (position + 1)) + 1 := by omega
      rw [decide_eq_false (Nat.ne_of_lt before), ih before, further, List.getElem?_cons_succ]
      rfl

end position

/-- A whole number as a predicate leaves the item at its position. -/
theorem filtered_number (d : Document) {a : Nat} (narrow : a.log2 ≤ 52) (positive : 1 ≤ a) (items : List Item) :
    filtered d [.number ⟨a, 0⟩] items = .ok (items[a - 1]?).toList := by
  let test (position : Nat) (item : Item) : Except Error Bool := do
    return predicateHolds position (← (Expr.number ⟨a, 0⟩).value d ⟨item, position, items.length⟩)
  have each (position : Nat) (item : Item) : test position item = .ok (decide (position = a)) := by
    have holds : predicateHolds position (.number (Decimal.toFloat ⟨a, 0⟩)) = decide (position = a) := by
      rw [Binary64.toFloat_whole narrow, predicateHolds, Bool.eq_iff_iff, decide_eq_true_iff,
        Binary64.ofNat_beq_ofNat narrow, eq_comm]
    simp only [test, Expr.value, bind, Except.bind, holds]
    rfl
  have kept := keepItems_at each positive items
  rw [filtered, kept]
  rfl

/-! Steps upwards. -/

theorem sorted_toList (d : Document) (item : Option Item) : Item.sorted d item.toList = item.toList := by
  cases item with
  | none => rw [Option.toList_none, Item.sorted, List.mergeSort_nil, List.eraseReps, List.eraseRepsBy]
  | some item =>
    rw [Option.toList_some, Item.sorted, List.mergeSort_singleton]
    rfl

variable {t : PageTree}

theorem accepts_any (axis : Axis) (n : NodeId) : NodeTest.any.accepts t axis (.node n) = t.isElement n := by
  rw [PageTree.isElement, PageTree.element?]
  cases content : t.content? n with
  | none => simp [NodeTest.accepts, content]
  | some content' => cases content' <;> simp [NodeTest.accepts, content]

/-- The expression for the ancestor element so many steps up. -/
def stepsUp (a : Nat) : Expr := .path false [.mk .ancestor .any [.number ⟨a, 0⟩]]

theorem read_stepsUp (a : Nat) : Expr.read s!"ancestor::*[{a}]" = .ok (stepsUp a) := by
  have tokens : (stepsUp a).tokens =
      [.name "ancestor", .doubleColon, .star, .openBracket, .number ⟨a, 0⟩, .closeBracket] := rfl
  have text : String.ofList (spaced (fun _ => 0) (stepsUp a).tokens) = s!"ancestor::*[{a}]" := by
    rw [tokens, ← String.toList_inj]
    change _ = ("ancestor::*[" ++ toString a ++ "]").toList
    simp [spaced, Token.spelling]
  exact text ▸ Expr.read_spaced (fun _ => 0) rfl

theorem value_stepsUp (doc : t.IsDocument) {a : Nat} (narrow : a.log2 ≤ 52) (positive : 1 ≤ a) (n : NodeId) :
    (stepsUp a).value (.ofTree t) ⟨.node n, 1, 1⟩ = .ok (.items ((t.ancestorElements n)[a - 1]?.toList.map .node)) := by
  have above : (Axis.ancestor.items t (.node n)).filter (NodeTest.any.accepts t .ancestor) =
      (t.ancestorElements n).map .node := by
    rw [Axis.items, List.filter_map, ← doc.filter_ancestors]
    exact congrArg (List.map Item.node) (List.filter_congr fun m _ => accepts_any .ancestor m)
  have step : walk (.ofTree t) [.mk .ancestor .any [.number ⟨a, 0⟩]] [.node n] =
      .ok ((t.ancestorElements n)[a - 1]?.toList.map .node) := by
    rw [walk, List.mapM_cons, List.mapM_nil, tree_ofTree, above, filtered_number _ narrow positive, List.getElem?_map]
    simp only [bind, Except.bind, pure, Except.pure, List.flatten_cons, List.flatten_nil, List.append_nil, sorted_toList]
    rw [walk, Option.toList_map]
  simp only [stepsUp, Expr.value, step, Bool.false_eq_true, if_false]
  rfl

/-- What an expression for an ancestor gives: the ancestor element so many steps up, if there is one. -/
theorem evaluate_stepsUp (doc : t.IsDocument) {a : Nat} (narrow : a.log2 ≤ 52) (positive : 1 ≤ a) (n : NodeId) :
    evaluate t n s!"ancestor::*[{a}]" = .ok (t.ancestorElements n)[a - 1]?.toList := by
  rw [evaluate, read_stepsUp]
  simp only [bind, Except.bind, value_stepsUp doc narrow positive]
  cases is : (t.ancestorElements n)[a - 1]? with
  | none => rfl
  | some above =>
    have element := PageTree.isElement_of_mem_ancestorElements (List.mem_of_getElem? is)
    simp only [Option.toList_some, List.map_cons, List.map_nil, List.filterMap_cons, element, if_true, List.filterMap_nil]
    rfl

end CosmeticRules.XPath
