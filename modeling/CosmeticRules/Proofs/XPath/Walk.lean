import CosmeticRules.Proofs.Page.Connected
import CosmeticRules.Proofs.XPath.ElementPath
import CosmeticRules.Proofs.XPath.ItemOrder

/-!
Walking along a path step by step: after each step the items are the nodes that the path so far leads to, each
once and in document order.
-/

namespace CosmeticRules.XPath

open PageTree

/-! Predicates. -/

variable {d : Document} {n : NodeId}

/-- The step to attributes finds the one with the name, if the element has it. -/
theorem walk_attributeStep (condition : AttributeCondition) :
    ∃ found, walk d [condition.attributeStep] [.node n] = .ok found ∧ ∀ item, item ∈ found ↔
      item = .attributeOf n condition.name ∧
        ∃ e, d.tree.element? n = some e ∧ (e.attribute? condition.name).isSome := by
  have walked : walk d [condition.attributeStep] [.node n] = .ok (Item.sorted d
      ((Axis.attributes.items d.tree (.node n)).filter
        ((NodeTest.name condition.name).accepts d.tree .attributes))) := by
    simp [AttributeCondition.attributeStep, walk, filtered, pure, bind, Except.pure, Except.bind]
  refine ⟨_, walked, fun item => ?_⟩
  rw [Item.mem_sorted, List.mem_filter]
  cases is : d.tree.element? n with
  | none => simp [Axis.items, is]
  | some e =>
    have has : (e.attribute? condition.name).isSome ↔ ∃ a ∈ e.attributes, a.name = condition.name := by
      simp [Element.attribute?]
    simp only [Axis.items, is, List.mem_map, Option.some.injEq, exists_eq_left', has]
    constructor
    · rintro ⟨⟨a, member, rfl⟩, named⟩
      have named : a.name = condition.name := by simpa [NodeTest.accepts] using named
      exact ⟨by rw [named], a, member, named⟩
    · rintro ⟨rfl, a, member, named⟩
      exact ⟨⟨a, member, by rw [named]⟩, by simp [NodeTest.accepts]⟩

theorem expr_holds {condition : AttributeCondition} (lower : lowerName condition.name = condition.name)
    (position size : Nat) :
    ∃ result, condition.expr.value d ⟨.node n, position, size⟩ = .ok result ∧
      predicateHolds position result = (d.tree.element? n).any condition.holds := by
  obtain ⟨found, walked, mem⟩ := walk_attributeStep (d := d) (n := n) condition
  have path : (Expr.path false [condition.attributeStep]).value d ⟨.node n, position, size⟩ =
      .ok (.items found) := by
    simp only [Expr.value, walked, Bool.false_eq_true, if_false]
    rfl
  cases value : condition.value with
  | none =>
    refine ⟨.items found, by rw [AttributeCondition.expr, value]; exact path, ?_⟩
    have truth : predicateHolds position (.items found) = !found.isEmpty := rfl
    rw [truth, Bool.eq_iff_iff, Bool.not_eq_true', List.isEmpty_eq_false_iff_exists_mem, Option.any_eq_true]
    simp only [mem, AttributeCondition.holds, value]
    simp
  | some expected =>
    have compared : condition.expr.value d ⟨.node n, position, size⟩ =
        .ok (.truth (found.any fun item => item.stringValue d.tree == expected.toList)) := by
      rw [AttributeCondition.expr, value, Expr.value, path, Expr.value]
      exact congrArg (fun holds => Except.ok (Result.truth holds)) List.any_map
    have text {e : Element} (is : d.tree.element? n = some e) :
        Item.stringValue d.tree (.attributeOf n condition.name) =
          ((e.attribute? condition.name).getD "").toList := by
      rw [Item.stringValue, PageTree.attribute?, is, lower]
      rfl
    refine ⟨_, compared, ?_⟩
    have truth (holds : Bool) : predicateHolds position (.truth holds) = holds := rfl
    rw [truth, Bool.eq_iff_iff, List.any_eq_true, Option.any_eq_true]
    simp only [mem, AttributeCondition.holds, value, beq_iff_eq]
    constructor
    · rintro ⟨_, ⟨rfl, e, is, has⟩, same⟩
      obtain ⟨actual, known⟩ := Option.isSome_iff_exists.mp has
      rw [text is, known, Option.getD_some, String.toList_inj] at same
      exact ⟨e, is, same ▸ known⟩
    · rintro ⟨e, is, known⟩
      exact ⟨_, ⟨rfl, e, is, by simp [known]⟩, by rw [text is, known, Option.getD_some]⟩

theorem keepItems_nodes {test : Nat → Item → Except Error Bool} {holds : NodeId → Bool}
    (each : ∀ position n, test position (.node n) = .ok (holds n)) (position : Nat) (nodes : List NodeId) :
    keepItems test position (nodes.map .node) = .ok ((nodes.filter holds).map .node) := by
  induction nodes generalizing position with
  | nil => rfl
  | cons n rest ih =>
    rw [List.map_cons, keepItems, each, ih, List.filter_cons]
    cases holds n <;> rfl

/-- Conditions leave the elements that they all hold of. -/
theorem filtered_conditions {conditions : List AttributeCondition}
    (lower : ∀ condition ∈ conditions, lowerName condition.name = condition.name) (nodes : List NodeId) :
    filtered d (conditions.map (·.expr)) (nodes.map .node) =
      .ok ((nodes.filter fun n => conditions.all fun condition =>
        (d.tree.element? n).any condition.holds).map .node) := by
  induction conditions generalizing nodes with
  | nil => simp [filtered]
  | cons condition rest ih =>
    obtain ⟨first, later⟩ := List.forall_mem_cons.mp lower
    let test (position : Nat) (item : Item) : Except Error Bool := do
      return predicateHolds position (← condition.expr.value d ⟨item, position, (nodes.map Item.node).length⟩)
    have each (position : Nat) (n : NodeId) :
        test position (.node n) = .ok ((d.tree.element? n).any condition.holds) := by
      obtain ⟨result, value, holds⟩ := expr_holds (d := d) (n := n) first position (nodes.map Item.node).length
      simp only [test, value, ← holds]
      rfl
    have kept := keepItems_nodes each 1 nodes
    rw [List.map_cons, filtered, kept]
    refine (ih later _).trans ?_
    rw [List.filter_filter]
    simp only [List.all_cons, Bool.and_comm]

/-! Steps. -/

theorem mapM_nodes {f : Item → Except Error (List Item)} {g : NodeId → List NodeId}
    (each : ∀ n, f (.node n) = .ok ((g n).map .node)) (nodes : List NodeId) :
    (nodes.map Item.node).mapM f = .ok (nodes.map fun n => (g n).map .node) := by
  induction nodes with
  | nil => rfl
  | cons n rest ih =>
    rw [List.map_cons, List.mapM_cons, each, ih]
    rfl

/-- A step to nodes finds those of the document that are reached from one of the nodes before and pass the test
and the conditions. -/
theorem walk_step (distinct : d.order.Nodup) {axis : Axis} {reach : NodeId → List NodeId}
    (onAxis : ∀ m, axis.items d.tree (.node m) = (reach m).map .node)
    (inside : ∀ m ∈ d.order, ∀ n ∈ reach m, n ∈ d.order) (test : NodeTest)
    {conditions : List AttributeCondition}
    (lower : ∀ condition ∈ conditions, lowerName condition.name = condition.name) (rest : List Step)
    {origin found : NodeId → Bool}
    (finds : ∀ n ∈ d.order, found n = true ↔ (test.accepts d.tree axis (.node n) = true ∧
      (conditions.all fun condition => (d.tree.element? n).any condition.holds) = true) ∧
      ∃ m ∈ d.order, origin m = true ∧ n ∈ reach m) :
    walk d (.mk axis test (conditions.map (·.expr)) :: rest) ((d.order.filter origin).map .node) =
      walk d rest ((d.order.filter found).map .node) := by
  let passing (n : NodeId) : Bool := (conditions.all fun condition => (d.tree.element? n).any condition.holds) &&
    test.accepts d.tree axis (.node n)
  have each (m : NodeId) : filtered d (conditions.map (·.expr))
      ((axis.items d.tree (.node m)).filter (test.accepts d.tree axis)) =
        .ok (((reach m).filter passing).map .node) := by
    rw [onAxis, List.filter_map, filtered_conditions lower, List.filter_filter]
    rfl
  have reached (origins : List NodeId) :
      (origins.map fun m => ((reach m).filter passing).map Item.node).flatten =
        (origins.flatMap fun m => (reach m).filter passing).map .node := by
    rw [List.map_flatMap, List.flatMap_def]
  rw [walk, mapM_nodes each]
  -- A node reached from several origins comes up more than once before the items are sorted.
  have connected : ∀ n ∈ (d.order.filter origin).flatMap fun m => (reach m).filter passing, n ∈ d.order := by
    intro n member
    obtain ⟨m, origin, reached⟩ := List.mem_flatMap.mp member
    exact inside m (List.mem_filter.mp origin).1 n (List.mem_filter.mp reached).1
  refine congrArg (walk d rest) ?_
  rw [reached, sorted_nodes distinct connected]
  refine congrArg (List.map Item.node) (List.filter_congr fun n member => ?_)
  rw [Bool.eq_iff_iff, finds n member, List.contains_iff_mem]
  simp only [List.mem_flatMap, List.mem_filter, passing, Bool.and_eq_true]
  constructor
  · rintro ⟨m, ⟨inM, starts⟩, reached, holds, accepts⟩
    exact ⟨⟨accepts, holds⟩, m, inM, starts, reached⟩
  · rintro ⟨⟨accepts, holds⟩, m, inM, starts, reached⟩
    exact ⟨m, ⟨inM, starts⟩, reached, holds, accepts⟩

section document

variable {t : PageTree}

@[simp] theorem tree_ofTree : (Document.ofTree t).tree = t := rfl

/-- The node test of a step with its conditions says what the test for elements says. -/
theorem accepts_iff {test : ElementTest} {axis : Axis} :
    (((test.tag.map .name).getD NodeTest.any).accepts t axis (.node n) = true ∧
      (test.conditions.all fun condition => (t.element? n).any condition.holds) = true) ↔
      test.accepts t n = true := by
  rw [ElementTest.accepts, PageTree.element?]
  cases content : t.content? n with
  | none => cases tag : test.tag <;> simp [NodeTest.accepts, content]
  | some content' =>
    cases content' with
    | element e => cases tag : test.tag <;> simp [NodeTest.accepts, content, ElementTest.holds, tag]
    | document | text | comment => cases tag : test.tag <;> simp [NodeTest.accepts, content]

variable (wf : t.WellFormed)

include wf

theorem nodup_order : (Document.ofTree t).order.Nodup := wf.nodup_of_pairwise (wf.pairwise_subtreeTo t.size)

theorem mem_order : n ∈ (Document.ofTree t).order ↔ t.IsWithin n root := wf.mem_subtree

theorem mem_order_of_isWithin {m : NodeId} (inN : n ∈ (Document.ofTree t).order) (within : t.IsWithin n m) :
    m ∈ (Document.ofTree t).order :=
  (mem_order wf).mpr (wf.isWithin_root_of_isWithin ((mem_order wf).mp inN) within)

/-- The axis of children with a test for elements. -/
theorem walk_children {test : ElementTest}
    (lower : ∀ condition ∈ test.conditions, lowerName condition.name = condition.name) (origin : NodeId → Bool)
    (rest : List Step) :
    walk (.ofTree t) (test.step :: rest) (((Document.ofTree t).order.filter origin).map .node) =
      walk (.ofTree t) rest
        (((Document.ofTree t).order.filter (PathStep.reaches t origin ⟨.child, test⟩)).map .node) := by
  refine walk_step (nodup_order wf) (fun m => rfl) (fun m inM n child => ?_) _ lower rest fun n inN => ?_
  · exact (mem_order wf).mpr (.head ((wf.mem_children m n).mp child) ((mem_order wf).mp inM))
  · have step : PathStep.reaches t origin ⟨.child, test⟩ n = true ↔
        test.accepts t n = true ∧ ∃ m, t.parent? n = some m ∧ origin m = true := by
      simp [PathStep.reaches, Hop.origins]
    rw [step]
    refine and_congr accepts_iff.symm (exists_congr fun m => ?_)
    rw [tree_ofTree, wf.mem_children]
    constructor
    · rintro ⟨is, starts⟩
      exact ⟨mem_order_of_isWithin wf inN (.single is), starts, is⟩
    · rintro ⟨_, starts, is⟩
      exact ⟨is, starts⟩

theorem mem_cons_descendants {m : NodeId} : n ∈ m :: t.descendants m ↔ t.IsWithin n m := by
  rw [List.mem_cons, wf.mem_descendants, eq_comm]
  exact Relation.reflTransGen_iff_eq_or_transGen.symm

theorem mem_cons_ancestors {m : NodeId} : m ∈ n :: t.ancestors n ↔ t.IsWithin n m := by
  rw [List.mem_cons, wf.mem_ancestors]
  exact Relation.reflTransGen_iff_eq_or_transGen.symm

/-- The step for two slashes leads to all nodes at or below those before. -/
theorem walk_anyDepth (origin : NodeId → Bool) (rest : List Step) :
    walk (.ofTree t) (.anyDepth :: rest) (((Document.ofTree t).order.filter origin).map .node) =
      walk (.ofTree t) rest
        (((Document.ofTree t).order.filter fun n => (n :: t.ancestors n).any origin).map .node) := by
  have none : ∀ condition ∈ ([] : List AttributeCondition), lowerName condition.name = condition.name := by simp
  refine walk_step (nodup_order wf) (fun m => rfl) (fun m inM n below => ?_) _ none rest fun n inN => ?_
  · exact (mem_order wf).mpr (((mem_cons_descendants wf).mp below).trans ((mem_order wf).mp inM))
  · rw [List.any_eq_true]
    simp only [tree_ofTree, mem_cons_ancestors wf, mem_cons_descendants wf]
    constructor
    · rintro ⟨m, within, starts⟩
      exact ⟨⟨rfl, rfl⟩, m, mem_order_of_isWithin wf inN within, starts, within⟩
    · rintro ⟨_, m, _, starts, within⟩
      exact ⟨m, within, starts⟩

/-- A step of a path. -/
theorem walk_steps {step : PathStep}
    (lower : ∀ condition ∈ step.test.conditions, lowerName condition.name = condition.name)
    (origin : NodeId → Bool) (rest : List Step) :
    walk (.ofTree t) (step.steps ++ rest) (((Document.ofTree t).order.filter origin).map .node) =
      walk (.ofTree t) rest (((Document.ofTree t).order.filter (step.reaches t origin)).map .node) := by
  obtain ⟨hop, test⟩ := step
  cases hop with
  | child => exact walk_children wf lower origin rest
  | below =>
    refine (walk_anyDepth wf origin (test.step :: rest)).trans ((walk_children wf lower _ rest).trans ?_)
    have same : PathStep.reaches t (fun m => (m :: t.ancestors m).any origin) ⟨.child, test⟩ =
        PathStep.reaches t origin ⟨.below, test⟩ := by
      funext n
      refine congrArg (test.accepts t n && ·) ?_
      -- A child of something at or below an origin is what stands below an origin.
      rw [Bool.eq_iff_iff, List.any_eq_true, List.any_eq_true]
      simp only [Hop.origins, Option.mem_toList, List.any_eq_true, mem_cons_ancestors wf, wf.mem_ancestors]
      constructor
      · rintro ⟨m, is, k, within, starts⟩
        exact ⟨k, Relation.TransGen.head'_iff.mpr ⟨m, is, within⟩, starts⟩
      · rintro ⟨k, below, starts⟩
        obtain ⟨m, is, within⟩ := Relation.TransGen.head'_iff.mp below
        exact ⟨m, is, k, within, starts⟩
    rw [same]

/-- The steps of a path in turn. -/
theorem walk_flatMap_steps {steps : List PathStep}
    (lower : ∀ step ∈ steps, ∀ condition ∈ step.test.conditions, lowerName condition.name = condition.name)
    (origin : NodeId → Bool) :
    walk (.ofTree t) (steps.flatMap (·.steps)) (((Document.ofTree t).order.filter origin).map .node) =
      .ok (((Document.ofTree t).order.filter (steps.foldl (PathStep.reaches t) origin)).map .node) := by
  induction steps generalizing origin with
  | nil => rfl
  | cons step rest ih =>
    obtain ⟨first, later⟩ := List.forall_mem_cons.mp lower
    rw [List.flatMap_cons, walk_steps wf first]
    exact ih later (step.reaches t origin)

theorem filter_root : (Document.ofTree t).order.filter (· == root) = [root] := by
  have once := List.count_eq_one_of_mem (nodup_order wf) ((mem_order wf).mpr .refl)
  rw [List.filter_beq, once]
  rfl

theorem elements_eq_filter : t.elements = (Document.ofTree t).order.filter t.isElement := by
  rw [elements, descendantElements, Document.ofTree, wf.subtree_eq_cons,
    List.filter_cons_of_neg (by simp [wf.isElement_root])]

/-- The elements that a path expression finds from the document are those that the path leads to, in document
order. -/
theorem evaluate_path {path : ElementPath}
    (lower : ∀ step ∈ path.steps, ∀ condition ∈ step.test.conditions, lowerName condition.name = condition.name)
    {text : String} (read : Expr.read text = .ok path.expr) :
    evaluate t root text = .ok (t.elements.filter (path.reaches t)) := by
  have walked := walk_flatMap_steps wf lower (· == root)
  rw [filter_root wf, List.map_singleton] at walked
  have value : path.expr.value (.ofTree t) ⟨.node root, 1, 1⟩ =
      .ok (.items (((Document.ofTree t).order.filter (path.reaches t)).map .node)) := by
    simp only [ElementPath.expr, Expr.value, if_true, walked]
    rfl
  rw [evaluate, read]
  simp only [bind, Except.bind, value]
  refine congrArg Except.ok ?_
  rw [List.filterMap_map, elements_eq_filter wf]
  refine (congrFun (List.filterMap_eq_filter (p := t.isElement)) _).trans ?_
  rw [List.filter_filter, List.filter_filter]
  exact List.filter_congr fun n _ => Bool.and_comm _ _

end document

end CosmeticRules.XPath
