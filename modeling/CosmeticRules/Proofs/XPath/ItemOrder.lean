import CosmeticRules.XPath.Evaluation
import Mathlib.Data.List.Sort

/-!
The order of items: by the places of their holders in the document, an element before its attributes, and these
by their names. Sorting brings items into this order and leaves each of them once.
-/

namespace CosmeticRules.XPath

section eraseReps

variable {α : Type} [DecidableEq α]

theorem eraseRepsBy_loop (a : α) (items done : List α) :
    List.eraseRepsBy.loop (· == ·) a items done = done.reverse ++ (a :: items).eraseReps := by
  induction items generalizing a done with
  | nil => simp [List.eraseRepsBy.loop, List.eraseReps, List.eraseRepsBy]
  | cons b rest ih =>
    have start : (a :: b :: rest).eraseReps = List.eraseRepsBy.loop (· == ·) a (b :: rest) [] := rfl
    rw [start, List.eraseRepsBy.loop, List.eraseRepsBy.loop]
    cases a == b <;> simp [ih]

theorem eraseReps_cons_cons (a b : α) (rest : List α) :
    (a :: b :: rest).eraseReps = if a = b then (a :: rest).eraseReps else a :: (b :: rest).eraseReps := by
  have start : (a :: b :: rest).eraseReps = List.eraseRepsBy.loop (· == ·) a (b :: rest) [] := rfl
  rw [start, List.eraseRepsBy.loop]
  by_cases same : a = b
  · simp [same, eraseRepsBy_loop]
  · rw [beq_false_of_ne same, if_neg same]
    exact eraseRepsBy_loop b rest [a]

theorem mem_eraseReps {a : α} {items : List α} : a ∈ items.eraseReps ↔ a ∈ items := by
  match items with
  | [] => rfl
  | [b] => rfl
  | b :: c :: rest =>
    rw [eraseReps_cons_cons]
    split
    · rename_i same
      rw [mem_eraseReps, same]
      simp
    · rw [List.mem_cons, mem_eraseReps, ← List.mem_cons]

/-- Of items in an order in which no two different ones stand before each other, each is left once. -/
theorem pairwise_eraseReps {R : α → α → Prop} {items : List α} (ordered : items.Pairwise R)
    (antisymm : ∀ a ∈ items, ∀ b ∈ items, R a b → R b a → a = b) :
    items.eraseReps.Pairwise fun a b => R a b ∧ a ≠ b := by
  match items with
  | [] => exact .nil
  | [b] => exact List.pairwise_singleton _ b
  | b :: c :: rest =>
    obtain ⟨first, later⟩ := List.pairwise_cons.mp ordered
    rw [eraseReps_cons_cons]
    split
    · rename_i same
      subst same
      exact pairwise_eraseReps later fun x inX y inY => antisymm x (.tail _ inX) y (.tail _ inY)
    · rename_i other
      refine List.pairwise_cons.mpr ⟨fun x member => ?_, pairwise_eraseReps later fun x inX y inY =>
        antisymm x (.tail _ inX) y (.tail _ inY)⟩
      have member := mem_eraseReps.mp member
      refine ⟨first x member, ?_⟩
      -- If `b` came again, `c` would stand both before and after it.
      rintro rfl
      rcases List.mem_cons.mp member with same | further
      · exact other same
      · have between := (List.pairwise_cons.mp later).1 b further
        exact other (antisymm b List.mem_cons_self c (.tail _ List.mem_cons_self) (first c List.mem_cons_self) between)

end eraseReps

namespace Item

variable {d : Document} {a b c : Item}

/-- The place of the holder of an item in the document. -/
def rank (d : Document) (item : Item) : Nat := d.order.idxOf item.holder

/-- Whether an item may stand before another of the same holder. -/
def NameLe (a b : Item) : Prop :=
  ∀ first, a.attributeName? = some first → ∃ second, b.attributeName? = some second ∧ first ≤ second

theorem le_iff : a.le d b = true ↔ a.rank d < b.rank d ∨ a.rank d = b.rank d ∧ a.NameLe b := by
  unfold le
  simp only []
  split
  · rename_i same
    have equal : a.rank d = b.rank d := same
    simp only [equal, Nat.lt_irrefl, false_or, true_and, NameLe]
    cases a.attributeName? with
    | none => simp
    | some first =>
      cases b.attributeName? with
      | none => simp
      | some second => simp only [Bool.not_eq_true', decide_eq_false_iff_not, String.not_lt, Option.some.injEq,
          forall_eq', exists_eq_left']
  · rename_i other
    rw [decide_eq_true_iff]
    exact ⟨.inl, fun either => either.elim id fun equal => absurd equal.1 other⟩

theorem le_trans (first : a.le d b = true) (second : b.le d c = true) : a.le d c = true := by
  rw [le_iff] at first second ⊢
  rcases first with less | ⟨same, named⟩
  · exact .inl (second.elim less.trans fun equal => equal.1 ▸ less)
  · rcases second with less | ⟨same', named'⟩
    · exact .inl (same ▸ less)
    · refine .inr ⟨same.trans same', fun x is => ?_⟩
      obtain ⟨y, is, below⟩ := named x is
      obtain ⟨z, is, below'⟩ := named' y is
      exact ⟨z, is, String.le_trans below below'⟩

theorem le_total (a b : Item) : a.le d b = true ∨ b.le d a = true := by
  rw [le_iff, le_iff]
  rcases Nat.lt_trichotomy (a.rank d) (b.rank d) with less | same | greater
  · exact .inl (.inl less)
  · cases ofA : a.attributeName? with
    | none => exact .inl (.inr ⟨same, by simp [NameLe, ofA]⟩)
    | some first =>
      cases ofB : b.attributeName? with
      | none => exact .inr (.inr ⟨same.symm, by simp [NameLe, ofB]⟩)
      | some second =>
        refine (String.le_total first second).imp (fun below => .inr ⟨same, ?_⟩) fun below => .inr ⟨same.symm, ?_⟩
        · simpa [NameLe, ofA, ofB] using below
        · simpa [NameLe, ofA, ofB] using below
  · exact .inr (.inl greater)

/-- Items of the document are told apart by their places and names. -/
theorem le_antisymm (inA : a.holder ∈ d.order) (first : a.le d b = true) (second : b.le d a = true) : a = b := by
  rw [le_iff] at first second
  obtain ⟨same, named, named'⟩ : a.rank d = b.rank d ∧ a.NameLe b ∧ b.NameLe a := by
    rcases first with less | ⟨same, named⟩
    · rcases second with greater | ⟨same, _⟩ <;> omega
    · exact ⟨same, named, second.elim (absurd same <| Nat.ne_of_gt ·) And.right⟩
  have holder : a.holder = b.holder := (List.idxOf_inj inA).mp same
  cases a with
  | node m =>
    cases b with
    | node n => exact congrArg node holder
    | attributeOf owner name =>
      obtain ⟨_, is, _⟩ := named' name rfl
      cases is
  | attributeOf owner name =>
    obtain ⟨name', is, below⟩ := named name rfl
    cases b with
    | node n => cases is
    | attributeOf owner' name'' =>
      obtain ⟨_, is', below'⟩ := named' name'' rfl
      obtain rfl : name'' = name' := Option.some.inj is
      obtain rfl := Option.some.inj is'
      obtain rfl : owner = owner' := holder
      rw [String.le_antisymm below below']

/-- An item stands before another in the order of the document. -/
def Precedes (d : Document) (a b : Item) : Prop := a.le d b = true ∧ a ≠ b

theorem mem_sorted {items : List Item} : a ∈ sorted d items ↔ a ∈ items := by
  rw [sorted, mem_eraseReps, List.mem_mergeSort]

/-- Sorted items of the document ascend, so that none comes twice. -/
theorem pairwise_sorted {items : List Item} (inside : ∀ item ∈ items, item.holder ∈ d.order) :
    (sorted d items).Pairwise (Precedes d) := by
  have ordered : (items.mergeSort (le d)).Pairwise (le d · · = true) :=
    @List.pairwise_mergeSort _ (le d) (fun _ _ _ => le_trans)
      (fun a b => Bool.or_eq_true_iff.mpr (le_total a b)) items
  exact pairwise_eraseReps ordered fun a inA b _ => le_antisymm (inside a (List.mem_mergeSort.mp inA))

/-- Of two nodes that stand one before the other, so do their places. -/
theorem rank_lt_of_precedes {m n : NodeId} (inside : m ∈ d.order) (precedes : Precedes d (.node m) (.node n)) :
    (node m).rank d < (node n).rank d := by
  obtain ⟨le, other⟩ := precedes
  rcases le_iff.mp le with less | ⟨same, _⟩
  · exact less
  · exact absurd (congrArg node ((List.idxOf_inj inside).mp same)) other

end Item

theorem pairwise_idxOf {order : List NodeId} (distinct : order.Nodup) :
    order.Pairwise (order.idxOf · < order.idxOf ·) := by
  refine List.pairwise_iff_getElem.mpr fun i j inI inJ before => ?_
  rwa [distinct.idxOf_getElem i inI, distinct.idxOf_getElem j inJ]

/-- Sorted nodes are those of the document order, each once. -/
theorem sorted_nodes {d : Document} (distinct : d.order.Nodup) {nodes : List NodeId}
    (inside : ∀ n ∈ nodes, n ∈ d.order) :
    Item.sorted d (nodes.map .node) = (d.order.filter (nodes.contains ·)).map .node := by
  have among {item : Item} (member : item ∈ Item.sorted d (nodes.map .node)) : ∃ n ∈ nodes, .node n = item :=
    List.mem_map.mp (Item.mem_sorted.mp member)
  have ascending : (Item.sorted d (nodes.map .node)).Pairwise (·.rank d < ·.rank d) := by
    have held : ∀ item ∈ nodes.map Item.node, item.holder ∈ d.order := List.forall_mem_map.mpr inside
    have ordered := Item.pairwise_sorted held
    refine ordered.imp_of_mem fun {a b} inA inB precedes => ?_
    obtain ⟨m, inM, rfl⟩ := among inA
    obtain ⟨n, _, rfl⟩ := among inB
    exact Item.rank_lt_of_precedes (inside m inM) precedes
  -- Both lists ascend and have the same items.
  have irreflexive : Std.Irrefl fun a b : Item => a.rank d < b.rank d := ⟨fun _ => Nat.lt_irrefl _⟩
  have asymmetric : Std.Antisymm fun a b : Item => a.rank d < b.rank d :=
    ⟨fun _ _ first second => absurd second (Nat.lt_asymm first)⟩
  refine ascending.eq_of_mem_iff ?_ fun item => ?_
  · rw [List.pairwise_map]
    exact (pairwise_idxOf distinct).filter _
  · rw [Item.mem_sorted, List.mem_map, List.mem_map]
    simp only [List.mem_filter, List.contains_iff_mem]
    exact exists_congr fun n => and_congr_left fun _ => ⟨fun member => ⟨inside n member, member⟩, And.right⟩

end CosmeticRules.XPath
