import CosmeticRules.Proofs.Page.Frame
import Mathlib.Data.List.Nodup
import Mathlib.Data.List.Perm.Subperm
import Mathlib.Logic.Relation

/-!
Well-formed page trees: parents and children say the same, and following parents from any node ends. What
an edit does to parents, children and contents decides whether the tree stays well formed.
-/

namespace CosmeticRules

/-- The attribute names of an element are in lower case, and no two of them are the same. -/
structure Element.WellNamed (e : Element) : Prop where
  lower : ∀ a ∈ e.attributes, lowerName a.name = a.name
  distinct : (e.attributes.map (·.name)).Nodup

namespace PageTree

/-- Following parents from a node ends. -/
inductive Ends (t : PageTree) : NodeId → Prop
  | top {n : NodeId} (none : t.parent? n = none) : Ends t n
  | above {n parent : NodeId} (is : t.parent? n = some parent) (ends : Ends t parent) : Ends t n

structure WellFormed (t : PageTree) : Prop where
  mem_children : ∀ parent child, child ∈ t.children parent ↔ t.parent? child = some parent
  nodup_children : ∀ n, (t.children n).Nodup
  parent?_root : t.parent? root = none
  ends : ∀ n, t.Ends n
  canHaveChildren : ∀ n, t.children n ≠ [] → t.canHaveChildren n = true
  wellNamed : ∀ n e, t.element? n = some e → e.WellNamed
  document : t.content? root = some .document

def HasParent (t : PageTree) (n parent : NodeId) : Prop := t.parent? n = some parent

/-- Following parents from the first node leads to the second. -/
def IsBelow (t : PageTree) : NodeId → NodeId → Prop := Relation.TransGen t.HasParent

/-- The first node is the second one or below it. -/
def IsWithin (t : PageTree) : NodeId → NodeId → Prop := Relation.ReflTransGen t.HasParent

variable {t later : PageTree} {n m parent child : NodeId}

theorem contains_iff : t.contains n = true ↔ (t.node? n).isSome := by
  rw [contains, node?, size, decide_eq_true_iff]
  simp

theorem contains_of_isElement (element : t.isElement n = true) : t.contains n = true := by
  rw [contains_iff]
  unfold isElement element? content? at element
  cases found : t.node? n with
  | none => simp [found] at element
  | some node => rfl

theorem contains_of_parent? (is : t.parent? n = some parent) : t.contains n = true := by
  rw [contains_iff]
  unfold parent? at is
  cases found : t.node? n with
  | none => simp [found] at is
  | some node => rfl

theorem contains_of_mem_children (member : child ∈ t.children parent) : t.contains parent = true := by
  rw [contains_iff]
  unfold children at member
  cases found : t.node? parent with
  | none => simp [found] at member
  | some node => rfl

theorem canHaveChildren_congr (same : later.content? n = t.content? n) :
    later.canHaveChildren n = t.canHaveChildren n := by
  rw [canHaveChildren, canHaveChildren, same]

theorem element?_congr (same : later.content? n = t.content? n) :
    later.element? n = t.element? n := by
  rw [element?, element?, same]

theorem element?_eq_some_iff {e : Element} :
    t.element? n = some e ↔ t.content? n = some (.element e) := by
  unfold element?
  split <;> simp_all

theorem canHaveChildren_of_isElement (element : t.isElement n = true) :
    t.canHaveChildren n = true := by
  obtain ⟨e, is⟩ := Option.isSome_iff_exists.mp element
  rw [canHaveChildren, element?_eq_some_iff.mp is]

theorem contains_of_canHaveChildren (holds : t.canHaveChildren n = true) : t.contains n = true := by
  rw [contains_iff]
  unfold canHaveChildren content? at holds
  cases found : t.node? n with
  | none => simp [found] at holds
  | some node => rfl

/-! Walks towards the root. -/

theorem Ends.not_isBelow_self (ends : t.Ends n) : ¬t.IsBelow n n := by
  induction ends with
  | top none =>
    intro loop
    obtain ⟨parent, is, _⟩ := Relation.TransGen.head'_iff.mp loop
    exact absurd (none.symm.trans is) (by simp)
  | @above n parent is _ ih =>
    intro loop
    obtain ⟨first, step, rest⟩ := Relation.TransGen.head'_iff.mp loop
    obtain rfl : parent = first := Option.some.inj (is.symm.trans step)
    exact ih (Relation.TransGen.tail'_iff.mpr ⟨n, rest, is⟩)

theorem isBelow_of_mem_iterate {count : Nat} (member : m ∈ iterate t.parent? count n) :
    t.IsBelow n m := by
  induction count generalizing n with
  | zero => simp [iterate] at member
  | succ count ih =>
    rw [iterate] at member
    split at member
    · rename_i next is
      rcases List.mem_cons.mp member with rfl | later
      · exact .single is
      · exact .head is (ih later)
    · simp at member

/-- A walk that ends by itself meets everything above its start. -/
theorem mem_iterate_of_isBelow {count : Nat} (short : (iterate t.parent? count n).length < count)
    (below : t.IsBelow n m) : m ∈ iterate t.parent? count n := by
  induction count generalizing n with
  | zero => simp [iterate] at short
  | succ count ih =>
    obtain ⟨next, is, rest⟩ := Relation.TransGen.head'_iff.mp below
    have is : t.parent? n = some next := is
    simp only [iterate, is, List.length_cons] at short ⊢
    rcases Relation.reflTransGen_iff_eq_or_transGen.mp rest with rfl | further
    · exact List.mem_cons_self
    · exact List.mem_cons_of_mem _ (ih (by omega) further)

theorem nodup_cons_iterate (ends : ∀ n, t.Ends n) (count : Nat) (n : NodeId) :
    (n :: iterate t.parent? count n).Nodup := by
  induction count generalizing n with
  | zero => simp [iterate]
  | succ count ih =>
    refine List.nodup_cons.mpr ⟨?_, ?_⟩
    · intro again
      exact (ends n).not_isBelow_self (isBelow_of_mem_iterate again)
    · rw [iterate]
      split
      · exact ih _
      · exact List.nodup_nil

/-- Different nodes of a tree are no more than its size. -/
theorem length_le_size {nodes : List NodeId} (distinct : nodes.Nodup)
    (inside : ∀ n ∈ nodes, t.contains n = true) : nodes.length ≤ t.size := by
  have injective : Function.Injective NodeId.index := by
    rintro ⟨i⟩ ⟨j⟩ same
    exact congrArg NodeId.mk same
  have within : nodes.map (·.index) ⊆ List.range t.size := by
    intro index member
    obtain ⟨n, inList, rfl⟩ := List.mem_map.mp member
    exact List.mem_range.mpr (by simpa [contains] using inside n inList)
  have bound := ((List.Nodup.map injective distinct).subperm within).length_le
  simpa using bound

namespace WellFormed

variable (wf : t.WellFormed)

include wf

theorem contains_parent (is : t.parent? n = some parent) : t.contains parent = true :=
  contains_of_mem_children ((wf.mem_children parent n).mpr is)

theorem contains_of_isBelow (below : t.IsBelow n m) : t.contains m = true := by
  obtain ⟨last, _, is⟩ := Relation.TransGen.tail'_iff.mp below
  exact wf.contains_parent is

/-- The ancestors of a node are all nodes above it: a walk upwards meets no node twice, so it is over before
its count is. -/
theorem mem_ancestors : m ∈ t.ancestors n ↔ t.IsBelow n m := by
  refine ⟨isBelow_of_mem_iterate, ?_⟩
  intro below
  have start : t.contains n = true := by
    obtain ⟨next, is, _⟩ := Relation.TransGen.head'_iff.mp below
    exact contains_of_parent? is
  refine mem_iterate_of_isBelow ?_ below
  have bound := length_le_size (t := t) (nodup_cons_iterate wf.ends t.size n) (by
    intro k member
    rcases List.mem_cons.mp member with rfl | above
    · exact start
    · exact wf.contains_of_isBelow (isBelow_of_mem_iterate above))
  exact bound

theorem isDescendantOf_iff : t.isDescendantOf n m = true ↔ t.IsBelow n m := by
  rw [isDescendantOf, List.contains_iff_mem, wf.mem_ancestors]

theorem contains_root : t.contains root = true :=
  contains_of_canHaveChildren (by rw [PageTree.canHaveChildren, wf.document])

/-- If nothing but the document is without a parent, then everything is connected. -/
theorem isConnected (single : ∀ n, t.contains n = true → t.parent? n = none → n = root)
    (inside : t.contains n = true) : t.isConnected n = true := by
  have leads : t.IsWithin n root := by
    induction wf.ends n with
    | top none => exact single _ inside none ▸ .refl
    | above is _ ih => exact .head is (ih (wf.contains_parent is))
  rw [PageTree.isConnected, Bool.or_eq_true, beq_iff_eq, wf.isDescendantOf_iff]
  exact (Relation.reflTransGen_iff_eq_or_transGen.mp leads).imp_left Eq.symm

end WellFormed

/-! Edits. -/

/-- Taking parents away makes no walk longer. -/
theorem Ends.of_fewer (fewer : ∀ m, later.parent? m = none ∨ later.parent? m = t.parent? m)
    (ends : t.Ends n) : later.Ends n := by
  induction ends with
  | @top n none => exact .top ((fewer n).elim id fun same => same.trans none)
  | @above n parent is _ ih =>
    rcases fewer n with gone | same
    · exact .top gone
    · exact .above (same.trans is) ih

/-- A walk that does not meet the node with a new parent stays as it is. -/
theorem Ends.of_not_isWithin (new : ∀ m, m ≠ child → later.parent? m = t.parent? m)
    (ends : t.Ends n) (outside : ¬t.IsWithin n child) : later.Ends n := by
  induction ends with
  | @top n none =>
    have other : n ≠ child := fun same => outside (same ▸ .refl)
    exact .top ((new n other).trans none)
  | @above n parent is _ ih =>
    have other : n ≠ child := fun same => outside (same ▸ .refl)
    exact .above ((new n other).trans is) (ih fun within => outside (.head is within))

/-- Giving a node without a parent a parent that is not below it. -/
theorem WellFormed.attached (wf : t.WellFormed) {place : List NodeId}
    (parents : ∀ m, later.parent? m = if m = child then some parent else t.parent? m)
    (lists : ∀ m, later.children m = if m = parent then place else t.children m)
    (perm : place.Perm (child :: t.children parent)) (loose : t.parent? child = none)
    (outside : ¬t.IsWithin parent child) (proper : child ≠ root)
    (holds : later.canHaveChildren parent = true)
    (kept : ∀ m, t.canHaveChildren m = true → later.canHaveChildren m = true)
    (wellNamed : ∀ n e, later.element? n = some e → e.WellNamed)
    (document : later.content? root = some .document) : later.WellFormed where
  mem_children := by
    intro p c
    have unlisted : child ∉ t.children p := by
      rw [wf.mem_children, loose]
      simp
    rw [lists, parents]
    by_cases here : p = parent
    · rw [if_pos here, perm.mem_iff, List.mem_cons, ← here, wf.mem_children]
      by_cases same : c = child <;> simp [same, here]
    · rw [if_neg here, wf.mem_children]
      by_cases same : c = child
      · simp [same, loose, Ne.symm here]
      · rw [if_neg same]
  nodup_children := by
    intro p
    rw [lists]
    split
    · refine perm.nodup_iff.mpr (List.nodup_cons.mpr ⟨?_, wf.nodup_children parent⟩)
      rw [wf.mem_children, loose]
      simp
    · exact wf.nodup_children p
  parent?_root := by rw [parents, if_neg proper.symm, wf.parent?_root]
  ends := by
    have others : ∀ m, m ≠ child → later.parent? m = t.parent? m :=
      fun m other => (parents m).trans (if_neg other)
    -- A walk is as before until it comes to the child. From there it goes on from the parent, again as before.
    have target : later.Ends parent := (wf.ends parent).of_not_isWithin others outside
    intro n
    induction wf.ends n with
    | @top n none =>
      by_cases same : n = child
      · exact .above ((parents n).trans (if_pos same)) target
      · exact .top ((others n same).trans none)
    | @above n p is _ ih =>
      by_cases same : n = child
      · exact .above ((parents n).trans (if_pos same)) target
      · exact .above ((others n same).trans is) ih
  canHaveChildren := by
    intro p some
    by_cases here : p = parent
    · exact here ▸ holds
    · rw [lists, if_neg here] at some
      exact kept p (wf.canHaveChildren p some)
  wellNamed := wellNamed
  document := document

/-- Taking some nodes out of their parents. -/
theorem WellFormed.released (wf : t.WellFormed) (out : NodeId → Prop) [DecidablePred out]
    (parents : ∀ m, later.parent? m = if out m then none else t.parent? m)
    (lists : ∀ m, later.children m = (t.children m).filter fun child => !decide (out child))
    (contents : ∀ m, later.content? m = t.content? m) : later.WellFormed where
  mem_children := by
    intro p c
    rw [lists, List.mem_filter, wf.mem_children, parents]
    by_cases gone : out c <;> simp [gone]
  nodup_children := fun p => by rw [lists]; exact (wf.nodup_children p).filter _
  parent?_root := by rw [parents, wf.parent?_root, ite_self]
  ends := by
    intro n
    refine (wf.ends n).of_fewer fun m => ?_
    rw [parents]
    split
    · exact Or.inl rfl
    · exact Or.inr rfl
  canHaveChildren := by
    intro p some
    rw [canHaveChildren_congr (contents p)]
    refine wf.canHaveChildren p ?_
    rintro none
    rw [lists, none] at some
    exact some rfl
  wellNamed := fun n e is => wf.wellNamed n e ((element?_congr (contents n)).symm.trans is)
  document := (contents root).trans wf.document

/-- Changing what elements hold and adding nodes that stand alone. -/
theorem WellFormed.refilled (wf : t.WellFormed)
    (parents : ∀ m, later.parent? m = t.parent? m) (lists : ∀ m, later.children m = t.children m)
    (kept : ∀ m, t.canHaveChildren m = true → later.canHaveChildren m = true)
    (wellNamed : ∀ n e, later.element? n = some e → e.WellNamed)
    (document : later.content? root = some .document) : later.WellFormed where
  mem_children := fun p c => by rw [lists, parents]; exact wf.mem_children p c
  nodup_children := fun p => by rw [lists]; exact wf.nodup_children p
  parent?_root := by rw [parents, wf.parent?_root]
  ends := fun n => (wf.ends n).of_fewer fun m => Or.inr (parents m)
  canHaveChildren := fun p some => kept p (wf.canHaveChildren p (lists p ▸ some))
  wellNamed := wellNamed
  document := document

end PageTree

end CosmeticRules
