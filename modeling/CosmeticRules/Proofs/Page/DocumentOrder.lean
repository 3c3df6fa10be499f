import CosmeticRules.Proofs.Page.WellFormed

/-!
Document order: the nodes below a node are listed each before what is below it, and siblings with what is
below them in the order of their parent.
-/

namespace CosmeticRules.PageTree

variable {t : PageTree} {n m k parent child : NodeId}

/-- The first node stands before the second among the children of one parent. -/
def Before (t : PageTree) (m n : NodeId) : Prop := ∃ parent, [m, n].Sublist (t.children parent)

/-- The first node comes before the second in document order. -/
def Precedes (t : PageTree) (m n : NodeId) : Prop :=
  t.IsBelow n m ∨ ∃ a b, t.Before a b ∧ t.IsWithin m a ∧ t.IsWithin n b

/-- A walk that ends by itself does not depend on its count. -/
theorem iterate_of_length_lt {step : NodeId → Option NodeId} {count : Nat}
    (short : (iterate step count n).length < count) (more : Nat) :
    iterate step (count + more) n = iterate step count n := by
  induction count generalizing n with
  | zero => simp [iterate] at short
  | succ count ih =>
    rw [Nat.succ_add, iterate, iterate]
    rw [iterate] at short
    cases is : step n with
    | none => rfl
    | some next =>
      rw [is] at short
      simp only [List.length_cons, Nat.add_lt_add_iff_right] at short
      simp only [ih short]

/-- How many nodes are above a node. -/
def level (t : PageTree) (n : NodeId) : Nat := (t.ancestors n).length

theorem pairwise_flatMap {f : NodeId → List NodeId} (each : ∀ child ∈ t.children n, (f child).Pairwise t.Precedes)
    (within : ∀ child ∈ t.children n, ∀ m ∈ f child, t.IsWithin m child) :
    ((t.children n).flatMap f).Pairwise t.Precedes := by
  refine List.pairwise_flatMap.mpr ⟨each, ?_⟩
  refine List.pairwise_iff_forall_sublist.mpr fun {a b} pair x inA y inB => .inr ⟨a, b, ⟨n, pair⟩, ?_, ?_⟩
  · exact within a (pair.subset List.mem_cons_self) x inA
  · exact within b (pair.subset (by simp)) y inB

/-- Of two nodes around one, one is within the other. -/
theorem isWithin_total {a b : NodeId} (inA : t.IsWithin n a) (inB : t.IsWithin n b) :
    t.IsWithin a b ∨ t.IsWithin b a := by
  induction inA using Relation.ReflTransGen.head_induction_on with
  | refl => exact .inl inB
  | @head n parent is inA ih =>
    rcases Relation.ReflTransGen.cases_head inB with rfl | ⟨parent', is', inB⟩
    · exact .inr (.head is inA)
    · obtain rfl : parent = parent' := Option.some.inj (Eq.trans (Eq.symm is) is')
      exact ih inB

theorem mem_of_pair_sublist {before after : List NodeId} (fresh : n ∉ before ∧ n ∉ after)
    (pair : [m, n].Sublist (before ++ n :: after)) : m ∈ before := by
  induction before with
  | nil =>
    rcases List.cons_sublist_cons'.mp pair with later | ⟨_, later⟩
    · exact absurd (later.subset (by simp)) fresh.2
    · exact absurd (later.subset (by simp)) fresh.2
  | cons first rest ih =>
    obtain ⟨other, inRest⟩ := not_or.mp (mt List.mem_cons.mpr fresh.1)
    rcases List.cons_sublist_cons'.mp pair with later | ⟨rfl, _⟩
    · exact List.mem_cons_of_mem _ (ih ⟨inRest, fresh.2⟩ later)
    · exact List.mem_cons_self

namespace WellFormed

variable (wf : t.WellFormed)

include wf

theorem length_iterate_lt (inside : t.contains n = true) (count : Nat) :
    (iterate t.parent? count n).length < t.size := by
  have bound := length_le_size (t := t) (nodup_cons_iterate wf.ends count n) fun m member => by
    rcases List.mem_cons.mp member with rfl | above
    · exact inside
    · exact wf.contains_of_isBelow (isBelow_of_mem_iterate above)
  exact bound

theorem level_lt (n : NodeId) : t.level n < t.size := by
  by_cases inside : t.contains n = true
  · exact wf.length_iterate_lt inside t.size
  · have none : t.parent? n = none := by
      by_contra some
      obtain ⟨parent, is⟩ := Option.ne_none_iff_exists'.mp some
      exact inside (contains_of_parent? is)
    have inside := wf.contains_root
    rw [contains, decide_eq_true_iff] at inside
    obtain ⟨count, size⟩ := Nat.exists_eq_succ_of_ne_zero (Nat.ne_of_gt (Nat.zero_lt_of_lt inside))
    simp [level, ancestors, size, iterate, none]

theorem level_of_parent? (is : t.parent? n = some parent) : t.level n = t.level parent + 1 := by
  have inside := contains_of_parent? is
  have short := wf.length_iterate_lt inside t.size
  obtain ⟨count, size⟩ := Nat.exists_eq_succ_of_ne_zero (Nat.ne_of_gt (Nat.zero_lt_of_lt short))
  have first : iterate t.parent? t.size n = parent :: iterate t.parent? count parent := by
    rw [size, iterate, is]
  rw [first, List.length_cons, size, Nat.add_lt_add_iff_right] at short
  have same : iterate t.parent? t.size parent = iterate t.parent? count parent := by
    rw [size]
    exact iterate_of_length_lt short 1
  rw [level, level, ancestors, ancestors, first, same, List.length_cons]

theorem level_le_of_isWithin (within : t.IsWithin m n) : t.level n ≤ t.level m := by
  induction within using Relation.ReflTransGen.head_induction_on with
  | refl => exact Nat.le_refl _
  | head is _ ih =>
    rw [wf.level_of_parent? is]
    exact Nat.le_succ_of_le ih

theorem isWithin_iff : t.IsWithin m n ↔ m = n ∨ ∃ child ∈ t.children n, t.IsWithin m child := by
  constructor
  · intro within
    rcases Relation.ReflTransGen.cases_tail within with same | ⟨child, inside, is⟩
    · exact .inl same.symm
    · exact .inr ⟨child, (wf.mem_children n child).mpr is, inside⟩
  · rintro (rfl | ⟨child, member, inside⟩)
    · exact .refl
    · exact .tail inside ((wf.mem_children n child).mp member)

theorem isBelow_iff : t.IsBelow m n ↔ ∃ child ∈ t.children n, t.IsWithin m child := by
  constructor
  · intro below
    obtain ⟨child, inside, is⟩ := Relation.TransGen.tail'_iff.mp below
    exact ⟨child, (wf.mem_children n child).mpr is, inside⟩
  · rintro ⟨child, member, inside⟩
    exact Relation.TransGen.tail'_iff.mpr ⟨child, inside, (wf.mem_children n child).mp member⟩

/-- Down to a depth, a walk meets what is within a node on the levels that deep. -/
theorem mem_subtreeTo (depth : Nat) : m ∈ t.subtreeTo depth n ↔
    t.IsWithin m n ∧ t.level m < t.level n + depth := by
  induction depth generalizing n with
  | zero =>
    refine iff_of_false (by simp [subtreeTo]) ?_
    rintro ⟨within, low⟩
    exact absurd (wf.level_le_of_isWithin within) (by omega)
  | succ depth ih =>
    rw [subtreeTo, List.mem_cons, List.mem_flatMap, wf.isWithin_iff, or_and_right]
    refine or_congr ⟨?_, And.left⟩ ⟨?_, ?_⟩
    · rintro rfl
      exact ⟨rfl, by omega⟩
    · rintro ⟨child, member, reached⟩
      have level := wf.level_of_parent? ((wf.mem_children n child).mp member)
      obtain ⟨within, low⟩ := ih.mp reached
      exact ⟨⟨child, member, within⟩, by omega⟩
    · -- The way down goes through a child, which is one level deeper.
      rintro ⟨⟨child, member, within⟩, low⟩
      have level := wf.level_of_parent? ((wf.mem_children n child).mp member)
      exact ⟨child, member, ih.mpr ⟨within, by omega⟩⟩

theorem mem_subtree : m ∈ t.subtree n ↔ t.IsWithin m n := by
  rw [subtree, wf.mem_subtreeTo]
  exact and_iff_left (Nat.lt_add_left _ (wf.level_lt m))

theorem mem_descendants : m ∈ t.descendants n ↔ t.IsBelow m n := by
  rw [descendants, List.mem_flatMap, wf.isBelow_iff]
  simp only [wf.mem_subtree]

/-- A depth that reaches all that is within a node can be greater. -/
theorem subtreeTo_succ (depth : Nat) (enough : ∀ m, t.IsWithin m n → t.level m < t.level n + depth) :
    t.subtreeTo (depth + 1) n = t.subtreeTo depth n := by
  induction depth generalizing n with
  | zero => exact absurd (enough n .refl) (Nat.lt_irrefl _)
  | succ depth ih =>
    rw [subtreeTo, subtreeTo]
    refine congrArg (n :: ·) (List.flatMap_congr fun child member => ih fun m within => ?_)
    have is := (wf.mem_children n child).mp member
    have level := wf.level_of_parent? is
    have low := enough m (within.tail is)
    omega

/-- What is within a node is the node and what is below it. -/
theorem subtree_eq_cons (n : NodeId) : t.subtree n = n :: t.descendants n := by
  obtain ⟨depth, size⟩ := Nat.exists_eq_succ_of_ne_zero (Nat.ne_of_gt (Nat.zero_lt_of_lt (wf.level_lt n)))
  rw [subtree, descendants, size, subtreeTo]
  refine congrArg (n :: ·) (List.flatMap_congr fun child member => ?_)
  rw [subtree, size, wf.subtreeTo_succ depth fun m _ => ?_]
  have level := wf.level_of_parent? ((wf.mem_children n child).mp member)
  have low := wf.level_lt m
  omega

/-! Order. -/

theorem pairwise_subtreeTo (depth : Nat) : (t.subtreeTo depth n).Pairwise t.Precedes := by
  induction depth generalizing n with
  | zero => exact .nil
  | succ depth ih =>
    refine List.pairwise_cons.mpr ⟨fun m member => .inl ?_, pairwise_flatMap (fun _ _ => ih) ?_⟩
    · obtain ⟨child, is, reached⟩ := List.mem_flatMap.mp member
      exact wf.isBelow_iff.mpr ⟨child, is, ((wf.mem_subtreeTo depth).mp reached).1⟩
    · exact fun child _ m reached => ((wf.mem_subtreeTo depth).mp reached).1

theorem pairwise_descendants : (t.descendants n).Pairwise t.Precedes :=
  pairwise_flatMap (fun _ _ => wf.pairwise_subtreeTo t.size) fun _ _ _ => wf.mem_subtree.mp

theorem isElement_root : t.isElement root = false := by
  rw [isElement, element?, wf.document]
  rfl

/-- An element around a node that is connected to the document is connected to it as well. -/
theorem isBelow_root_of_isElement (connected : t.IsBelow n root) (within : t.IsWithin n m)
    (element : t.isElement m = true) : t.IsBelow m root := by
  have other : m ≠ root := by
    rintro rfl
    exact Bool.false_ne_true (wf.isElement_root.symm.trans element)
  rcases isWithin_total within connected.to_reflTransGen with inside | around
  · exact (Relation.reflTransGen_iff_eq_or_transGen.mp inside).resolve_left other.symm
  · rcases Relation.ReflTransGen.cases_head around with same | ⟨above, is, _⟩
    · exact absurd same.symm other
    · exact absurd (wf.parent?_root.symm.trans is) (by simp)

theorem before_ne (before : t.Before m n) : m ≠ n := by
  obtain ⟨parent, pair⟩ := before
  have distinct := (wf.nodup_children parent).sublist pair
  simpa using distinct

theorem parent?_of_before (before : t.Before m n) :
    ∃ parent, t.parent? m = some parent ∧ t.parent? n = some parent := by
  obtain ⟨parent, pair⟩ := before
  exact ⟨parent, (wf.mem_children parent m).mp (pair.subset List.mem_cons_self),
    (wf.mem_children parent n).mp (pair.subset (by simp))⟩

theorem not_before_of_loose (loose : t.parent? n = none) : ¬t.Before m n ∧ ¬t.Before n m := by
  constructor
  · intro before
    obtain ⟨parent, _, is⟩ := wf.parent?_of_before before
    simp [loose] at is
  · intro before
    obtain ⟨parent, is, _⟩ := wf.parent?_of_before before
    simp [loose] at is

/-- Nothing is within a sibling. -/
theorem not_isWithin_of_before (before : t.Before m n) : ¬t.IsWithin m n ∧ ¬t.IsWithin n m := by
  obtain ⟨parent, first, second⟩ := wf.parent?_of_before before
  have other := wf.before_ne before
  have none {a b : NodeId} (isA : t.parent? a = some parent) (isB : t.parent? b = some parent) (ne : a ≠ b) :
      ¬t.IsWithin a b := by
    intro within
    rcases Relation.ReflTransGen.cases_head within with same | ⟨next, is, within⟩
    · exact ne same
    · obtain rfl : parent = next := Option.some.inj (Eq.trans (Eq.symm isA) is)
      exact (wf.ends b).not_isBelow_self (Relation.TransGen.head'_iff.mpr ⟨parent, isB, within⟩)
  exact ⟨none first second other, none second first other.symm⟩

theorem not_precedes_self : ¬t.Precedes n n := by
  rintro (below | ⟨a, b, before, inA, inB⟩)
  · exact (wf.ends n).not_isBelow_self below
  · obtain ⟨first, second⟩ := wf.not_isWithin_of_before before
    exact (isWithin_total inA inB).elim first second

theorem nodup_of_pairwise {nodes : List NodeId} (ordered : nodes.Pairwise t.Precedes) : nodes.Nodup := by
  refine List.Pairwise.imp ?_ ordered
  rintro a _ precedes rfl
  exact wf.not_precedes_self precedes

/-! Nodes before and after a node among the children of its parent. -/

theorem fresh_of_split {before after : List NodeId} (split : t.children parent = before ++ n :: after) :
    n ∉ before ∧ n ∉ after := by
  have distinct := split ▸ wf.nodup_children parent
  rw [List.nodup_middle, List.nodup_cons, List.mem_append, not_or] at distinct
  exact distinct.1

/-- The children of a parent around one of them. -/
theorem exists_siblings (is : t.parent? n = some parent) :
    ∃ before after, t.children parent = before ++ n :: after ∧ n ∉ before ∧ n ∉ after := by
  obtain ⟨before, after, split⟩ := List.append_of_mem ((wf.mem_children parent n).mpr is)
  exact ⟨before, after, split, wf.fresh_of_split split⟩

theorem sublist_children (before : t.Before m n) (is : t.parent? m = some parent ∨ t.parent? n = some parent) :
    [m, n].Sublist (t.children parent) := by
  obtain ⟨other, pair⟩ := before
  have first := (wf.mem_children other m).mp (pair.subset List.mem_cons_self)
  have second := (wf.mem_children other n).mp (pair.subset (by simp))
  obtain rfl : parent = other := is.elim (fun is => Option.some.inj (is.symm.trans first))
    fun is => Option.some.inj (is.symm.trans second)
  exact pair

theorem before_iff {before after : List NodeId} (split : t.children parent = before ++ n :: after)
    (fresh : n ∉ before ∧ n ∉ after) : t.Before m n ↔ m ∈ before := by
  have is : t.parent? n = some parent := (wf.mem_children parent n).mp (by simp [split])
  constructor
  · intro earlier
    have pair := wf.sublist_children earlier (.inr is)
    rw [split] at pair
    exact mem_of_pair_sublist fresh pair
  · intro member
    refine ⟨parent, split ▸ ?_⟩
    exact (List.singleton_sublist.mpr member).append (List.singleton_sublist.mpr List.mem_cons_self)

theorem after_iff {before after : List NodeId} (split : t.children parent = before ++ n :: after)
    (fresh : n ∉ before ∧ n ∉ after) : t.Before n m ↔ m ∈ after := by
  have is : t.parent? n = some parent := (wf.mem_children parent n).mp (by simp [split])
  constructor
  · intro later
    have pair : [m, n].Sublist (after.reverse ++ n :: before.reverse) := by
      simpa [split] using (wf.sublist_children later (.inl is)).reverse
    exact List.mem_reverse.mp (mem_of_pair_sublist (by simpa using fresh.symm) pair)
  · intro member
    refine ⟨parent, split ▸ ?_⟩
    exact (List.cons_sublist_cons.mpr (List.singleton_sublist.mpr member)).trans (List.sublist_append_right ..)

end WellFormed

theorem previousElements_eq {before after : List NodeId} (is : t.parent? n = some parent)
    (split : t.children parent = before ++ n :: after) (fresh : n ∉ before) :
    t.previousElements n = (before.filter t.isElement).reverse := by
  have until_n : (before ++ n :: after).takeWhile (· != n) = before := by
    rw [List.takeWhile_append_of_pos (by simpa using fun m member => ne_of_mem_of_not_mem member fresh)]
    simp
  rw [previousElements, is]
  simp only [split, until_n]
  simp

theorem nextElements_eq {before after : List NodeId} (is : t.parent? n = some parent)
    (split : t.children parent = before ++ n :: after) (fresh : n ∉ before) :
    t.nextElements n = after.filter t.isElement := by
  have from_n : (before ++ n :: after).dropWhile (· != n) = n :: after := by
    rw [List.dropWhile_append_of_pos (by simpa using fun m member => ne_of_mem_of_not_mem member fresh)]
    simp
  rw [nextElements, is]
  simp only [split, from_n]
  simp

/-! Elements above a node. -/

/-- A well-formed tree in which only the root is a document. -/
structure IsDocument (t : PageTree) : Prop where
  wellFormed : t.WellFormed
  only_root : ∀ n, t.content? n = some .document → n = root

theorem iterate_parentElement? (count : Nat) (n : NodeId) :
    iterate t.parentElement? count n = (iterate t.parent? count n).takeWhile t.isElement := by
  induction count generalizing n with
  | zero => rfl
  | succ count ih =>
    simp only [iterate, parentElement?]
    cases t.parent? n with
    | none => rfl
    | some parent =>
      cases element : t.isElement parent with
      | true => simp [Option.filter, element, ih]
      | false => simp [Option.filter, element]

namespace IsDocument

variable (doc : t.IsDocument)

include doc

/-- What stands between two nodes one below the other is an element. -/
theorem isElement_of_isBelow (is : t.parent? n = some parent) (below : t.IsBelow parent m) :
    t.isElement parent = true := by
  have wf := doc.wellFormed
  have holds := wf.canHaveChildren parent (List.ne_nil_of_mem ((wf.mem_children parent n).mpr is))
  obtain ⟨above, up, _⟩ := Relation.TransGen.head'_iff.mp below
  have up : t.parent? parent = some above := up
  unfold PageTree.canHaveChildren at holds
  split at holds
  · rename_i document
    rw [doc.only_root parent document, wf.parent?_root] at up
    simp at up
  · rename_i e content
    rw [isElement, element?, content]
    rfl
  · exact absurd holds Bool.false_ne_true

/-- Of what is above a node only the root is no element, and nothing is above the root. -/
theorem filter_iterate (count : Nat) (n : NodeId) :
    (iterate t.parent? count n).filter t.isElement = iterate t.parentElement? count n := by
  induction count generalizing n with
  | zero => rfl
  | succ count ih =>
    simp only [iterate, parentElement?]
    cases is : t.parent? n with
    | none => rfl
    | some parent =>
      cases element : t.isElement parent with
      | true => simp [Option.filter, element, ih]
      | false =>
        have top : iterate t.parent? count parent = [] := List.eq_nil_iff_forall_not_mem.mpr fun m above =>
          Bool.false_ne_true (element.symm.trans (doc.isElement_of_isBelow is (isBelow_of_mem_iterate above)))
        simp [Option.filter, element, top]

theorem filter_ancestors (n : NodeId) : (t.ancestors n).filter t.isElement = t.ancestorElements n :=
  doc.filter_iterate t.size n

theorem mem_ancestorElements : m ∈ t.ancestorElements n ↔ t.isElement m = true ∧ t.IsBelow n m := by
  rw [← doc.filter_ancestors, List.mem_filter, doc.wellFormed.mem_ancestors, and_comm]

end IsDocument

end CosmeticRules.PageTree
