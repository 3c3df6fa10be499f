import CosmeticRules.Proofs.Markup.Growth

/-!
A page that has just been read: every node is connected to the document, and there is a body. Loose nodes
are moved below the elements that are made for them.
-/

namespace CosmeticRules

namespace PageTree

variable {t later : PageTree} {n m parent child target : NodeId}

@[simp] theorem contains_moveLast : (t.moveLast parent child).contains m = t.contains m := by
  simp [moveLast_eq]

@[simp] theorem content?_moveLast : (t.moveLast parent child).content? m = t.content? m := by
  simp [moveLast_eq]

theorem parent?_moveLast (inside : t.contains child = true) :
    (t.moveLast parent child).parent? m = if m = child then some parent else t.parent? m := by
  rw [moveLast_eq, parent?_attach (by simpa using inside), parent?_detach]
  split <;> rfl

theorem WellFormed.children_moveLast_of_ne (wf : t.WellFormed) (inside : t.contains parent = true)
    (other : m ≠ parent) :
    (t.moveLast parent child).children m = (t.children m).filter fun c => !decide (c = child) := by
  rw [moveLast_eq, children_attach (by simpa using inside), if_neg other, wf.children_detach]

/-- What is above a node in a changed tree was above it before, unless the node is below the change. -/
theorem isBelow_of_not_isWithin (new : ∀ m, m ≠ child → later.parent? m = t.parent? m)
    (outside : ¬t.IsWithin n child) (below : later.IsBelow n m) : t.IsBelow n m := by
  have step : ∀ {a b}, ¬t.IsWithin a child → later.HasParent a b →
      t.HasParent a b ∧ ¬t.IsWithin b child := by
    intro a b outside is
    have other : a ≠ child := fun same => outside (same ▸ .refl)
    have is : t.parent? a = some b := (new a other).symm.trans is
    exact ⟨is, fun within => outside (.head is within)⟩
  induction below using Relation.TransGen.head_induction_on with
  | single is => exact .single (step outside is).1
  | head is _ ih =>
    obtain ⟨is, further⟩ := step outside is
    exact .head is (ih further)

/-- Moving one node below another leaves other nodes free to follow. -/
theorem CanMove.moveLast {other : NodeId} (can : t.CanMove target other) (moved : t.CanMove target child) :
    (t.moveLast target child).CanMove target other where
  inside := by simpa using can.inside
  holds := (canHaveChildren_congr content?_moveLast).trans can.holds
  proper := can.proper
  other := can.other
  outside := by
    have others : ∀ m, m ≠ child → (t.moveLast target child).parent? m = t.parent? m :=
      fun m different => (parent?_moveLast moved.inside).trans (if_neg different)
    have outside : ¬t.IsWithin target child := by
      intro within
      rcases Relation.reflTransGen_iff_eq_or_transGen.mp within with same | above
      · exact moved.other same
      · exact moved.outside above
    exact fun below => can.outside (isBelow_of_not_isWithin others outside below)

/-- A tree in which nodes have been moved below one node. -/
structure Gathered (t : PageTree) (target : NodeId) (nodes : List NodeId) (later : PageTree) : Prop where
  contains : ∀ m, later.contains m = t.contains m
  content? : ∀ m, later.content? m = t.content? m
  parent? : ∀ m, later.parent? m = if m ∈ nodes then some target else t.parent? m
  children : ∀ m, m ≠ target → later.children m = (t.children m).filter fun c => !decide (c ∈ nodes)

theorem gathered_foldl_moveLast {nodes : List NodeId} (wf : t.WellFormed)
    (can : ∀ child ∈ nodes, t.CanMove target child) :
    (nodes.foldl (fun t child => t.moveLast target child) t).WellFormed ∧
      Gathered t target nodes (nodes.foldl (fun t child => t.moveLast target child) t) := by
  induction nodes generalizing t with
  | nil => exact ⟨wf, fun _ => rfl, fun _ => rfl, fun _ => by simp, fun _ _ => by simp⟩
  | cons first rest ih =>
    obtain ⟨moves, others⟩ := List.forall_mem_cons.mp can
    have inside := contains_of_canHaveChildren moves.holds
    obtain ⟨sound, gathered⟩ :=
      ih (wf.moveLast moves) fun child member => (others child member).moveLast moves
    refine ⟨sound, ?_, ?_, ?_, ?_⟩
    · exact fun m => (gathered.contains m).trans contains_moveLast
    · exact fun m => (gathered.content? m).trans content?_moveLast
    · intro m
      rw [List.foldl_cons, gathered.parent?, parent?_moveLast moves.inside]
      by_cases here : m = first <;> simp [here]
    · intro m other
      rw [List.foldl_cons, gathered.children m other, wf.children_moveLast_of_ne inside other,
        List.filter_filter]
      refine List.filter_congr fun c _ => ?_
      by_cases here : c = first <;> simp [here]

/-- A well-formed tree in which nothing but the document is without a parent. -/
structure Whole (t : PageTree) : Prop where
  wellFormed : t.WellFormed
  single : ∀ n, t.contains n = true → t.parent? n = none → n = root

namespace Whole

theorem isConnected (whole : t.Whole) (inside : t.contains n = true) : t.isConnected n = true :=
  whole.wellFormed.isConnected whole.single inside

theorem grown (whole : t.Whole) (wf : later.WellFormed) (grown : Grown t later) : later.Whole where
  wellFormed := wf
  single := by
    intro n inside none
    obtain ⟨inside, none⟩ := grown.loose n inside none
    exact whole.single n inside none

theorem gathered (whole : t.Whole) {nodes : List NodeId} (wf : later.WellFormed)
    (gathered : Gathered t target nodes later) : later.Whole where
  wellFormed := wf
  single := by
    intro n inside none
    rw [gathered.parent?] at none
    split at none
    · simp at none
    · exact whole.single n ((gathered.contains n).symm.trans inside) none

end Whole

/-- Makes an element below a node and moves some of the children of that node below it. -/
def wrap (t : PageTree) (parent : NodeId) (tag : String) (loose : List NodeId) : PageTree × NodeId :=
  let (t, made) := t.createElement (some parent) tag []
  (loose.foldl (fun t child => t.moveLast made child) t, made)

theorem ensureHtml_eq : t.ensureHtml =
    let wrapped := t.wrap root "html" ((t.children root).filter t.isMeaningful)
    match t.documentElement? with
    | some element => if t.tag? element == some "html" then (t, element) else wrapped
    | none => wrapped := rfl

theorem ensureBody_eq : t.ensureBody =
    match t.body? with
    | some _ => t
    | none => (t.ensureHtml.1.wrap t.ensureHtml.2 "body"
        ((t.ensureHtml.1.children t.ensureHtml.2).filter fun n =>
          t.ensureHtml.1.tag? n != some "head")).1 := rfl

/-- A tree with a new element around some of the children of a node. -/
structure Wrapped (t : PageTree) (parent : NodeId) (tag : String) (loose : List NodeId)
    (later : PageTree) : Prop where
  whole : later.Whole
  content? : ∀ m, later.content? m =
    if m = t.fresh then some (.element ⟨lowerName tag, []⟩) else t.content? m
  within : later.children parent = ((t.children parent).filter fun c => !decide (c ∈ loose)) ++ [t.fresh]
  elsewhere : ∀ m, m ≠ parent → m ≠ t.fresh → later.children m = t.children m

theorem Whole.wrapped (whole : t.Whole) (holds : t.canHaveChildren parent = true) (tag : String)
    {loose : List NodeId} (below : loose ⊆ t.children parent) :
    (t.wrap parent tag loose).2 = t.fresh ∧
      Wrapped t parent tag loose (t.wrap parent tag loose).1 := by
  have wf := whole.wellFormed
  have inside := contains_of_canHaveChildren holds
  have old : ∀ child ∈ loose, t.contains child = true ∧ t.parent? child = some parent := by
    intro child member
    have is := (wf.mem_children parent child).mp (below member)
    exact ⟨contains_of_parent? is, is⟩
  have named : (NodeContent.element ⟨lowerName tag, []⟩).WellNamed := by
    intro e is
    exact NodeContent.element.inj is ▸ ⟨by simp, by simp⟩
  have made := wf.create holds named
  have can : ∀ child ∈ loose,
      (t.create (some parent) (.element ⟨lowerName tag, []⟩)).1.CanMove t.fresh child := by
    intro child member
    obtain ⟨known, is⟩ := old child member
    have below : (t.create (some parent) (.element ⟨lowerName tag, []⟩)).1.HasParent child parent :=
      (parent?_create _ _).trans ((if_neg (ne_fresh known)).trans is)
    refine ⟨(contains_create _ _).mpr (Or.inl known), ?_, ?_, ne_fresh known, ?_⟩
    · simp only [PageTree.canHaveChildren, content?_create, if_pos]
    · rintro rfl
      exact absurd (wf.parent?_root.symm.trans is) (by simp)
    · -- The only way up from the new element is through its parent, from which no way leads down to a child.
      intro above
      obtain ⟨first, step, rest⟩ := Relation.TransGen.head'_iff.mp above
      have step : (t.create (some parent) _).1.parent? t.fresh = some first := step
      rw [parent?_create, if_pos rfl] at step
      obtain rfl := Option.some.inj step
      exact (made.ends child).not_isBelow_self (Relation.TransGen.head'_iff.mpr ⟨parent, below, rest⟩)
  obtain ⟨sound, gathered⟩ := gathered_foldl_moveLast made can
  have below := whole.grown made (.create _ _ _)
  refine ⟨create_snd (t := t) (some parent) (.element ⟨lowerName tag, []⟩),
    below.gathered sound gathered, ?_, ?_, ?_⟩
  · exact fun m => (gathered.content? m).trans (content?_create _ _)
  · refine (gathered.children parent (ne_fresh inside)).trans ?_
    rw [children_create _ inside, if_pos rfl, List.filter_append]
    have unmoved : t.fresh ∉ loose := fun member => ne_fresh (old _ member).1 rfl
    simp [unmoved]
  · intro m other new
    refine (gathered.children m new).trans ?_
    rw [children_create _ inside, if_neg other]
    refine List.filter_eq_self.mpr fun c member => ?_
    have elsewhere : c ∉ loose := by
      intro again
      exact other (Option.some.inj (((wf.mem_children m c).mp member).symm.trans (old c again).2))
    simpa using elsewhere

namespace Wrapped

variable {tag : String} {loose : List NodeId} (wrapped : Wrapped t parent tag loose later)

include wrapped

theorem element?_fresh : later.element? t.fresh = some ⟨lowerName tag, []⟩ := by
  rw [element?, wrapped.content?, if_pos rfl]

theorem isElement_of_contains (inside : t.contains m = true) : later.isElement m = t.isElement m := by
  rw [isElement, element?_congr ((wrapped.content? m).trans (if_neg (ne_fresh inside))), isElement]

end Wrapped

theorem isMeaningful_of_isElement (element : t.isElement n = true) : t.isMeaningful n = true := by
  obtain ⟨e, is⟩ := Option.isSome_iff_exists.mp element
  rw [isMeaningful, element?_eq_some_iff.mp is]

theorem WellFormed.contains_child (wf : t.WellFormed) (member : child ∈ t.children parent) :
    t.contains child = true := contains_of_parent? ((wf.mem_children parent child).mp member)

theorem Whole.ensureHtml (whole : t.Whole) :
    t.ensureHtml.1.Whole ∧ t.ensureHtml.1.documentElement? = some t.ensureHtml.2 := by
  have holds : t.canHaveChildren root = true := by
    rw [PageTree.canHaveChildren, whole.wellFormed.document]
  obtain ⟨made, wrapped⟩ := whole.wrapped holds "html"
    (List.filter_subset_self (p := t.isMeaningful) (t.children root))
  have single : (t.wrap root "html" ((t.children root).filter t.isMeaningful)).1.Whole ∧
      (t.wrap root "html" ((t.children root).filter t.isMeaningful)).1.documentElement? =
        some (t.wrap root "html" ((t.children root).filter t.isMeaningful)).2 := by
    refine ⟨wrapped.whole, ?_⟩
    rw [made, documentElement?, childElements, wrapped.within, List.filter_append,
      List.filter_eq_nil_iff.mpr]
    · simp [isElement, wrapped.element?_fresh]
    · intro c member element
      obtain ⟨known, left⟩ := List.mem_filter.mp member
      rw [wrapped.isElement_of_contains (whole.wellFormed.contains_child known)] at element
      have moved := List.mem_filter.mpr ⟨known, isMeaningful_of_isElement element⟩
      simp [moved] at left
  rw [ensureHtml_eq]
  simp only []
  split
  · rename_i element is
    split
    · exact ⟨whole, is⟩
    · exact single
  · exact single

/-- A body made below the root element is found again. -/
theorem Whole.wrapBody {html : NodeId} (whole : t.Whole) (is : t.documentElement? = some html)
    {loose : List NodeId} (below : loose ⊆ t.children html) :
    (t.wrap html "body" loose).1.Whole ∧ (t.wrap html "body" loose).1.body?.isSome = true := by
  have wf := whole.wellFormed
  obtain ⟨top, element⟩ := List.mem_filter.mp (List.mem_of_mem_head? is)
  obtain ⟨_, wrapped⟩ := whole.wrapped (canHaveChildren_of_isElement element) "body" below
  refine ⟨wrapped.whole, ?_⟩
  have other : root ≠ html := by
    intro same
    have is := (wf.mem_children root html).mp top
    rw [← same, wf.parent?_root] at is
    simp at is
  have still : (t.wrap html "body" loose).1.documentElement? = some html := by
    rw [← is, documentElement?, documentElement?, childElements, childElements,
      wrapped.elsewhere root other (ne_fresh wf.contains_root)]
    refine congrArg List.head? (List.filter_congr fun c member => ?_)
    exact wrapped.isElement_of_contains (wf.contains_child member)
  have found : t.fresh ∈ (t.wrap html "body" loose).1.childElements html := by
    rw [childElements, wrapped.within]
    simp [isElement, wrapped.element?_fresh]
  rw [body?, still]
  refine List.find?_isSome.mpr ⟨t.fresh, found, ?_⟩
  rw [tag?, wrapped.element?_fresh]
  decide

theorem Whole.ensureBody (whole : t.Whole) :
    t.ensureBody.Whole ∧ t.ensureBody.body?.isSome = true := by
  rw [ensureBody_eq]
  split
  · rename_i body is
    exact ⟨whole, by rw [is]; rfl⟩
  · obtain ⟨top, is⟩ := whole.ensureHtml
    exact top.wrapBody is (List.filter_subset_self _)

/-! The page of a markup text. -/

theorem node?_empty : empty.node? n = if n = root then some ⟨none, [], .document⟩ else none := by
  obtain ⟨i⟩ := n
  cases i <;> simp [node?, empty, root]

theorem whole_empty : empty.Whole := by
  have parent : ∀ n, empty.parent? n = none := by
    intro n
    rw [parent?, node?_empty]
    split <;> rfl
  have children : ∀ n, empty.children n = [] := by
    intro n
    rw [children_eq_getD, node?_empty]
    split <;> rfl
  have element : ∀ n, empty.element? n = none := by
    intro n
    rw [element?, content?, node?_empty]
    split <;> simp_all
  refine ⟨⟨?_, ?_, parent root, fun n => .top (parent n), ?_, ?_, rfl⟩, ?_⟩
  · intro p c
    simp [children, parent]
  · intro n
    simp [children]
  · intro n some
    exact absurd (children n) some
  · intro n e is
    simp [element] at is
  · intro n inside _
    rw [contains_iff, node?_empty] at inside
    by_contra other
    simp [other] at inside

end PageTree

namespace Page

/-- Every node of a page that has just been read is connected, and the page has a body. -/
theorem whole_ofHtml {html : String} {page : Page} (read : ofHtml html = .ok page) :
    page.tree.Whole ∧ page.tree.body?.isSome = true := by
  have empty := PageTree.whole_empty
  have place : PageTree.empty.canHaveChildren PageTree.root = true := rfl
  have wf := Markup.wellFormed_insert empty.wellFormed place html
  have grown := Markup.grown_insert .empty PageTree.root html
  unfold ofHtml at read
  split at read
  · rename_i tree created same
    rw [same] at wf grown
    obtain rfl := Except.ok.inj read
    exact (empty.grown wf grown).ensureBody
  · simp at read

end Page

end CosmeticRules
