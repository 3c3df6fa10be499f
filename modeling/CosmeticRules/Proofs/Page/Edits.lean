import CosmeticRules.Proofs.Page.WellFormed

/-!
The edits of a page tree: what each does to parents, children and contents, and that each keeps the tree
well formed.
-/

namespace CosmeticRules

theorem lowerName_lowerName (name : String) : lowerName (lowerName name) = lowerName name := by
  have again : Char.toLower ∘ Char.toLower = Char.toLower := by
    funext c
    unfold Function.comp Char.toLower
    grind
  simp [lowerName, Text.asciiLower, again]

theorem Attribute.map_name_put (name value : String) (attributes : List Attribute) :
    (put name value attributes).map (·.name) =
      if name ∈ attributes.map (·.name) then attributes.map (·.name)
      else attributes.map (·.name) ++ [name] := by
  induction attributes with
  | nil => rfl
  | cons a rest ih =>
    by_cases same : a.name = name
    · simp [put, same]
    · simp only [put, same, if_false, List.map_cons, ih, List.mem_cons, Ne.symm same, false_or]
      split <;> simp

namespace Element

/-- Well-named attributes, as a statement about the names alone. -/
theorem wellNamed_iff {e : Element} : e.WellNamed ↔
    (∀ name ∈ e.attributes.map (·.name), lowerName name = name) ∧ (e.attributes.map (·.name)).Nodup :=
  ⟨fun named => ⟨List.forall_mem_map.mpr named.lower, named.distinct⟩,
    fun ⟨lower, distinct⟩ => ⟨List.forall_mem_map.mp lower, distinct⟩⟩

theorem WellNamed.setAttribute {e : Element} (named : e.WellNamed) (name value : String) :
    (e.setAttribute name value).WellNamed := by
  rw [wellNamed_iff] at named ⊢
  obtain ⟨lower, distinct⟩ := named
  simp only [Element.setAttribute, Attribute.map_name_put]
  split
  · exact ⟨lower, distinct⟩
  · rename_i new
    refine ⟨?_, List.nodup_append.mpr ⟨distinct, List.nodup_singleton _, ?_⟩⟩
    · intro other member
      rcases List.mem_append.mp member with old | single
      · exact lower other old
      · rw [List.mem_singleton.mp single, lowerName_lowerName]
    · rintro other member _ single rfl
      exact new (List.mem_singleton.mp single ▸ member)

theorem WellNamed.removeAttribute {e : Element} (named : e.WellNamed) (name : String) :
    (e.removeAttribute name).WellNamed where
  lower := fun a member => named.lower a (List.mem_filter.mp member).1
  distinct := named.distinct.sublist (List.filter_sublist.map _)

end Element

/-- If a content is an element, then its attributes are well named. -/
def NodeContent.WellNamed (content : NodeContent) : Prop := ∀ e, content = .element e → e.WellNamed

/-- Changes an element; any other content stays. -/
def NodeContent.mapElement (f : Element → Element) : NodeContent → NodeContent
  | .element e => .element (f e)
  | other => other

namespace PageTree

variable {t : PageTree} {n m parent child reference : NodeId}

/-! New nodes. -/

/-- The node that is created next. -/
def fresh (t : PageTree) : NodeId := ⟨t.size⟩

theorem not_contains_fresh : t.contains t.fresh = false := by simp [contains, fresh]

theorem ne_fresh (inside : t.contains n = true) : n ≠ t.fresh := by
  rintro rfl
  simp [not_contains_fresh] at inside

theorem parent?_fresh : t.parent? t.fresh = none := by
  cases is : t.parent? t.fresh with
  | none => rfl
  | some p => exact absurd (contains_of_parent? is) (by simp [not_contains_fresh])

theorem children_fresh : t.children t.fresh = [] := by
  refine List.eq_nil_iff_forall_not_mem.mpr fun c member => ?_
  exact ne_fresh (contains_of_mem_children member) rfl

section push

variable (node : Node)

theorem node?_push :
    (⟨t.nodes.push node⟩ : PageTree).node? m = if m = t.fresh then some node else t.node? m := by
  have same : m.index = t.nodes.size ↔ m = t.fresh := by
    cases m
    simp [fresh, size]
  simp only [node?, Array.getElem?_push, same]

theorem contains_push :
    (⟨t.nodes.push node⟩ : PageTree).contains m = true ↔ t.contains m = true ∨ m = t.fresh := by
  rw [contains_iff, contains_iff, node?_push]
  split <;> simp_all

theorem children_push (bare : node.children = []) :
    (⟨t.nodes.push node⟩ : PageTree).children m = t.children m := by
  rw [children_eq_getD, node?_push]
  split
  · rename_i same
    rw [same, children_fresh, Option.map_some, bare]
    rfl
  · rw [children_eq_getD]

end push

theorem children_modifyNode_children {f : List NodeId → List NodeId} (inside : t.contains n = true) :
    (t.modifyNode n fun node => { node with children := f node.children }).children m =
      if m = n then f (t.children m) else t.children m := by
  rw [children, node?_modifyNode, children]
  obtain ⟨node, is⟩ := Option.isSome_iff_exists.mp (contains_iff.mp inside)
  by_cases same : m = n
  · simp [same, is]
  · rw [if_neg same, if_neg same]

@[simp] theorem contains_modifyNode {f : Node → Node} :
    (t.modifyNode n f).contains m = t.contains m := by
  simp [contains]

section create

variable (place : Option NodeId) (content : NodeContent)

@[simp] theorem create_snd : (t.create place content).2 = t.fresh := by
  cases place <;> rfl

theorem contains_create :
    (t.create place content).1.contains m = true ↔ t.contains m = true ∨ m = t.fresh := by
  cases place with
  | none => exact contains_push _
  | some p => exact contains_modifyNode (t := ⟨t.nodes.push ⟨some p, [], content⟩⟩) ▸ contains_push _

theorem content?_create :
    (t.create place content).1.content? m = if m = t.fresh then some content else t.content? m := by
  have pushed : (⟨t.nodes.push ⟨place, [], content⟩⟩ : PageTree).content? m =
      if m = t.fresh then some content else t.content? m := by
    rw [content?, node?_push, content?]
    split <;> rfl
  cases place with
  | none => exact pushed
  | some p => exact (content?_modifyNode _ p m (by exact fun _ => rfl)).trans pushed

theorem parent?_create :
    (t.create place content).1.parent? m = if m = t.fresh then place else t.parent? m := by
  have pushed : (⟨t.nodes.push ⟨place, [], content⟩⟩ : PageTree).parent? m =
      if m = t.fresh then place else t.parent? m := by
    rw [parent?, node?_push, parent?]
    split <;> rfl
  cases place with
  | none => exact pushed
  | some p => exact (parent?_modifyNode _ p m (by exact fun _ => rfl)).trans pushed

theorem children_create (inside : t.contains parent = true) :
    (t.create (some parent) content).1.children m =
      if m = parent then t.children parent ++ [t.fresh] else t.children m := by
  have there : (⟨t.nodes.push ⟨some parent, [], content⟩⟩ : PageTree).contains parent = true :=
    (contains_push _).mpr (Or.inl inside)
  refine (children_modifyNode_children (f := (· ++ [t.fresh])) there).trans ?_
  rw [children_push _ rfl]
  split
  · rename_i same
    rw [same]
  · rfl

theorem content?_create_of_contains (inside : t.contains m = true) :
    (t.create place content).1.content? m = t.content? m :=
  (content?_create place content).trans (if_neg (ne_fresh inside))

end create

theorem WellFormed.wellNamed_create (wf : t.WellFormed) {content : NodeContent}
    (named : content.WellNamed) (place : Option NodeId) {e : Element}
    (is : (t.create place content).1.element? n = some e) : e.WellNamed := by
  rw [element?_eq_some_iff, content?_create] at is
  split at is
  · exact named e (Option.some.inj is)
  · exact wf.wellNamed n e (element?_eq_some_iff.mpr is)

theorem canHaveChildren_create (place : Option NodeId) (content : NodeContent)
    (holds : t.canHaveChildren m = true) :
    (t.create place content).1.canHaveChildren m = true := by
  have same := content?_create_of_contains place content (contains_of_canHaveChildren holds)
  exact (canHaveChildren_congr same).trans holds

/-- A new node below one that can have children. -/
theorem WellFormed.create (wf : t.WellFormed) (holds : t.canHaveChildren parent = true)
    {content : NodeContent} (named : content.WellNamed) :
    (t.create (some parent) content).1.WellFormed := by
  have inside := contains_of_canHaveChildren holds
  refine wf.attached (fun m => parent?_create _ _)
    (fun m => children_create content inside)
    (List.perm_append_singleton _ _) parent?_fresh ?_ (ne_fresh wf.contains_root).symm
    (canHaveChildren_create _ _ holds) (fun m => canHaveChildren_create _ _)
    (fun n e => wf.wellNamed_create named _)
    ((content?_create_of_contains _ _ wf.contains_root).trans wf.document)
  intro within
  rcases Relation.reflTransGen_iff_eq_or_transGen.mp within with same | below
  · exact ne_fresh inside same.symm
  · exact ne_fresh (wf.contains_of_isBelow below) rfl

/-- A new node without a parent. -/
theorem WellFormed.createLoose (wf : t.WellFormed) {content : NodeContent} (named : content.WellNamed) :
    (t.create none content).1.WellFormed := by
  refine wf.refilled ?_ (fun m => children_push _ rfl) (fun m => canHaveChildren_create _ _)
    (fun n e => wf.wellNamed_create named _)
    ((content?_create_of_contains _ _ wf.contains_root).trans wf.document)
  intro m
  rw [parent?_create]
  split
  · rename_i same
    rw [same, parent?_fresh]
  · rfl

/-! Moves. -/

@[simp] theorem contains_detach : (t.detach n).contains m = t.contains m := by
  unfold detach
  split <;> simp

@[simp] theorem content?_detach : (t.detach n).content? m = t.content? m := by
  unfold detach
  split
  · rfl
  · rw [content?_modifyNode, content?_modifyNode] <;> exact fun _ => rfl

theorem WellFormed.children_detach (wf : t.WellFormed) :
    (t.detach n).children m = (t.children m).filter fun c => !decide (c = n) := by
  have others : m ∉ t.parent? n → (t.children m).filter (fun c => !decide (c = n)) = t.children m := by
    intro other
    refine List.filter_eq_self.mpr fun c member => ?_
    have is := (wf.mem_children m c).mp member
    have distinct : c ≠ n := fun same => other (same ▸ is)
    simpa using distinct
  unfold detach
  split
  · rename_i none
    exact (others (by simp [none])).symm
  · rename_i p is
    rw [children_modifyNode _ _ _ (by exact fun _ => rfl),
      children_modifyNode_children (wf.contains_parent is)]
    split
    · simp only [bne, BEq.beq]
    · rename_i other
      exact (others (by rw [is]; simpa using Ne.symm other)).symm

theorem WellFormed.detach (wf : t.WellFormed) (n : NodeId) : (t.detach n).WellFormed :=
  wf.released (· = n) (fun m => parent?_detach t n m) (fun _ => wf.children_detach)
    fun _ => content?_detach

/-- Gives a node a parent, and the parent new children. -/
def attach (t : PageTree) (parent child : NodeId) (place : List NodeId → List NodeId) : PageTree :=
  (t.modifyNode child fun node => { node with parent := some parent }).modifyNode parent
    fun node => { node with children := place node.children }

section attach

variable {place : List NodeId → List NodeId}

@[simp] theorem contains_attach : (t.attach parent child place).contains m = t.contains m := by
  simp [attach]

@[simp] theorem content?_attach : (t.attach parent child place).content? m = t.content? m := by
  unfold attach
  rw [content?_modifyNode, content?_modifyNode] <;> exact fun _ => rfl

theorem parent?_attach (inside : t.contains child = true) :
    (t.attach parent child place).parent? m = if m = child then some parent else t.parent? m := by
  unfold attach
  rw [parent?_modifyNode _ _ _ (by exact fun _ => rfl), parent?, node?_modifyNode]
  obtain ⟨node, is⟩ := Option.isSome_iff_exists.mp (contains_iff.mp inside)
  split
  · rw [is]
    rfl
  · rfl

theorem children_attach (inside : t.contains parent = true) :
    (t.attach parent child place).children m =
      if m = parent then place (t.children parent) else t.children m := by
  unfold attach
  rw [children_modifyNode_children (by simpa using inside), children_modifyNode _ _ _ (by exact fun _ => rfl)]
  split
  · rename_i same
    rw [same]
  · rfl

theorem WellFormed.attach (wf : t.WellFormed) (inside : t.contains child = true)
    (holds : t.canHaveChildren parent = true) (proper : child ≠ root) (loose : t.parent? child = none)
    (outside : ¬t.IsWithin parent child)
    (perm : (place (t.children parent)).Perm (child :: t.children parent)) :
    (t.attach parent child place).WellFormed := by
  have same : ∀ m, (t.attach parent child place).content? m = t.content? m := fun _ => content?_attach
  refine wf.attached (fun _ => parent?_attach inside)
    (fun _ => children_attach (contains_of_canHaveChildren holds)) perm loose outside proper
    ((canHaveChildren_congr (same parent)).trans holds)
    (fun m holds => (canHaveChildren_congr (same m)).trans holds) ?_ ((same root).trans wf.document)
  intro n e is
  exact wf.wellNamed n e ((element?_congr (same n)).symm.trans is)

end attach

theorem moveLast_eq : t.moveLast parent child = (t.detach child).attach parent child (· ++ [child]) := rfl

theorem moveBefore_eq : t.moveBefore parent child reference =
    (t.detach child).attach parent child (insertBeforeIn child reference) := rfl

theorem perm_insertBeforeIn {nodes : List NodeId} (member : reference ∈ nodes) :
    (insertBeforeIn child reference nodes).Perm (child :: nodes) := by
  induction nodes with
  | nil => simp at member
  | cons n rest ih =>
    rw [insertBeforeIn]
    split
    · exact .refl _
    · rename_i other
      have later := (List.mem_cons.mp member).resolve_left (Ne.symm other)
      exact ((ih later).cons n).trans (List.Perm.swap child n rest)

theorem isBelow_of_detach (below : (t.detach child).IsBelow n m) : t.IsBelow n m := by
  have fewer : ∀ a b, (t.detach child).HasParent a b → t.HasParent a b := by
    intro a b step
    have step : (t.detach child).parent? a = some b := step
    rw [parent?_detach] at step
    split at step
    · simp at step
    · exact step
  exact Relation.TransGen.mono fewer _ _ below

/-- What a node must be so that it can be put below another. -/
structure CanMove (t : PageTree) (parent child : NodeId) : Prop where
  inside : t.contains child = true
  holds : t.canHaveChildren parent = true
  proper : child ≠ root
  other : child ≠ parent
  outside : ¬t.IsBelow parent child

theorem WellFormed.move (wf : t.WellFormed) (can : t.CanMove parent child)
    (place : List NodeId → List NodeId)
    (perm : (place ((t.detach child).children parent)).Perm (child :: (t.detach child).children parent)) :
    ((t.detach child).attach parent child place).WellFormed := by
  refine (wf.detach child).attach (by simpa using can.inside)
    ((canHaveChildren_congr content?_detach).trans can.holds) can.proper ?_ ?_ perm
  · rw [parent?_detach, if_pos rfl]
  · intro within
    rcases Relation.reflTransGen_iff_eq_or_transGen.mp within with same | below
    · exact can.other same
    · exact can.outside (isBelow_of_detach below)

theorem WellFormed.moveLast (wf : t.WellFormed) (can : t.CanMove parent child) :
    (t.moveLast parent child).WellFormed :=
  wf.move can (· ++ [child]) (List.perm_append_singleton _ _)

/-- Before a child of the new parent that is not the node itself. -/
theorem WellFormed.moveBefore (wf : t.WellFormed) (can : t.CanMove parent child)
    (member : reference ∈ (t.detach child).children parent) :
    (t.moveBefore parent child reference).WellFormed :=
  wf.move can _ (perm_insertBeforeIn member)

/-! Texts in place of children. -/

theorem parent?_foldl_release (nodes : List NodeId) (t : PageTree) :
    (nodes.foldl (fun t child => t.modifyNode child fun node => { node with parent := none }) t).parent? m =
      if m ∈ nodes then none else t.parent? m := by
  induction nodes generalizing t with
  | nil => simp
  | cons n rest ih =>
    have first : (t.modifyNode n fun node => { node with parent := none }).parent? m =
        if m = n then none else t.parent? m := by
      rw [parent?, node?_modifyNode]
      split
      · cases t.node? n <;> rfl
      · rfl
    rw [List.foldl_cons, ih, first]
    by_cases here : m = n <;> simp [here]

theorem foldl_release_fields (nodes : List NodeId) (t : PageTree) :
    let later := nodes.foldl (fun t child => t.modifyNode child fun node => { node with parent := none }) t
    later.contains m = t.contains m ∧ later.content? m = t.content? m ∧
      later.children m = t.children m := by
  induction nodes generalizing t with
  | nil => exact ⟨rfl, rfl, rfl⟩
  | cons n rest ih =>
    obtain ⟨inside, content, list⟩ := ih (t.modifyNode n fun node => { node with parent := none })
    refine ⟨inside.trans contains_modifyNode, content.trans ?_, list.trans ?_⟩
    · exact content?_modifyNode t n m fun _ => rfl
    · exact children_modifyNode t n m fun _ => rfl

@[simp] theorem contains_clearChildren : (t.clearChildren n).contains m = t.contains m := by
  unfold clearChildren
  rw [contains_modifyNode]
  exact (foldl_release_fields _ t).1

@[simp] theorem content?_clearChildren : (t.clearChildren n).content? m = t.content? m := by
  unfold clearChildren
  rw [content?_modifyNode _ _ _ (by exact fun _ => rfl)]
  exact (foldl_release_fields _ t).2.1

theorem WellFormed.clearChildren (wf : t.WellFormed) (inside : t.contains n = true) :
    (t.clearChildren n).WellFormed := by
  refine wf.released (· ∈ t.children n) ?_ ?_ fun _ => content?_clearChildren
  · intro m
    unfold PageTree.clearChildren
    rw [parent?_modifyNode _ _ _ (by exact fun _ => rfl), parent?_foldl_release]
  · intro m
    unfold PageTree.clearChildren
    rw [children_modifyNode_children (f := fun _ => []) ((foldl_release_fields _ t).1.trans inside),
      (foldl_release_fields _ t).2.2]
    split
    · rename_i same
      rw [same]
      exact (List.filter_eq_nil_iff.mpr fun c member => by simpa using member).symm
    · rename_i other
      refine (List.filter_eq_self.mpr fun c member => ?_).symm
      have is := (wf.mem_children m c).mp member
      have elsewhere : c ∉ t.children n := by
        intro again
        exact other (Option.some.inj (is.symm.trans ((wf.mem_children n c).mp again)))
      simpa using elsewhere

theorem WellFormed.replaceChildren (wf : t.WellFormed) (holds : t.canHaveChildren n = true) (text : String) :
    (t.replaceChildren n text).WellFormed := by
  have cleared := wf.clearChildren (contains_of_canHaveChildren holds)
  unfold PageTree.replaceChildren
  simp only []
  split
  · exact cleared
  · refine cleared.create ((canHaveChildren_congr content?_clearChildren).trans holds) ?_
    intro e is
    simp at is

/-! Attributes. -/

theorem content?_modifyElement (f : Element → Element) : (t.modifyElement n f).content? m =
    if m = n then (t.content? n).map (NodeContent.mapElement f) else t.content? m := by
  unfold content? modifyElement
  rw [node?_modifyNode]
  split
  · cases t.node? n with
    | none => rfl
    | some node =>
      obtain ⟨parent, children, content⟩ := node
      cases content <;> rfl
  · rfl

theorem canHaveChildren_modifyElement (f : Element → Element) :
    (t.modifyElement n f).canHaveChildren m = t.canHaveChildren m := by
  rw [canHaveChildren, content?_modifyElement, canHaveChildren]
  split_ifs with same
  · rw [same]
    cases t.content? n with
    | none => rfl
    | some content => cases content <;> rfl
  · rfl

theorem content?_modifyElement_of_document (f : Element → Element)
    (is : t.content? m = some .document) : (t.modifyElement n f).content? m = some .document := by
  rw [content?_modifyElement]
  split
  · rename_i same
    rw [← same, is]
    rfl
  · exact is

theorem WellFormed.modifyElement (wf : t.WellFormed) {f : Element → Element}
    (keeps : ∀ e : Element, e.WellNamed → (f e).WellNamed) : (t.modifyElement n f).WellFormed := by
  refine wf.refilled (fun m => parent?_modifyElement t n m f) (fun m => children_modifyElement t n m f)
    (fun m holds => (canHaveChildren_modifyElement f).trans holds) ?_
    (content?_modifyElement_of_document f wf.document)
  intro m e is
  rw [element?_modifyElement] at is
  split at is
  · obtain ⟨old, was, rfl⟩ := Option.map_eq_some_iff.mp is
    exact keeps old (wf.wellNamed n old was)
  · exact wf.wellNamed m e is

end PageTree

end CosmeticRules
