import CosmeticRules.Markup.Graft
import CosmeticRules.Proofs.Page.Edits

/-!
Markup that is added to a page tree keeps it well formed: the nodes that were there stay, and every new
node has a parent. Only the node below which it is added gets new children.
-/

namespace CosmeticRules

namespace PageTree

/-- A tree that still holds the nodes of another with what they hold. -/
structure StillHolds (t later : PageTree) : Prop where
  contains : ∀ m, t.contains m = true → later.contains m = true
  content? : ∀ m, t.contains m = true → later.content? m = t.content? m

namespace StillHolds

theorem refl (t : PageTree) : StillHolds t t := ⟨fun _ inside => inside, fun _ _ => rfl⟩

theorem trans {t between later : PageTree} (first : StillHolds t between)
    (second : StillHolds between later) : StillHolds t later where
  contains := fun m inside => second.contains m (first.contains m inside)
  content? := fun m inside => (second.content? m (first.contains m inside)).trans (first.content? m inside)

theorem create (t : PageTree) (place : Option NodeId) (content : NodeContent) :
    StillHolds t (t.create place content).1 where
  contains := fun _ inside => (contains_create _ _).mpr (Or.inl inside)
  content? := fun _ inside => content?_create_of_contains _ _ inside

end StillHolds

/-- A tree to which nodes have been added, each below another. -/
structure Grown (t later : PageTree) : Prop extends StillHolds t later where
  loose : ∀ m, later.contains m = true → later.parent? m = none →
    t.contains m = true ∧ t.parent? m = none

namespace Grown

theorem refl (t : PageTree) : Grown t t := ⟨.refl t, fun _ inside none => ⟨inside, none⟩⟩

theorem trans {t between later : PageTree} (first : Grown t between) (second : Grown between later) :
    Grown t later where
  toStillHolds := first.toStillHolds.trans second.toStillHolds
  loose := by
    intro m inside none
    obtain ⟨inside, none⟩ := second.loose m inside none
    exact first.loose m inside none

theorem create (t : PageTree) (parent : NodeId) (content : NodeContent) :
    Grown t (t.create (some parent) content).1 where
  toStillHolds := .create t _ content
  loose := by
    intro m inside none
    rw [parent?_create] at none
    split at none
    · simp at none
    · rename_i old
      exact ⟨((contains_create _ _).mp inside).resolve_right old, none⟩

end Grown

end PageTree

namespace Markup

open PageTree

/-! The attributes of tags. -/

theorem lowerName_lowerText (s : List Char) : lowerName (lowerText s) = lowerText s := by
  have same : lowerText s = lowerName (String.ofList s) := by simp [lowerText, lowerName]
  rw [same, lowerName_lowerName]

theorem wellNamed_addAttribute {tag : String} {done : List Attribute} {name value : String}
    (named : (⟨tag, done⟩ : Element).WellNamed) (lower : lowerName name = name) :
    (⟨tag, addAttribute done name value⟩ : Element).WellNamed := by
  unfold addAttribute
  split
  · exact named
  · rename_i new
    refine ⟨List.forall_mem_append.mpr ⟨named.lower, by simpa using lower⟩, ?_⟩
    rw [List.map_append]
    refine List.nodup_append.mpr ⟨named.distinct, List.nodup_singleton _, ?_⟩
    rintro other member _ single rfl
    obtain ⟨a, known, same⟩ := List.mem_map.mp member
    rw [List.map_singleton, List.mem_singleton] at single
    exact new (List.any_eq_true.mpr ⟨a, known, by simpa using same.trans single⟩)

theorem wellNamed_attributes {tag : String} {done found : List Attribute} {s rest : List Char}
    {selfClosing : Bool} (read : attributes done s = .ok (found, selfClosing, rest))
    (named : (⟨tag, done⟩ : Element).WellNamed) : (⟨tag, found⟩ : Element).WellNamed := by
  fun_induction attributes done s with
  | case1 => simp at read
  | case2 | case3 =>
    simp only [Except.ok.injEq, Prod.mk.injEq] at read
    exact read.1 ▸ named
  | case4 _ _ _ _ _ _ ih => exact ih read named
  | case5 _ _ _ _ _ _ _ _ _ _ _ _ _ ih =>
    exact ih read (wellNamed_addAttribute named (lowerName_lowerText _))
  | case6 => simp at read
  | case7 _ _ _ _ _ _ _ _ _ ih =>
    exact ih read (wellNamed_addAttribute named (lowerName_lowerText _))

/-- The attributes of a tag are well named. -/
def Piece.WellNamed : Piece → Prop
  | .startTag tag attributes _ | .rawElement tag attributes _ =>
    (⟨lowerName tag, attributes⟩ : Element).WellNamed
  | _ => True

theorem wellNamed_startTag (s : List Char) : ∀ piece ∈ (startTag s).pieces, piece.WellNamed := by
  unfold startTag
  simp only []
  split
  · simp
  · rename_i found selfClosing rest read
    have bare : (⟨lowerName (lowerText (s.takeWhile isTagChar)), []⟩ : Element).WellNamed :=
      ⟨by simp, by simp⟩
    have named := wellNamed_attributes read bare
    split
    · unfold rawElement
      split <;> simpa [Piece.WellNamed] using named
    · simpa [Piece.WellNamed] using named

theorem wellNamed_step (c : Char) (s : List Char) : ∀ piece ∈ (step c s).pieces, piece.WellNamed := by
  unfold step
  split
  · split
    · unfold comment
      split <;> simp [Piece.WellNamed]
    · unfold closing
      split <;> simp [Piece.WellNamed]
    · unfold declaration
      split <;> simp
    · exact wellNamed_startTag _
  · simp [Piece.WellNamed]

theorem wellNamed_pieces (s : List Char) : ∀ piece ∈ (pieces s).1, piece.WellNamed := by
  fun_induction pieces s with
  | case1 => simp
  | case2 c tail _ _ => exact wellNamed_step c tail
  | case3 c tail _ _ ih => exact List.forall_mem_append.mpr ⟨wellNamed_step c tail, ih⟩

/-! Adding pieces. -/

theorem closeUpTo_subset (closed : String) (boundaries : List String) (all : OpenElements) :
    closeUpTo closed boundaries all ⊆ all := by
  unfold closeUpTo
  split
  · split
    · exact ((List.drop_sublist _ _).trans (List.dropWhile_sublist _)).subset
    · exact List.Subset.refl _
  · exact List.Subset.refl _

/-- A start tag keeps what is kept whenever elements are closed that can end without an end tag. -/
theorem closeBefore_induction {p : OpenElements → Prop} {all : OpenElements} (start : p all)
    (closes : ∀ closed ∈ "p" :: optionalEnds.map (·.closed), ∀ boundaries fewer, p fewer →
      p (closeUpTo closed boundaries fewer)) (tag : String) : p (closeBefore tag all) := by
  have ends : ∀ rules ⊆ optionalEnds, ∀ all, p all → p (rules.foldl (fun all rule =>
      if rule.openers.contains tag then closeUpTo rule.closed rule.boundaries all else all) all) := by
    intro rules
    induction rules with
    | nil => exact fun _ _ before => before
    | cons rule rest ih =>
      intro known all before
      obtain ⟨first, known⟩ := List.cons_subset.mp known
      refine ih known _ ?_
      simp only []
      split
      · exact closes _ (List.mem_cons_of_mem _ (List.mem_map_of_mem first)) _ _ before
      · exact before
  have ended := ends optionalEnds (List.Subset.refl _) all start
  unfold closeBefore
  simp only []
  split
  · exact closes _ List.mem_cons_self _ _ ended
  · exact ended

theorem closeBefore_subset (tag : String) (all : OpenElements) : closeBefore tag all ⊆ all := by
  refine closeBefore_induction (p := (· ⊆ all)) (List.Subset.refl _) ?_ tag
  intro closed _ boundaries fewer within
  exact List.Subset.trans (closeUpTo_subset closed boundaries fewer) within

/-- One change of what is being grown: elements are closed, a node is added to the innermost open element, or
an element is added there and opened. -/
inductive Growth.Change (base : NodeId) (g : Growth) : Growth → Prop
  | close {fewer : OpenElements} (closed : fewer ⊆ g.opened) : Change base g { g with opened := fewer }
  | create {content : NodeContent} (named : content.WellNamed) (proper : content ≠ .document) :
    Change base g { g with tree := (g.tree.create (some (g.place base)) content).1 }
  | enter {e : Element} (named : (NodeContent.element e).WellNamed) (tag : String) :
    Change base g ⟨(g.tree.create (some (g.place base)) (.element e)).1, (g.tree.fresh, tag) :: g.opened⟩

/-- What changes make of what is being grown. -/
def Growth.Becomes (base : NodeId) : Growth → Growth → Prop := Relation.ReflTransGen (Growth.Change base)

theorem wellNamed_text (text : String) : (NodeContent.text text).WellNamed := fun e is => by simp at is

theorem wellNamed_comment (text : String) : (NodeContent.comment text).WellNamed := fun e is => by simp at is

theorem wellNamed_element {e : Element} (named : e.WellNamed) : (NodeContent.element e).WellNamed :=
  fun _ is => NodeContent.element.inj is ▸ named

theorem becomes_add (base : NodeId) (g : Growth) {piece : Piece} (named : piece.WellNamed) :
    Growth.Becomes base g (g.add base piece) := by
  cases piece with
  | text text => exact .single (.create (wellNamed_text text) NodeContent.noConfusion)
  | comment text => exact .single (.create (wellNamed_comment text) NodeContent.noConfusion)
  | endTag tag => exact .single (.close (closeUpTo_subset _ _ _))
  | startTag tag attributes selfClosing =>
    refine .head (.close (closeBefore_subset tag g.opened)) ?_
    unfold Growth.add
    simp only []
    split
    · exact .single (.create (wellNamed_element named) NodeContent.noConfusion)
    · rw [createElement, create_snd]
      exact .single (.enter (wellNamed_element named) tag)
  | rawElement tag attributes body =>
    refine .head (.close (closeBefore_subset tag g.opened)) ?_
    unfold Growth.add
    simp only []
    split
    · exact .single (.create (wellNamed_element named) NodeContent.noConfusion)
    · -- The element is open just for the text inside it.
      rw [createElement, create_snd]
      exact .head (.enter (wellNamed_element named) tag)
        (.head (.create (wellNamed_text body) NodeContent.noConfusion)
          (.single (.close (List.subset_cons_self _ _))))

theorem becomes_insert (t : PageTree) (base : NodeId) (html : String) :
    ∃ opened, Growth.Becomes base { tree := t } ⟨(insert t base html).1, opened⟩ := by
  have becomes : ∀ (found : List Piece) (g : Growth), (∀ piece ∈ found, piece.WellNamed) →
      g.Becomes base (found.foldl (Growth.add base) g) := by
    intro found
    induction found with
    | nil => exact fun g _ => .refl
    | cons piece rest ih =>
      intro g named
      obtain ⟨first, others⟩ := List.forall_mem_cons.mp named
      exact Relation.ReflTransGen.trans (becomes_add base g first) (ih _ others)
  refine ⟨((pieces html.toList).1.foldl (Growth.add base) { tree := t }).opened, ?_⟩
  unfold insert
  simp only []
  split <;> exact becomes _ { tree := t } (wellNamed_pieces html.toList)

theorem Growth.Becomes.grown {base : NodeId} {g later : Growth} (becomes : g.Becomes base later) :
    Grown g.tree later.tree := by
  induction becomes with
  | refl => exact .refl _
  | tail _ change ih =>
    cases change with
    | close => exact ih
    | create | enter => exact ih.trans (.create _ _ _)

theorem grown_insert (t : PageTree) (base : NodeId) (html : String) : Grown t (insert t base html).1 := by
  obtain ⟨_, becomes⟩ := becomes_insert t base html
  exact becomes.grown

/-- The tree is well formed, and pieces go where children can be. -/
structure Growth.Sound (base : NodeId) (g : Growth) : Prop where
  wellFormed : g.tree.WellFormed
  base : g.tree.canHaveChildren base = true
  opened : ∀ p ∈ g.opened, g.tree.canHaveChildren p.1 = true

namespace Growth.Sound

variable {base : NodeId} {g later : Growth}

theorem place (sound : g.Sound base) : g.tree.canHaveChildren (g.place base) = true := by
  unfold Growth.place
  split
  · rename_i n tag rest same
    exact sound.opened (n, tag) (same ▸ List.mem_cons_self)
  · exact sound.base

/-- A new node at the place where the next piece goes. -/
theorem create (sound : g.Sound base) {content : NodeContent} (named : content.WellNamed) :
    Growth.Sound base { g with tree := (g.tree.create (some (g.place base)) content).1 } where
  wellFormed := sound.wellFormed.create sound.place named
  base := canHaveChildren_create _ _ sound.base
  opened := fun p member => canHaveChildren_create _ _ (sound.opened p member)

theorem change (sound : g.Sound base) (change : g.Change base later) : later.Sound base := by
  cases change with
  | close closed => exact ⟨sound.wellFormed, sound.base, fun p member => sound.opened p (closed member)⟩
  | create named proper => exact sound.create named
  | enter named tag =>
    have made := sound.create named
    refine ⟨made.wellFormed, made.base, List.forall_mem_cons.mpr ⟨?_, made.opened⟩⟩
    simp only [canHaveChildren, content?_create, if_pos]

theorem becomes (sound : g.Sound base) (becomes : g.Becomes base later) : later.Sound base := by
  induction becomes with
  | refl => exact sound
  | tail _ change ih => exact ih.change change

end Growth.Sound

/-- Inserting markup keeps a tree well formed, with or without an error. -/
theorem wellFormed_insert {t : PageTree} {base : NodeId} (wf : t.WellFormed)
    (holds : t.canHaveChildren base = true) (html : String) : (insert t base html).1.WellFormed := by
  obtain ⟨_, becomes⟩ := becomes_insert t base html
  have sound : Growth.Sound base { tree := t } := ⟨wf, holds, by simp⟩
  exact (sound.becomes becomes).wellFormed

/-- Of the nodes of a tree that were there before, only one has new children, and they stand after its old
ones. What is open is new. -/
structure Growth.Below (t : PageTree) (base : NodeId) (g : Growth) : Prop where
  holds : t.StillHolds g.tree
  opened : ∀ p ∈ g.opened, t.contains p.1 = false ∧ g.tree.contains p.1 = true
  others : ∀ m, t.contains m = true → m ≠ base → g.tree.children m = t.children m
  kept : t.children base <+: g.tree.children base

namespace Growth.Below

variable {t : PageTree} {base : NodeId} {g later : Growth}

theorem start (t : PageTree) (base : NodeId) : Growth.Below t base { tree := t } :=
  ⟨.refl t, by simp, fun _ _ _ => rfl, List.prefix_refl _⟩

theorem contains_place (below : g.Below t base) (inside : t.contains base = true) :
    g.tree.contains (g.place base) = true ∧ (g.place base ≠ base → t.contains (g.place base) = false) := by
  unfold Growth.place
  split
  · rename_i n tag rest same
    obtain ⟨new, there⟩ := below.opened (n, tag) (same ▸ List.mem_cons_self)
    exact ⟨there, fun _ => new⟩
  · exact ⟨below.holds.contains base inside, fun other => absurd rfl other⟩

/-- A new node below one that is new itself, or below the base. -/
theorem create (below : g.Below t base) (inside : t.contains base = true) (content : NodeContent) :
    Growth.Below t base { g with tree := (g.tree.create (some (g.place base)) content).1 } where
  holds := below.holds.trans (.create _ _ _)
  opened := by
    intro p member
    obtain ⟨fresh, known⟩ := below.opened p member
    exact ⟨fresh, (contains_create _ _).mpr (Or.inl known)⟩
  others := by
    obtain ⟨there, new⟩ := below.contains_place inside
    intro m inside other
    rw [children_create content there, if_neg ?_, below.others m inside other]
    rintro rfl
    exact absurd inside (by simp [new other])
  kept := by
    rw [children_create content (below.contains_place inside).1]
    split
    · rename_i same
      exact same ▸ below.kept.trans (List.prefix_append _ _)
    · exact below.kept

/-- The node that is created next is new. -/
theorem not_contains_fresh (below : g.Below t base) : t.contains g.tree.fresh = false := by
  by_contra known
  have there := below.holds.contains _ (by simpa using known)
  exact absurd there (by simp [PageTree.not_contains_fresh])

theorem change (below : g.Below t base) (inside : t.contains base = true) (change : g.Change base later) :
    later.Below t base := by
  cases change with
  | close closed => exact ⟨below.holds, fun p member => below.opened p (closed member), below.others, below.kept⟩
  | create named proper => exact below.create inside _
  | @enter e named tag =>
    have made := below.create inside (.element e)
    exact ⟨made.holds, List.forall_mem_cons.mpr ⟨⟨below.not_contains_fresh, (contains_create _ _).mpr (.inr rfl)⟩,
      made.opened⟩, made.others, made.kept⟩

theorem becomes (below : g.Below t base) (inside : t.contains base = true) (becomes : g.Becomes base later) :
    later.Below t base := by
  induction becomes with
  | refl => exact below
  | tail _ change ih => exact ih.change inside change

end Growth.Below

/-- Inserting markup below a node, with or without an error, leaves the children of the other nodes, and the
node keeps its own in front of the new ones. -/
theorem children_insert {t : PageTree} {base : NodeId} (inside : t.contains base = true) (html : String) :
    (∀ m, t.contains m = true → m ≠ base → (insert t base html).1.children m = t.children m) ∧
      t.children base <+: (insert t base html).1.children base := by
  obtain ⟨_, becomes⟩ := becomes_insert t base html
  have below := (Growth.Below.start t base).becomes inside becomes
  exact ⟨below.others, below.kept⟩

/-- What a successful insertion tells of are the children that come behind the old ones. -/
theorem eq_of_insert_ok {t : PageTree} {base : NodeId} {html : String} {added created : List NodeId}
    (kept : (insert t base html).1.children base = t.children base ++ added)
    (made : (insert t base html).2 = .ok created) : created = added := by
  unfold insert at made kept
  simp only [] at made kept
  split at made
  · simp at made
  · rename_i right
    simp only [right] at kept
    rw [← Except.ok.inj made, kept, List.drop_left]

/-- If no new children are told of, then there are none. -/
theorem children_insert_of_empty {t : PageTree} {base : NodeId} (inside : t.contains base = true)
    {html : String} {created : List NodeId} (made : (insert t base html).2 = .ok created)
    (none : created.isEmpty = true) : (insert t base html).1.children base = t.children base := by
  obtain ⟨added, kept⟩ := (children_insert inside html).2
  obtain rfl := eq_of_insert_ok kept.symm made
  rw [← kept, List.isEmpty_iff.mp none, List.append_nil]

end Markup

end CosmeticRules
