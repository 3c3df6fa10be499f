import CosmeticRules.Proofs.Markup.Growth
import CosmeticRules.Proofs.Page.Built

/-!
Markup that is added below a node stays below it, also where its tags do not match and where it ends in an
error: all that was there is kept, and the node gets its new children after the old ones.
-/

namespace CosmeticRules

namespace PageTree

/-- Nodes have been added below a node, and nothing else has changed. The listed ones are its new children. -/
structure GrownBelow (t later : PageTree) (base : NodeId) (added : List NodeId) : Prop
    extends StillHolds t later where
  parent? : ∀ m, t.contains m = true → later.parent? m = t.parent? m
  others : ∀ m, t.contains m = true → m ≠ base → later.children m = t.children m
  kept : later.children base = t.children base ++ added
  new : ∀ m ∈ added, t.contains m = false
  below : ∀ m, later.contains m = true → t.contains m = false → later.isDescendantOf m base = true

theorem isBelow_create {t : PageTree} {n m : NodeId} (place : Option NodeId) (content : NodeContent)
    (below : t.IsBelow n m) : (t.create place content).1.IsBelow n m := by
  have parents : ∀ a b, t.HasParent a b → (t.create place content).1.HasParent a b := by
    intro a b step
    have old : a ≠ t.fresh := ne_fresh (contains_of_parent? step)
    exact (parent?_create place content).trans ((if_neg old).trans step)
  exact Relation.TransGen.mono parents n m below

/-- A well-formed tree lists no node twice among the children of a node, so the nodes that come behind the old
children cannot be old ones. -/
theorem WellFormed.not_contains_of_added {t later : PageTree} {base m : NodeId} {added : List NodeId}
    (wf : t.WellFormed) (grown : later.WellFormed)
    (parents : ∀ m, t.contains m = true → later.parent? m = t.parent? m)
    (kept : later.children base = t.children base ++ added) (member : m ∈ added) :
    t.contains m = false := by
  by_contra old
  have listed : m ∈ later.children base := kept ▸ List.mem_append_right _ member
  have is : t.parent? m = some base := by
    rw [← parents m (by simpa using old)]
    exact (grown.mem_children base m).mp listed
  have twice := grown.nodup_children base
  rw [kept] at twice
  exact (List.nodup_append.mp twice).2.2 m ((wf.mem_children base m).mpr is) m member rfl

end PageTree

namespace Markup

open PageTree

/-- The nodes that were there before keep their parents, and all new ones are below the base. -/
structure Growth.Confined (t : PageTree) (base : NodeId) (g : Growth) : Prop extends g.Below t base where
  parents : ∀ m, t.contains m = true → g.tree.parent? m = t.parent? m
  new : ∀ m, g.tree.contains m = true → t.contains m = false → g.tree.IsBelow m base

namespace Growth.Confined

variable {t : PageTree} {base : NodeId} {g later : Growth}

theorem start (t : PageTree) (base : NodeId) : Growth.Confined t base { tree := t } where
  toBelow := .start t base
  parents := fun _ _ => rfl
  new := fun m known fresh => absurd known (by simp [fresh])

/-- Where the next piece goes is the base or below it. -/
theorem isWithin_place (confined : g.Confined t base) (inside : t.contains base = true) :
    g.tree.IsWithin (g.place base) base := by
  obtain ⟨there, fresh⟩ := confined.contains_place inside
  by_cases same : g.place base = base
  · rw [same]
    exact .refl
  · exact (confined.new _ there (fresh same)).to_reflTransGen

/-- A new node at the place where the next piece goes. -/
theorem create (confined : g.Confined t base) (inside : t.contains base = true) (content : NodeContent) :
    Growth.Confined t base { g with tree := (g.tree.create (some (g.place base)) content).1 } where
  toBelow := confined.toBelow.create inside content
  parents := by
    intro m known
    have old : m ≠ g.tree.fresh := ne_fresh (confined.holds.contains m known)
    rw [parent?_create, if_neg old, confined.parents m known]
  new := by
    intro m known fresh
    rcases (contains_create _ _).mp known with earlier | rfl
    · exact isBelow_create _ _ (confined.new m earlier fresh)
    · have first : (g.tree.create (some (g.place base)) content).1.HasParent g.tree.fresh (g.place base) :=
        (parent?_create _ _).trans (if_pos rfl)
      rcases Relation.reflTransGen_iff_eq_or_transGen.mp (confined.isWithin_place inside) with same | below
      · exact .single (same ▸ first)
      · exact .head first (isBelow_create _ _ below)

theorem change (confined : g.Confined t base) (inside : t.contains base = true) (change : g.Change base later) :
    later.Confined t base := by
  have below := confined.toBelow.change inside change
  cases change with
  | close closed => exact ⟨below, confined.parents, confined.new⟩
  | create named proper => exact confined.create inside _
  | @enter e named tag =>
    have made := confined.create inside (.element e)
    exact ⟨below, made.parents, made.new⟩

theorem becomes (confined : g.Confined t base) (inside : t.contains base = true)
    (becomes : g.Becomes base later) : later.Confined t base := by
  induction becomes with
  | refl => exact confined
  | tail _ change ih => exact ih.change inside change

end Growth.Confined

/-- Markup stays below the node where it is inserted. All other nodes are as before, what is new is below that
node, and a successful insertion tells of its new children, which come behind the old ones. -/
theorem insert_confined {t : PageTree} {base : NodeId} (wf : t.WellFormed)
    (holds : t.canHaveChildren base = true) (html : String) :
    ∃ added, GrownBelow t (insert t base html).1 base added ∧
      ∀ created, (insert t base html).2 = .ok created → created = added := by
  have inside := contains_of_canHaveChildren holds
  have grown := wellFormed_insert wf holds html
  obtain ⟨_, becomes⟩ := becomes_insert t base html
  have confined := (Growth.Confined.start t base).becomes inside becomes
  obtain ⟨added, kept⟩ := confined.kept
  refine ⟨added, ?_, fun created made => eq_of_insert_ok kept.symm made⟩
  exact {
    toStillHolds := confined.holds
    parent? := confined.parents
    others := confined.others
    kept := kept.symm
    new := fun m member => wf.not_contains_of_added grown confined.parents kept.symm member
    below := fun m known fresh => grown.isDescendantOf_iff.mpr (confined.new m known fresh) }

/-- A list with an item. -/
def listWithItem : Page := .ofMarkup "<ul><li></li></ul>"

/-- End tags that match nothing, items that nothing ends, and a division in a paragraph: the list gets two items,
and nothing gets out of it. A comment without an end is an error, but what stands before it stays. -/
theorem insert_confined_unmatched :
    listWithItem.tree.WellFormed ∧ listWithItem.tree.canHaveChildren ⟨1⟩ = true ∧
      (insert listWithItem.tree ⟨1⟩ "</ul></body><li>one<li><p>two<div></p>").2 = .ok [⟨5⟩, ⟨7⟩] ∧
      GrownBelow listWithItem.tree (insert listWithItem.tree ⟨1⟩ "</ul></body><li>one<li><p>two<div></p>").1
        ⟨1⟩ [⟨5⟩, ⟨7⟩] ∧
      (insert listWithItem.tree ⟨1⟩ "</ul></body><li>one<li><p>two<div></p><!--").2 = .error .unclosedComment ∧
      GrownBelow listWithItem.tree (insert listWithItem.tree ⟨1⟩ "</ul></body><li>one<li><p>two<div></p><!--").1
        ⟨1⟩ [⟨5⟩, ⟨7⟩] := by
  have right : (Page.ofHtml "<ul><li></li></ul>").isOk = true := by decide +kernel
  have wf : listWithItem.tree.WellFormed := (Page.Built.read (Page.ofHtml_ofMarkup right)).wellFormed
  have holds : listWithItem.tree.canHaveChildren ⟨1⟩ = true := by decide +kernel
  have made : (insert listWithItem.tree ⟨1⟩ "</ul></body><li>one<li><p>two<div></p>").2 = .ok [⟨5⟩, ⟨7⟩] := by
    decide +kernel
  obtain ⟨added, grown, told⟩ := insert_confined wf holds "</ul></body><li>one<li><p>two<div></p>"
  obtain ⟨kept, before, _⟩ := insert_confined wf holds "</ul></body><li>one<li><p>two<div></p><!--"
  have old : listWithItem.tree.children ⟨1⟩ = [⟨2⟩] := by decide +kernel
  have listed : (insert listWithItem.tree ⟨1⟩ "</ul></body><li>one<li><p>two<div></p><!--").1.children ⟨1⟩ =
      [⟨2⟩, ⟨5⟩, ⟨7⟩] := by decide +kernel
  have same : [⟨2⟩] ++ [⟨5⟩, ⟨7⟩] = [⟨2⟩] ++ kept := listed.symm.trans (old ▸ before.kept)
  obtain rfl := told _ made
  obtain rfl : [⟨5⟩, ⟨7⟩] = kept := List.append_cancel_left same
  exact ⟨wf, holds, made, grown, by decide +kernel, before⟩

end Markup

end CosmeticRules
