import CosmeticRules.Proofs.Engine.Visit
import CosmeticRules.Proofs.Page.Declared
import CosmeticRules.Proofs.Page.Edits

/-!
How far a visit reaches in a page: it takes nodes out, and writes the style of one element.
-/

namespace CosmeticRules

namespace PageTree

/-- A tree in which nodes may have been taken out of their parents, and only some elements may hold something
else. -/
structure Confined (P : NodeId → Prop) (t later : PageTree) : Prop where
  contains : ∀ m, later.contains m = t.contains m
  isElement : ∀ m, later.isElement m = t.isElement m
  element? : ∀ m, ¬P m → later.element? m = t.element? m

namespace Confined

variable {P Q : NodeId → Prop} {t between later : PageTree}

theorem refl (P : NodeId → Prop) (t : PageTree) : Confined P t t :=
  ⟨fun _ => rfl, fun _ => rfl, fun _ _ => rfl⟩

theorem trans (first : Confined P t between) (second : Confined P between later) : Confined P t later where
  contains := fun m => (second.contains m).trans (first.contains m)
  isElement := fun m => (second.isElement m).trans (first.isElement m)
  element? := fun m outside => (second.element? m outside).trans (first.element? m outside)

theorem mono (confined : Confined P t later) (weaker : ∀ m, P m → Q m) : Confined Q t later :=
  ⟨confined.contains, confined.isElement, fun m outside =>
    confined.element? m fun holds => outside (weaker m holds)⟩

theorem detach (P : NodeId → Prop) (t : PageTree) (n : NodeId) : Confined P t (t.detach n) where
  contains := fun _ => contains_detach
  isElement := fun m => by rw [PageTree.isElement, element?_detach, PageTree.isElement]
  element? := fun m _ => element?_detach t n m

end Confined

theorem SameShape.confined {t later : PageTree} {n : NodeId} (same : SameShape t later)
    (others : ∀ m, m ≠ n → later.element? m = t.element? m) : Confined (· = n) t later where
  contains := fun m => by rw [contains, contains, same.size]
  isElement := same.isElement
  element? := others

end PageTree

open PageTree (Confined)

namespace Page

theorem confined_writeStyle (page : Page) (n : NodeId) (text : String) :
    Confined (· = n) page.tree (page.writeStyle n text).tree :=
  (sameShape_writeStyle page n text).confined fun m other => element?_writeStyle_of_ne page n m text other

theorem confined_applyStyle (page : Page) (n : NodeId) (style : Style) :
    Confined (· = n) page.tree (page.applyStyle n style).tree :=
  applyStyle_induction (P := fun later => Confined (· = n) page.tree later.tree)
    (fun confined text => confined.trans (confined_writeStyle _ n text)) (.refl _ _) style

theorem confined_applyStyles (page : Page) (n : NodeId) (styles : List Style) :
    Confined (· = n) page.tree (styles.foldl (·.applyStyle n) page).tree :=
  applyStyles_induction (P := fun later => Confined (· = n) page.tree later.tree)
    (fun confined text => confined.trans (confined_writeStyle _ n text)) (.refl _ _) styles

end Page

namespace Engine

variable {σ : Type}

theorem confined_removeAffected (P : NodeId → Prop) (engine : Engine σ) (n : NodeId) :
    Confined P engine.page.tree (engine.removeAffected n).page.tree := by
  unfold removeAffected
  simp only []
  split
  · exact .refl _ _
  · split
    · unfold Page.removeElement
      simp only []
      split
      · exact .detach _ _ n
      · exact .refl _ _
    · exact .refl _ _

theorem confined_applyRules (engine : Engine σ) (n target : NodeId) (rules : List Rule) :
    Confined (· = target) engine.page.tree (engine.applyRules n target rules).1.page.tree := by
  induction rules generalizing engine with
  | nil => exact .refl _ _
  | cons rule rest ih =>
    unfold applyRules
    split
    · rename_i style _
      split
      · exact confined_removeAffected _ engine n
      · have styled := ih { engine with page := engine.page.applyStyle target style }
        exact (engine.page.confined_applyStyle target style).trans styled
    · split
      · exact .refl _ _
      · exact ih engine

/-- A visit writes to one element, which is the visited one if there is no hook. -/
theorem confined_visit (engine : Engine σ) (rule : Rule) (n : NodeId) :
    ∃ target, Confined (· = target) engine.page.tree (engine.visit rule n).1.page.tree ∧
      (engine.hook = none → target = n) := by
  unfold visit styleAffected
  split
  · exact ⟨n, .refl _ _, fun _ => rfl⟩
  · rename_i a _
    split
    · exact ⟨n, .refl _ _, fun _ => rfl⟩
    · obtain ⟨hookState, called⟩ := callHook_fields
        { engine with affected := Affected.touch n rule (engine.page.styleText n) engine.affected }
        ⟨n, a.rules⟩
      split <;> rename_i same
      · have page := congrArg (·.1.page) same
        rw [called] at page
        exact ⟨n, page ▸ .refl _ _, fun _ => rfl⟩
      · rename_i target
        have page := congrArg (·.1.page) same
        rw [called] at page
        -- The hook may have put another element in place of the visited one.
        refine ⟨target.node, page ▸ confined_applyRules _ n target.node target.rules, ?_⟩
        intro hookless
        unfold callHook at same
        simp only [hookless, Prod.mk.injEq, Option.some.injEq] at same
        exact congrArg StyleTarget.node same.2.symm

theorem confined_visit_of_hookless {engine : Engine σ} (hookless : engine.hook = none) (rule : Rule)
    (n : NodeId) : Confined (· = n) engine.page.tree (engine.visit rule n).1.page.tree := by
  obtain ⟨target, confined, same⟩ := confined_visit engine rule n
  exact same hookless ▸ confined

theorem isElement_visit (engine : Engine σ) (rule : Rule) (n m : NodeId) :
    (engine.visit rule n).1.page.tree.isElement m = engine.page.tree.isElement m := by
  obtain ⟨_, confined, _⟩ := confined_visit engine rule n
  exact confined.isElement m

end Engine

end CosmeticRules
