import CosmeticRules.Engine.Affected
import CosmeticRules.Proofs.Page.Script

/-!
Pages that differ in the texts that scripts show in place of the real ones: whatever is done to both makes the
same difference, for nothing that changes a page looks at those texts.
-/

namespace CosmeticRules

/-- A case distinction on the same condition before and after a function. -/
theorem ite_eq_apply {α β : Type} (f : α → β) {c : Prop} [Decidable c] {x y : α} {x' y' : β}
    (first : c → x' = f x) (second : ¬c → y' = f y) : (if c then x' else y') = f (if c then x else y) := by
  split
  · exact first ‹_›
  · exact second ‹_›

namespace Page

/-- The page with these texts shown in place of the real ones. -/
def showing (page : Page) (texts : List (NodeId × String)) : Page := { page with textOverrides := texts }

section showing

variable (page : Page) (texts : List (NodeId × String))

@[simp] theorem tree_showing : (page.showing texts).tree = page.tree := rfl

/-! Styles and removals. -/

theorem writeStyle_showing (n : NodeId) (text : String) :
    (page.showing texts).writeStyle n text = (page.writeStyle n text).showing texts :=
  ite_eq_apply (showing · texts) (fun _ => rfl) fun _ => rfl

theorem setStyleProperty_showing (n : NodeId) (property value : String) (isImportant : Bool) :
    (page.showing texts).setStyleProperty n property value isImportant =
      (page.setStyleProperty n property value isImportant).showing texts :=
  ite_eq_apply (showing · texts) (fun _ => writeStyle_showing _ _ _ _) fun _ => rfl

theorem applyDeclaration_showing (n : NodeId) (d : Declaration) :
    (page.showing texts).applyDeclaration n d = (page.applyDeclaration n d).showing texts :=
  ite_eq_apply (showing · texts) (fun _ => rfl) fun _ => setStyleProperty_showing _ _ _ _ _ _

theorem applyStyle_showing (n : NodeId) (style : Style) :
    (page.showing texts).applyStyle n style = (page.applyStyle n style).showing texts :=
  List.foldl_hom (showing · texts) fun page d => applyDeclaration_showing page texts n d

theorem removeElement_showing (n : NodeId) :
    (page.showing texts).removeElement n = (page.removeElement n).map (showing · texts) id := by
  simp only [removeElement, tree_showing]
  split <;> rfl

/-! Steps of scripts. -/

theorem recordMove_showing (old : Option NodeId) (parent : NodeId) :
    (page.showing texts).recordMove old parent = (page.recordMove old parent).showing texts := by
  cases old with
  | none => rfl
  | some old => exact ite_eq_apply (showing · texts) (fun _ => rfl) fun _ => rfl

theorem orSame_showing {ε : Type} {changed changed' : Except ε Page}
    (same : changed' = changed.map (showing · texts)) :
    (page.showing texts).orSame changed' = (page.orSame changed).showing texts := by
  subst same
  cases changed <;> rfl

theorem checkInsertion_showing (parent child : NodeId) (operation : String) :
    (page.showing texts).checkInsertion parent child operation = page.checkInsertion parent child operation :=
  rfl

theorem ensureElement_showing (n : NodeId) (operation : String) :
    (page.showing texts).ensureElement n operation = page.ensureElement n operation := rfl

theorem appendHtml_showing (parent : NodeId) (html : String) :
    (page.showing texts).appendHtml parent html = (page.appendHtml parent html).map (showing · texts) id := by
  refine ite_eq_apply (Prod.map (showing · texts) id) (fun _ => rfl) fun _ => ?_
  rw [tree_showing]
  split
  · rfl
  · exact congrArg (·, _) (ite_eq_apply (showing · texts) (fun _ => rfl) fun _ => rfl)

theorem appendChild_showing (parent child : NodeId) :
    (page.showing texts).appendChild parent child = (page.appendChild parent child).map (showing · texts) := by
  rw [appendChild, appendChild, checkInsertion_showing]
  cases page.checkInsertion parent child "appendChild" with
  | error e => rfl
  | ok _ =>
    have moved := recordMove_showing { page with tree := page.tree.moveLast parent child } texts
      (page.tree.parent? child) parent
    exact congrArg Except.ok moved

theorem moveBefore_showing (parent child reference : NodeId) :
    (page.showing texts).moveBefore parent child reference =
      (page.moveBefore parent child reference).map (showing · texts) id := by
  rw [moveBefore, moveBefore, checkInsertion_showing]
  cases page.checkInsertion parent child "insertBefore" with
  | error e => rfl
  | ok _ =>
    refine ite_eq_apply (Prod.map (showing · texts) id) (fun _ => rfl) fun _ => ?_
    refine ite_eq_apply (Prod.map (showing · texts) id) (fun _ => rfl) fun _ => ?_
    refine ite_eq_apply (Prod.map (showing · texts) id) (fun _ => ?_) fun _ => rfl
    have moved := recordMove_showing { page with tree := page.tree.moveBefore parent child reference } texts
      (page.tree.parent? child) parent
    exact congrArg (·, _) moved

theorem removeAttribute_showing (n : NodeId) (name : String) :
    (page.showing texts).removeAttribute n name = (page.removeAttribute n name).map (showing · texts) := by
  rw [removeAttribute, removeAttribute, ensureElement_showing]
  cases page.ensureElement n "removeAttribute" with
  | error e => rfl
  | ok _ => exact ite_eq_apply (Except.map (showing · texts)) (fun _ => rfl) fun _ => rfl

/-- A step that is not about the shown texts does not depend on them. -/
theorem script_showing (step : ScriptStep) (other : ∀ n text, step ≠ .overrideText n text) :
    (page.showing texts).script step = (page.script step).showing texts := by
  cases step with
  | overrideText n text => exact absurd rfl (other n text)
  | appendHtml parent html => exact congrArg Prod.fst (appendHtml_showing page texts parent html)
  | createElement tag => rfl
  | appendChild parent child => exact orSame_showing page texts (appendChild_showing page texts parent child)
  | insertBefore parent child reference =>
    exact congrArg Prod.fst (moveBefore_showing page texts parent child reference)
  | removeNode n =>
    refine orSame_showing page texts (ite_eq_apply (Except.map (showing · texts)) (fun _ => rfl) fun _ => ?_)
    exact congrArg (fun removed => Except.ok removed.1) (removeElement_showing page texts n)
  | removeElement n => exact congrArg Prod.fst (removeElement_showing page texts n)
  | setAttribute n name value =>
    refine orSame_showing page texts ?_
    rw [setAttribute, setAttribute, ensureElement_showing]
    cases page.ensureElement n "setAttribute" <;> rfl
  | removeAttribute n name => exact orSame_showing page texts (removeAttribute_showing page texts n name)
  | setStyleText n text =>
    refine orSame_showing page texts ?_
    rw [setStyleText, setStyleText, ensureElement_showing]
    cases page.ensureElement n "style" with
    | error e => rfl
    | ok _ => exact congrArg Except.ok (writeStyle_showing page texts n text)
  | writeStyle n text => exact writeStyle_showing _ _ _ _
  | setStyleProperty n property value isImportant => exact setStyleProperty_showing _ _ _ _ _ _
  | setText n text =>
    refine orSame_showing page texts ?_
    rw [setText, setText, ensureElement_showing]
    cases page.ensureElement n "textContent" <;> rfl
  | setProperty n name value =>
    refine orSame_showing page texts ?_
    rw [setProperty, setProperty, ensureElement_showing]
    cases page.ensureElement n "property" <;> rfl
  | addStyleRule selector pseudoElement declarations =>
    refine orSame_showing page texts ?_
    rw [addStyleRule, addStyleRule]
    cases Css.read selector <;> rfl
  | inputEvent type => rfl
  | setReady ready => rfl

end showing

/-- Of two pages that differ at most in the texts that are shown, each is the other with its own texts shown. -/
theorem eq_showing {page other : Page} (alike : page.showing [] = other.showing []) :
    other = page.showing other.textOverrides :=
  (congrArg (showing · other.textOverrides) alike).symm

end Page

end CosmeticRules
