import CosmeticRules.Proofs.Page.Alteration
import CosmeticRules.Proofs.Page.Loading

/-!
The pages that scripts make of a page that has been read. Their trees are well formed, and a step that is
refused changes nothing.
-/

namespace CosmeticRules.Page

variable {page later : Page} {n parent child reference : NodeId}

@[simp] theorem tree_recordMove (page : Page) (old : Option NodeId) (parent : NodeId) :
    (page.recordMove old parent).tree = page.tree := by
  unfold recordMove
  split
  · split <;> rfl
  · rfl

theorem orSame_of_refused {ε : Type} {changed : Except ε Page} (refused : (!changed.isOk) = true) :
    page.orSame changed = page := by
  cases changed with
  | ok later => exact absurd refused Bool.false_ne_true
  | error e => rfl

/-! What each step needs, and the tree that it makes. -/

/-- A node passes the check exactly if it can be put there. -/
theorem canMove_of_checkInsertion (wf : page.tree.WellFormed) {operation : String}
    (passed : page.checkInsertion parent child operation = .ok ()) : page.tree.CanMove parent child := by
  unfold checkInsertion at passed
  simp only [] at passed
  split at passed
  · simp at passed
  · rename_i holds
    split at passed
    · simp at passed
    · rename_i valid
      split at passed
      · simp at passed
      · rename_i outside
        simp only [Bool.or_eq_true, Bool.not_eq_true', not_or, Bool.not_eq_false, beq_iff_eq] at holds valid
        exact ⟨valid.2, holds.2, valid.1.1, valid.1.2, fun below => outside (wf.isDescendantOf_iff.mpr below)⟩

/-- Taking a node out does not take out the place before another child. -/
theorem mem_children_detach (wf : page.tree.WellFormed) (is : page.tree.parent? reference = some parent)
    (other : child ≠ reference) : reference ∈ (page.tree.detach child).children parent := by
  rw [wf.children_detach]
  exact List.mem_filter.mpr ⟨(wf.mem_children parent reference).mpr is, by simpa using other.symm⟩

theorem wellFormed_moveBefore (wf : page.tree.WellFormed) :
    (page.moveBefore parent child reference).1.tree.WellFormed := by
  unfold moveBefore
  split
  · exact wf
  · rename_i passed
    split
    · exact wf
    · split
      · exact wf
      · split
        · rename_i there
          rw [tree_recordMove]
          exact wf.moveBefore (canMove_of_checkInsertion wf passed) (List.contains_iff_mem.mp there)
        · exact wf.detach child

/-- A move that is refused leaves the page as it was: the place cannot have gone with the node. -/
theorem moveBefore_of_refused (wf : page.tree.WellFormed)
    (refused : (!(page.moveBefore parent child reference).2.isOk) = true) :
    (page.moveBefore parent child reference).1 = page := by
  unfold moveBefore at refused ⊢
  split at refused
  · rfl
  · split at refused
    · rename_i elsewhere
      rw [if_pos elsewhere]
    · rename_i child?
      have is : page.tree.parent? reference = some parent := by simpa using child?
      split at refused
      · exact absurd refused Bool.false_ne_true
      · rename_i other
        have there := List.contains_iff_mem.mpr (mem_children_detach wf is other)
        rw [if_pos there] at refused
        exact absurd refused Bool.false_ne_true

theorem wellFormed_removeElement (wf : page.tree.WellFormed) (n : NodeId) :
    (page.removeElement n).1.tree.WellFormed := by
  unfold removeElement
  split
  · exact wf.detach n
  · exact wf

theorem wellFormed_appendHtml (wf : page.tree.WellFormed) (html : String) :
    (page.appendHtml parent html).1.tree.WellFormed := by
  unfold appendHtml
  split
  · exact wf
  · rename_i holds
    simp only [Bool.or_eq_true, Bool.not_eq_true', not_or, Bool.not_eq_false] at holds
    have grown := Markup.wellFormed_insert wf holds.2 html
    split <;> rename_i same <;> rw [same] at grown
    · exact grown
    · simp only []
      split <;> exact grown

theorem wellFormed_createElement (wf : page.tree.WellFormed) (tag : String) :
    (page.createElement tag).1.tree.WellFormed := by
  have named : (NodeContent.element ⟨lowerName tag, []⟩).WellNamed := by
    intro e is
    exact NodeContent.element.inj is ▸ ⟨by simp, by simp⟩
  exact wf.createLoose named

theorem Edits.wellFormed {styles : Bool} (edits : page.Edits later styles) (wf : page.tree.WellFormed) :
    later.tree.WellFormed := by
  cases edits with
  | created tag => exact wellFormed_createElement wf tag
  | movedLast passed =>
    rw [tree_recordMove]
    exact wf.moveLast (canMove_of_checkInsertion wf passed)
  | movedBefore parent child reference => exact wellFormed_moveBefore wf
  | removed n => exact wellFormed_removeElement wf n
  | rewritten n keeps others tells => exact wf.modifyElement keeps
  | refilled element text => exact wf.replaceChildren (PageTree.canHaveChildren_of_isElement element) text
  | untouched tree mutations => exact tree ▸ wf

theorem Alters.wellFormed {styles : Bool} (alters : page.Alters later styles) (wf : page.tree.WellFormed) :
    later.tree.WellFormed := by
  cases alters with
  | appended parent html => exact wellFormed_appendHtml wf html
  | edited edits => exact edits.wellFormed wf

/-- Whether a page refuses a step. -/
def refuses (page : Page) : ScriptStep → Bool
  | .appendHtml parent html => !(page.appendHtml parent html).2.isOk
  | .appendChild parent child => !(page.appendChild parent child).isOk
  | .insertBefore parent child reference => !(page.moveBefore parent child reference).2.isOk
  | .removeNode n => !(page.removeNode n).isOk
  | .setAttribute n name value => !(page.setAttribute n name value).isOk
  | .removeAttribute n name => !(page.removeAttribute n name).isOk
  | .setStyleText n text => !(page.setStyleText n text).isOk
  | .setText n text => !(page.setText n text).isOk
  | .setProperty n name value => !(page.setProperty n name value).isOk
  | .addStyleRule selector pseudoElement declarations =>
    !(page.addStyleRule selector pseudoElement declarations).isOk
  | .createElement _ | .removeElement _ | .writeStyle _ _ | .setStyleProperty _ _ _ _
  | .overrideText _ _ | .inputEvent _ | .setReady _ => false

theorem script_of_refused (wf : page.tree.WellFormed) {step : ScriptStep}
    (other : step.addsMarkup = false) (refused : page.refuses step = true) : page.script step = page := by
  cases step with
  | appendHtml => exact absurd other.symm Bool.false_ne_true
  | insertBefore parent child reference => exact moveBefore_of_refused wf refused
  | appendChild | removeNode | setAttribute | removeAttribute | setStyleText | setText | setProperty
  | addStyleRule => exact orSame_of_refused refused
  | createElement | removeElement | writeStyle | setStyleProperty | overrideText | inputEvent
  | setReady => exact absurd refused Bool.false_ne_true

/-- The pages that steps of scripts, time and the delivery of changes make of a page that has been read. -/
inductive Built : Page → Prop
  | read {html : String} {page : Page} (is : ofHtml html = .ok page) : Built page
  | step {page : Page} (built : Built page) (step : ScriptStep) : Built (page.script step)
  | advance {page : Page} (built : Built page) (milliseconds : Nat) : Built (page.advance milliseconds)
  | taken {page : Page} (built : Built page) : Built page.takeMutations.1

theorem Built.wellFormed (built : Built page) : page.tree.WellFormed := by
  induction built with
  | read is => exact (whole_ofHtml is).1.wellFormed
  | step _ step ih => exact (alters_script _ step).wellFormed ih
  | advance _ _ ih => exact ih
  | taken _ ih => exact ih

/-- The tree of every page is well formed. Every node of a page that has just been read is connected, and the
page has a body. And every step that is refused leaves the page with its waiting changes as it was, unless it
adds markup. -/
theorem page_sound :
    (∀ page, Built page → page.tree.WellFormed) ∧
      (∀ html page, ofHtml html = .ok page →
        (∀ n, page.tree.contains n = true → page.tree.isConnected n = true) ∧
          page.tree.body?.isSome = true) ∧
      ∀ page step, Built page → page.refuses step = true → step.addsMarkup = false →
        page.script step = page := by
  refine ⟨fun page built => built.wellFormed, ?_, ?_⟩
  · intro html page read
    obtain ⟨whole, body⟩ := whole_ofHtml read
    exact ⟨fun n inside => whole.isConnected inside, body⟩
  · intro page step built refused other
    exact script_of_refused built.wellFormed other refused

theorem ofHtml_ofMarkup {html : String} (right : (ofHtml html).isOk = true) :
    ofHtml html = .ok (ofMarkup html) := by
  unfold ofMarkup
  split
  · assumption
  · rename_i e wrong
    rw [wrong] at right
    exact absurd right Bool.false_ne_true

/-- A list with one item, after a script has moved its paragraph before the item and has removed that. -/
def moved : Page :=
  ((ofMarkup "<ul><li>one</li></ul><p ID=a>two</p>").script (.insertBefore ⟨1⟩ ⟨4⟩ ⟨2⟩)).script
    (.removeElement ⟨2⟩)

/-- The item is no child of the list any more, so nothing can be put before it. -/
theorem page_sound_moved :
    (ofHtml "<ul><li>one</li></ul><p ID=a>two</p>").isOk = true ∧ moved.tree.WellFormed ∧
      moved.tree.children ⟨1⟩ = [⟨4⟩] ∧ (ofMarkup "<ul><li>one</li></ul><p ID=a>two</p>").tree.body?.isSome ∧
      moved.refuses (.insertBefore ⟨1⟩ ⟨4⟩ ⟨2⟩) = true ∧
      moved.script (.insertBefore ⟨1⟩ ⟨4⟩ ⟨2⟩) = moved := by
  have right : (ofHtml "<ul><li>one</li></ul><p ID=a>two</p>").isOk = true := by decide +kernel
  have refused : moved.refuses (.insertBefore ⟨1⟩ ⟨4⟩ ⟨2⟩) = true := by decide +kernel
  have built : Built moved := ((Built.read (ofHtml_ofMarkup right)).step _).step _
  obtain ⟨sound, whole, same⟩ := page_sound
  exact ⟨right, sound _ built, by decide +kernel, (whole _ _ (ofHtml_ofMarkup right)).2, refused,
    same _ _ built refused rfl⟩

end CosmeticRules.Page
