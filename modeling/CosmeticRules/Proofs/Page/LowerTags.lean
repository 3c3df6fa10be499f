import CosmeticRules.Proofs.Page.Built

/-!
The tags of a page are in lower case: those of markup and of new elements are lowered when they are made, and no step
of a script changes the tag of an element.
-/

namespace CosmeticRules

namespace PageTree

/-- The tags of all elements are in lower case. -/
def LowerTags (t : PageTree) : Prop := ∀ n e, t.element? n = some e → lowerName e.tag = e.tag

namespace LowerTags

variable {t later : PageTree} (lower : t.LowerTags)

include lower

theorem of_content? (same : ∀ m, later.content? m = t.content? m) : later.LowerTags :=
  fun n e is => lower n e ((element?_congr (same n)).symm.trans is)

theorem create {content : NodeContent} (named : ∀ e, content = .element e → lowerName e.tag = e.tag)
    (place : Option NodeId) : (t.create place content).1.LowerTags := by
  intro n e is
  rw [element?_eq_some_iff, content?_create] at is
  split at is
  · exact named e (Option.some.inj is)
  · exact lower n e (element?_eq_some_iff.mpr is)

theorem createElement (place : Option NodeId) (tag : String) (attributes : List Attribute) :
    (t.createElement place tag attributes).1.LowerTags := by
  refine lower.create (fun e is => ?_) place
  obtain rfl := NodeContent.element.inj is
  exact lowerName_lowerName tag

theorem modifyElement {f : Element → Element} (keeps : ∀ e : Element, (f e).tag = e.tag) (n : NodeId) :
    (t.modifyElement n f).LowerTags := by
  intro m e is
  rw [element?_modifyElement] at is
  split at is
  · obtain ⟨old, was, rfl⟩ := Option.map_eq_some_iff.mp is
    rw [keeps, lower n old was]
  · exact lower m e is

theorem detach (n : NodeId) : (t.detach n).LowerTags := lower.of_content? fun _ => content?_detach

theorem moveLast (parent child : NodeId) : (t.moveLast parent child).LowerTags :=
  lower.of_content? fun _ => content?_moveLast

theorem moveBefore (parent child reference : NodeId) : (t.moveBefore parent child reference).LowerTags := by
  rw [moveBefore_eq]
  exact (lower.detach child).of_content? fun _ => content?_attach

theorem replaceChildren (n : NodeId) (text : String) : (t.replaceChildren n text).LowerTags := by
  have cleared : (t.clearChildren n).LowerTags := lower.of_content? fun _ => content?_clearChildren
  unfold PageTree.replaceChildren
  simp only []
  split
  · exact cleared
  · exact cleared.create (fun _ is => NodeContent.noConfusion is) (some n)

theorem wrap (parent : NodeId) (tag : String) (loose : List NodeId) : (t.wrap parent tag loose).1.LowerTags := by
  have moved : ∀ (target : NodeId) (nodes : List NodeId) (t : PageTree), t.LowerTags →
      (nodes.foldl (fun t child => t.moveLast target child) t).LowerTags := by
    intro target nodes
    induction nodes with
    | nil => exact fun _ lower => lower
    | cons first rest ih => exact fun _ lower => ih _ (lower.moveLast target first)
  exact moved _ loose _ (lower.createElement (some parent) tag [])

theorem ensureBody : t.ensureBody.LowerTags := by
  have html : t.ensureHtml.1.LowerTags := by
    rw [ensureHtml_eq]
    simp only []
    split
    · split
      · exact lower
      · exact lower.wrap _ _ _
    · exact lower.wrap _ _ _
  rw [ensureBody_eq]
  split
  · exact lower
  · exact html.wrap _ _ _

end LowerTags

end PageTree

namespace Markup

open PageTree

theorem lowerTags_add (base : NodeId) {g : Growth} (lower : g.tree.LowerTags) (piece : Piece) :
    (g.add base piece).tree.LowerTags := by
  cases piece with
  | text | comment => exact lower.create (fun _ is => NodeContent.noConfusion is) _
  | endTag => exact lower
  | startTag tag attributes selfClosing =>
    unfold Growth.add
    simp only []
    split <;> exact lower.createElement _ _ _
  | rawElement tag attributes body =>
    unfold Growth.add
    simp only []
    split
    · exact lower.createElement _ _ _
    · exact (lower.createElement _ _ _).create (fun _ is => NodeContent.noConfusion is) _

theorem lowerTags_insert {t : PageTree} (lower : t.LowerTags) (base : NodeId) (html : String) :
    (insert t base html).1.LowerTags := by
  have grown : ∀ (found : List Piece) (g : Growth), g.tree.LowerTags →
      (found.foldl (Growth.add base) g).tree.LowerTags := by
    intro found
    induction found with
    | nil => exact fun _ lower => lower
    | cons piece rest ih => exact fun _ lower => ih _ (lowerTags_add base lower piece)
  unfold insert
  simp only []
  split <;> exact grown _ { tree := t } lower

end Markup

namespace Page

variable {page : Page}

theorem lowerTags_ofHtml {html : String} (read : ofHtml html = .ok page) : page.tree.LowerTags := by
  have empty : PageTree.empty.LowerTags := by
    intro n e is
    rw [PageTree.element?, PageTree.content?, PageTree.node?_empty] at is
    split at is <;> simp_all
  have inserted := Markup.lowerTags_insert empty PageTree.root html
  unfold ofHtml at read
  split at read
  · rename_i tree created same
    rw [same] at inserted
    obtain rfl := Except.ok.inj read
    exact inserted.ensureBody
  · simp at read

theorem lowerTags_writeStyle (lower : page.tree.LowerTags) (n : NodeId) (text : String) :
    (page.writeStyle n text).tree.LowerTags := by
  unfold writeStyle
  split
  · exact lower.modifyElement (f := (·.setAttribute "style" text)) (fun _ => rfl) n
  · exact lower

theorem lowerTags_removeElement (lower : page.tree.LowerTags) (n : NodeId) :
    (page.removeElement n).1.tree.LowerTags := by
  unfold removeElement
  split
  · exact lower.detach n
  · exact lower

theorem lowerTags_moveBefore (lower : page.tree.LowerTags) (parent child reference : NodeId) :
    (page.moveBefore parent child reference).1.tree.LowerTags := by
  unfold moveBefore
  split
  · exact lower
  · split
    · exact lower
    · split
      · exact lower
      · split
        · rw [tree_recordMove]
          exact lower.moveBefore parent child reference
        · exact lower.detach child

theorem lowerTags_orSame {ε : Type} {changed : Except ε Page} (lower : page.tree.LowerTags)
    (after : ∀ later, changed = .ok later → later.tree.LowerTags) : (page.orSame changed).tree.LowerTags :=
  orSame_of (P := fun page => page.tree.LowerTags) lower after

theorem lowerTags_script (lower : page.tree.LowerTags) (step : ScriptStep) : (page.script step).tree.LowerTags := by
  cases step with
  | appendHtml parent html =>
    have inserted := Markup.lowerTags_insert lower parent html
    show (page.appendHtml parent html).1.tree.LowerTags
    unfold appendHtml
    split
    · exact lower
    · split <;> rename_i same <;> rw [same] at inserted
      · exact inserted
      · simp only []
        split <;> exact inserted
  | createElement tag => exact lower.createElement none tag []
  | appendChild parent child =>
    refine lowerTags_orSame lower fun later moved => ?_
    obtain ⟨_, _, moved⟩ := exists_of_bind_eq_ok moved
    obtain rfl := Except.ok.inj moved
    rw [tree_recordMove]
    exact lower.moveLast parent child
  | insertBefore parent child reference => exact lowerTags_moveBefore lower parent child reference
  | removeNode n =>
    refine lowerTags_orSame lower fun later removed => ?_
    unfold removeNode at removed
    split at removed
    · simp at removed
    · exact Except.ok.inj removed ▸ lowerTags_removeElement lower n
  | removeElement n => exact lowerTags_removeElement lower n
  | setAttribute n name value =>
    refine lowerTags_orSame lower fun later set => ?_
    obtain ⟨_, rfl⟩ := eq_of_ensureElement set
    exact lower.modifyElement (f := (·.setAttribute name value)) (fun _ => rfl) n
  | removeAttribute n name =>
    refine lowerTags_orSame lower fun later removed => ?_
    unfold removeAttribute at removed
    split at removed
    · obtain ⟨_, rfl⟩ := eq_of_ensureElement removed
      exact lower
    · obtain ⟨_, rfl⟩ := eq_of_ensureElement removed
      exact lower.modifyElement (f := (·.removeAttribute name)) (fun _ => rfl) n
  | setStyleText n text =>
    refine lowerTags_orSame lower fun later set => ?_
    obtain ⟨_, rfl⟩ := eq_of_ensureElement set
    exact lowerTags_writeStyle lower n text
  | writeStyle n text => exact lowerTags_writeStyle lower n text
  | setStyleProperty n property value isImportant =>
    show (page.setStyleProperty n property value isImportant).tree.LowerTags
    unfold setStyleProperty
    split
    · exact lowerTags_writeStyle lower n _
    · exact lower
  | setText n text =>
    refine lowerTags_orSame lower fun later set => ?_
    obtain ⟨_, rfl⟩ := eq_of_ensureElement set
    exact lower.replaceChildren n text
  | setProperty n name value =>
    refine lowerTags_orSame lower fun later set => ?_
    obtain ⟨_, rfl⟩ := eq_of_ensureElement set
    exact lower
  | addStyleRule selector pseudoElement declarations =>
    refine lowerTags_orSame lower fun later added => ?_
    obtain ⟨_, _, added⟩ := exists_of_bind_eq_ok added
    obtain rfl := Except.ok.inj added
    exact lower
  | overrideText | inputEvent | setReady => exact lower

/-- The tags of every page are in lower case. -/
theorem Built.lowerTags (built : Built page) : page.tree.LowerTags := by
  induction built with
  | read is => exact lowerTags_ofHtml is
  | step _ step ih => exact lowerTags_script ih step
  | advance _ _ ih => exact ih
  | taken _ ih => exact ih

end Page

end CosmeticRules
