import CosmeticRules.Proofs.Page.Built
import CosmeticRules.Proofs.Page.DocumentOrder

/-!
No change of a page makes another document, so the root is the only document of every page.
-/

namespace CosmeticRules

namespace PageTree

/-- Every document of the later tree was one before. -/
def OldDocuments (t later : PageTree) : Prop :=
  ∀ m, later.content? m = some .document → t.content? m = some .document

namespace OldDocuments

variable {t between later : PageTree} {n parent child reference : NodeId}

theorem of_eq (same : ∀ m, later.content? m = t.content? m) : t.OldDocuments later :=
  fun m is => (same m).symm.trans is

theorem refl (t : PageTree) : t.OldDocuments t := fun _ is => is

theorem trans (first : t.OldDocuments between) (second : between.OldDocuments later) : t.OldDocuments later :=
  fun m is => first m (second m is)

theorem create (place : Option NodeId) {content : NodeContent} (other : content ≠ .document) :
    t.OldDocuments (t.create place content).1 := by
  intro m is
  rw [content?_create] at is
  split at is
  · exact absurd (Option.some.inj is) other
  · exact is

theorem detach : t.OldDocuments (t.detach n) := .of_eq fun _ => content?_detach

theorem moveLast : t.OldDocuments (t.moveLast parent child) := .of_eq fun _ => content?_moveLast

theorem moveBefore : t.OldDocuments (t.moveBefore parent child reference) := by
  rw [moveBefore_eq]
  exact .of_eq fun _ => by simp

theorem replaceChildren (text : String) : t.OldDocuments (t.replaceChildren n text) := by
  have cleared : t.OldDocuments (t.clearChildren n) := .of_eq fun _ => content?_clearChildren
  unfold PageTree.replaceChildren
  simp only []
  split
  · exact cleared
  · exact cleared.trans (.create _ NodeContent.noConfusion)

theorem modifyElement (f : Element → Element) : t.OldDocuments (t.modifyElement n f) := by
  intro m is
  rw [content?_modifyElement] at is
  split at is
  · rename_i same
    obtain ⟨content, was, mapped⟩ := Option.map_eq_some_iff.mp is
    cases content with
    | document => exact same ▸ was
    | element e => exact NodeContent.noConfusion mapped
    | text text => exact NodeContent.noConfusion mapped
    | comment text => exact NodeContent.noConfusion mapped
  · exact is

theorem foldl {α : Type} {change : PageTree → α → PageTree} (each : ∀ t a, OldDocuments t (change t a))
    (items : List α) (t : PageTree) : t.OldDocuments (items.foldl change t) := by
  induction items generalizing t with
  | nil => exact .refl t
  | cons a rest ih => exact (each t a).trans (ih _)

theorem createElement (place : Option NodeId) (tag : String) (attributes : List Attribute) :
    t.OldDocuments (t.createElement place tag attributes).1 := .create place NodeContent.noConfusion

theorem wrap (tag : String) (loose : List NodeId) : t.OldDocuments (t.wrap parent tag loose).1 := by
  refine (createElement (some parent) tag []).trans ?_
  exact foldl (fun _ _ => .moveLast) loose _

theorem ensureHtml : t.OldDocuments t.ensureHtml.1 := by
  rw [ensureHtml_eq]
  simp only []
  split
  · split
    · exact .refl t
    · exact wrap _ _
  · exact wrap _ _

theorem ensureBody : t.OldDocuments t.ensureBody := by
  rw [ensureBody_eq]
  split
  · exact .refl t
  · exact ensureHtml.trans (wrap _ _)

theorem insert (base : NodeId) (html : String) : t.OldDocuments (Markup.insert t base html).1 := by
  have kept : ∀ {g later : Markup.Growth}, g.Becomes base later → g.tree.OldDocuments later.tree := by
    intro g later becomes
    induction becomes with
    | refl => exact .refl _
    | tail _ change ih =>
      cases change with
      | close closed => exact ih
      | create named proper => exact ih.trans (.create _ proper)
      | enter named tag => exact ih.trans (.create _ NodeContent.noConfusion)
  obtain ⟨_, becomes⟩ := Markup.becomes_insert t base html
  exact kept becomes

end OldDocuments

end PageTree

namespace Page

open PageTree

variable {page later : Page}

theorem oldDocuments_removeElement (page : Page) (n : NodeId) :
    page.tree.OldDocuments (page.removeElement n).1.tree := by
  unfold removeElement
  split
  · exact .detach
  · exact .refl _

theorem oldDocuments_moveBefore (page : Page) (parent child reference : NodeId) :
    page.tree.OldDocuments (page.moveBefore parent child reference).1.tree := by
  unfold moveBefore
  split
  · exact .refl _
  · split
    · exact .refl _
    · split
      · exact .refl _
      · split
        · rw [tree_recordMove]
          exact .moveBefore
        · exact .detach

theorem oldDocuments_appendHtml (page : Page) (parent : NodeId) (html : String) :
    page.tree.OldDocuments (page.appendHtml parent html).1.tree := by
  have grown := OldDocuments.insert (t := page.tree) parent html
  unfold appendHtml
  split
  · exact .refl _
  · split <;> rename_i same <;> rw [same] at grown
    · exact grown
    · simp only []
      split <;> exact grown

theorem Edits.oldDocuments {styles : Bool} (edits : page.Edits later styles) :
    page.tree.OldDocuments later.tree := by
  cases edits with
  | created tag => exact .createElement none tag []
  | movedLast passed =>
    rw [tree_recordMove]
    exact .moveLast
  | movedBefore parent child reference => exact oldDocuments_moveBefore page parent child reference
  | removed n => exact oldDocuments_removeElement page n
  | rewritten n keeps others tells => exact .modifyElement _
  | refilled element text => exact .replaceChildren text
  | untouched tree mutations =>
    rw [tree]
    exact .refl _

theorem Alters.oldDocuments {styles : Bool} (alters : page.Alters later styles) :
    page.tree.OldDocuments later.tree := by
  cases alters with
  | appended parent html => exact oldDocuments_appendHtml page parent html
  | edited edits => exact edits.oldDocuments

theorem oldDocuments_ofHtml {html : String} (read : ofHtml html = .ok page) :
    PageTree.empty.OldDocuments page.tree := by
  have grown := OldDocuments.insert (t := PageTree.empty) PageTree.root html
  unfold ofHtml at read
  split at read
  · rename_i tree created same
    rw [same] at grown
    obtain rfl := Except.ok.inj read
    exact grown.trans .ensureBody
  · simp at read

/-- The root is the only document of a page. -/
theorem Built.isDocument (built : Built page) : page.tree.IsDocument where
  wellFormed := built.wellFormed
  only_root := by
    have old : PageTree.empty.OldDocuments page.tree := by
      induction built with
      | read is => exact oldDocuments_ofHtml is
      | step _ step ih => exact ih.trans (alters_script _ step).oldDocuments
      | advance _ _ ih => exact ih
      | taken _ ih => exact ih
    intro n is
    -- A document of the page is one of the empty tree, which has the root only.
    have root := old n is
    rw [content?, node?_empty] at root
    split at root
    · assumption
    · simp at root

end Page

end CosmeticRules
