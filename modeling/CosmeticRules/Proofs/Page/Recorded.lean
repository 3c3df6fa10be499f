import CosmeticRules.Engine.Throttle
import CosmeticRules.Proofs.Page.Built

/-!
The records that the steps of scripts leave: elements stay elements, and a style attribute is only written
with a record that tells of it.
-/

namespace CosmeticRules

namespace Page

/-- A change of a page with the records that it adds. -/
structure Recorded (page later : Page) (records : List Mutation) : Prop where
  mutations : later.mutations = page.mutations ++ records
  contains : ∀ m, page.tree.contains m = true → later.tree.contains m = true
  isElement : ∀ m, page.tree.contains m = true → later.tree.isElement m = page.tree.isElement m
  style : ∀ m, page.tree.contains m = true →
    later.tree.attribute? m "style" = page.tree.attribute? m "style" ∨
      ⟨m, .attribute "style"⟩ ∈ records

/-- A change with its records, among which is no change of a style attribute unless it may write one. -/
def Told (page later : Page) (writesStyle : Bool) : Prop :=
  ∃ records, Recorded page later records ∧
    (writesStyle = false → ∀ record ∈ records, record.isStyleChange = false)

variable {page later : Page} {n parent child : NodeId} {writesStyle : Bool}

theorem told_of_stillHolds (records : List Mutation) (holds : page.tree.StillHolds later.tree)
    (added : later.mutations = page.mutations ++ records)
    (children : ∀ record ∈ records, record.kind = .childList) : Told page later writesStyle := by
  refine ⟨records, ⟨added, holds.contains, ?_, ?_⟩, ?_⟩
  · intro m inside
    rw [PageTree.isElement, PageTree.element?_congr (holds.content? m inside), PageTree.isElement]
  · intro m inside
    left
    rw [PageTree.attribute?, PageTree.element?_congr (holds.content? m inside), PageTree.attribute?]
  · intro _ record member
    simp [Mutation.isStyleChange, children record member]

/-- Changes of what is not in the tree are not recorded. -/
theorem told_of_tree_eq (tree : later.tree = page.tree) (same : later.mutations = page.mutations) :
    Told page later writesStyle := by
  refine told_of_stillHolds [] ?_ (by simpa using same) (by simp)
  rw [tree]
  exact .refl _

theorem mutations_recordMove (page : Page) (old : Option NodeId) (parent : NodeId) :
    ∃ records, (page.recordMove old parent).mutations = page.mutations ++ records ∧
      ∀ record ∈ records, record.kind = .childList := by
  unfold recordMove recordChildren record
  split
  · split
    · exact ⟨_, rfl, by simp⟩
    · exact ⟨_, List.append_assoc _ _ _, by simp⟩
  · exact ⟨_, rfl, by simp⟩

theorem told_recordMove {tree : PageTree} (holds : page.tree.StillHolds tree) (old : Option NodeId)
    (parent : NodeId) : Told page ({ page with tree }.recordMove old parent) writesStyle := by
  obtain ⟨records, added, children⟩ := mutations_recordMove { page with tree } old parent
  refine told_of_stillHolds _ ?_ added children
  rw [tree_recordMove]
  exact holds

theorem told_recordChildren {tree : PageTree} (holds : page.tree.StillHolds tree) (parent : NodeId) :
    Told page ({ page with tree }.recordChildren parent) writesStyle :=
  told_of_stillHolds _ holds rfl (by simp)

/-- Trees with the same nodes that hold the same. -/
theorem stillHolds_of_eq {t later : PageTree} (contains : ∀ m, later.contains m = t.contains m)
    (content? : ∀ m, later.content? m = t.content? m) : t.StillHolds later :=
  ⟨fun m inside => (contains m).trans inside, fun m _ => content? m⟩

theorem stillHolds_detach (t : PageTree) (n : NodeId) : t.StillHolds (t.detach n) :=
  stillHolds_of_eq (fun _ => PageTree.contains_detach) fun _ => PageTree.content?_detach

theorem told_removeElement (page : Page) (n : NodeId) :
    Told page (page.removeElement n).1 writesStyle := by
  unfold removeElement
  split
  · exact told_recordChildren (stillHolds_detach _ n) _
  · exact told_of_tree_eq rfl rfl

theorem told_moveBefore (page : Page) (parent child reference : NodeId) :
    Told page (page.moveBefore parent child reference).1 writesStyle := by
  have moved : page.tree.StillHolds (page.tree.moveBefore parent child reference) := by
    rw [PageTree.moveBefore_eq]
    exact stillHolds_of_eq (fun _ => by simp) fun _ => by simp
  unfold moveBefore
  split
  · exact told_of_tree_eq rfl rfl
  · split
    · exact told_of_tree_eq rfl rfl
    · split
      · exact told_recordChildren (.refl _) _
      · split
        · exact told_recordMove moved _ _
        · exact told_of_stillHolds [] (stillHolds_detach _ child) (by simp) (by simp)

theorem stillHolds_replaceChildren (t : PageTree) (n : NodeId) (text : String) :
    t.StillHolds (t.replaceChildren n text) := by
  have cleared : t.StillHolds (t.clearChildren n) :=
    stillHolds_of_eq (fun _ => PageTree.contains_clearChildren) fun _ => PageTree.content?_clearChildren
  unfold PageTree.replaceChildren
  simp only []
  split
  · exact cleared
  · exact cleared.trans (.create _ _ _)

theorem told_appendHtml (page : Page) (parent : NodeId) (html : String) :
    Told page (page.appendHtml parent html).1 writesStyle := by
  have grown := (Markup.grown_insert page.tree parent html).toStillHolds
  unfold appendHtml
  split
  · exact told_of_tree_eq rfl rfl
  · split <;> rename_i same <;> rw [same] at grown
    · exact told_of_stillHolds [] grown (by simp) (by simp)
    · simp only []
      split
      · exact told_of_stillHolds [] grown (by simp) (by simp)
      · exact told_recordChildren grown _

/-- A change of one attribute of an element, with its record. -/
theorem told_modifyElement (name : String) {f : Element → Element}
    (others : ∀ e other, name ≠ other → (f e).attribute? other = Element.attribute? e other) :
    Told page ({ page with tree := page.tree.modifyElement n f }.record n (.attribute name))
      (name == "style") := by
  refine ⟨[⟨n, .attribute name⟩], ⟨rfl, ?_, ?_, ?_⟩, ?_⟩
  · intro m inside
    exact PageTree.contains_modifyNode.trans inside
  · intro m _
    show (page.tree.modifyElement n f).isElement m = page.tree.isElement m
    rw [PageTree.isElement, PageTree.element?_modifyElement, PageTree.isElement]
    split
    · rename_i same
      rw [same, Option.isSome_map]
    · rfl
  · intro m _
    by_cases here : m = n ∧ name = "style"
    · right
      rw [here.1, here.2]
      exact List.mem_cons_self
    · left
      show (page.tree.modifyElement n f).attribute? m "style" = page.tree.attribute? m "style"
      have lower : lowerName "style" = "style" := by decide
      rw [PageTree.attribute?, PageTree.element?_modifyElement, PageTree.attribute?, lower]
      split
      · rename_i same
        rw [same]
        cases page.tree.element? n with
        | none => rfl
        | some e => exact others e "style" fun is => here ⟨same, is⟩
      · rfl
  · intro quiet record member
    rw [List.mem_singleton.mp member]
    simpa [Mutation.isStyleChange] using quiet

theorem Edits.told (edits : page.Edits later writesStyle) : Told page later writesStyle := by
  cases edits with
  | created tag =>
    have made : page.tree.StillHolds (page.tree.createElement none tag []).1 := .create _ _ _
    exact told_of_stillHolds [] made (List.append_nil _).symm (by simp)
  | movedLast passed =>
    exact told_recordMove (stillHolds_of_eq (fun _ => PageTree.contains_moveLast)
      fun _ => PageTree.content?_moveLast) _ _
  | movedBefore parent child reference => exact told_moveBefore page parent child reference
  | removed n => exact told_removeElement page n
  | rewritten n keeps others tells => exact told_modifyElement _ others
  | refilled element text => exact told_recordChildren (stillHolds_replaceChildren _ _ text) _
  | untouched tree mutations => exact told_of_tree_eq tree mutations

theorem Alters.told (alters : page.Alters later writesStyle) : Told page later writesStyle := by
  cases alters with
  | appended parent html => exact told_appendHtml page parent html
  | edited edits => exact edits.told

/-- Every step of a script is told by the records that it adds. -/
theorem told_script (page : Page) (step : ScriptStep) : Told page (page.script step) step.writesStyle :=
  (alters_script page step).told

end Page

end CosmeticRules
