import CosmeticRules.Proofs.Page.Recorded

/-!
The records of a step are complete: whatever the step changes in a node that was there before, one of its
records tells. Only markup with an error changes a page without a record.
-/

namespace CosmeticRules

namespace PageTree

variable {t : PageTree} {n m parent child : NodeId}

/-- A move changes the children of the former and of the new parent only. -/
theorem WellFormed.children_move (wf : t.WellFormed) (inside : t.contains parent = true)
    (place : List NodeId → List NodeId) (other : m ≠ parent) (old : t.parent? child ≠ some m) :
    ((t.detach child).attach parent child place).children m = t.children m := by
  rw [children_attach (by simpa using inside), if_neg other, wf.children_detach]
  refine List.filter_eq_self.mpr fun c member => ?_
  have kept : c ≠ child := by
    rintro rfl
    exact old ((wf.mem_children m c).mp member)
  simpa using kept

theorem children_replaceChildren (inside : t.contains n = true) (text : String) (other : m ≠ n) :
    (t.replaceChildren n text).children m = t.children m := by
  have cleared : (t.clearChildren n).children m = t.children m := by
    unfold clearChildren
    rw [children_modifyNode_children (f := fun _ => []) ((foldl_release_fields _ t).1.trans inside),
      if_neg other, (foldl_release_fields _ t).2.2]
  unfold replaceChildren
  simp only []
  split
  · exact cleared
  · rw [children_create _ (contains_clearChildren.trans inside), if_neg other, cleared]

theorem children_create_none (content : NodeContent) : (t.create none content).1.children m = t.children m :=
  children_push _ rfl

end PageTree

namespace Page

variable {page later : Page} {n parent child : NodeId} {writesStyle : Bool}

/-- A change of a page with the records that it adds. For every node that was there before, they tell of new
children, and they name the attribute that has changed. -/
structure FullyRecorded (page later : Page) (records : List Mutation) : Prop where
  mutations : later.mutations = page.mutations ++ records
  children : ∀ m, page.tree.contains m = true →
    later.tree.children m = page.tree.children m ∨ ⟨m, .childList⟩ ∈ records
  element : ∀ m, page.tree.contains m = true →
    later.tree.element? m = page.tree.element? m ∨
      ∃ name, ⟨m, .attribute name⟩ ∈ records ∧ ∀ other,
        (later.tree.element? m).bind (·.attribute? other) ≠
          (page.tree.element? m).bind (·.attribute? other) ↔ other = name

theorem fullyRecorded_of_stillHolds {records : List Mutation} (holds : page.tree.StillHolds later.tree)
    (added : later.mutations = page.mutations ++ records)
    (children : ∀ m, page.tree.contains m = true →
      later.tree.children m = page.tree.children m ∨ ⟨m, .childList⟩ ∈ records) :
    FullyRecorded page later records :=
  ⟨added, children, fun m inside => Or.inl (PageTree.element?_congr (holds.content? m inside))⟩

theorem fullyRecorded_of_tree_eq (tree : later.tree = page.tree) (same : later.mutations = page.mutations) :
    FullyRecorded page later [] := by
  refine fullyRecorded_of_stillHolds (tree ▸ .refl _) (by simpa using same) fun m _ => Or.inl ?_
  rw [tree]

/-- The record for one parent is enough if its children alone have changed. -/
theorem fullyRecorded_recordChildren {tree : PageTree} (holds : page.tree.StillHolds tree)
    (others : ∀ m, page.tree.contains m = true → m ≠ parent → tree.children m = page.tree.children m) :
    FullyRecorded page ({ page with tree }.recordChildren parent) [⟨parent, .childList⟩] := by
  refine fullyRecorded_of_stillHolds holds rfl fun m inside => ?_
  by_cases here : m = parent
  · exact Or.inr (here ▸ List.mem_cons_self)
  · exact Or.inl (others m inside here)

/-- A move is recorded for the new parent and for the former one. -/
theorem mem_records_recordMove (page : Page) (old : Option NodeId) (parent : NodeId) :
    ∃ records, (page.recordMove old parent).mutations = page.mutations ++ records ∧
      ⟨parent, .childList⟩ ∈ records ∧ ∀ former ∈ old, ⟨former, .childList⟩ ∈ records := by
  unfold recordMove recordChildren record
  split
  · split
    · rename_i former same
      exact ⟨_, rfl, by simp, by simp [same]⟩
    · exact ⟨_, List.append_assoc _ _ _, by simp, by simp⟩
  · exact ⟨_, rfl, by simp, by simp⟩

theorem fullyRecorded_move (wf : page.tree.WellFormed) (can : page.tree.CanMove parent child)
    (place : List NodeId → List NodeId) :
    ∃ records, FullyRecorded page ({ page with tree := (page.tree.detach child).attach parent child place
      }.recordMove (page.tree.parent? child) parent) records := by
  obtain ⟨records, added, new, former⟩ := mem_records_recordMove
    { page with tree := (page.tree.detach child).attach parent child place } (page.tree.parent? child) parent
  refine ⟨records, fullyRecorded_of_stillHolds ?_ added fun m inside => ?_⟩
  · rw [tree_recordMove]
    exact stillHolds_of_eq (fun _ => by simp) fun _ => by simp
  · rw [tree_recordMove]
    by_cases here : m = parent
    · exact Or.inr (here ▸ new)
    · by_cases old : page.tree.parent? child = some m
      · exact Or.inr (former m old)
      · exact Or.inl (wf.children_move (PageTree.contains_of_canHaveChildren can.holds) place here old)

theorem fullyRecorded_removeElement (wf : page.tree.WellFormed) (n : NodeId) :
    ∃ records, FullyRecorded page (page.removeElement n).1 records := by
  unfold removeElement
  split
  · rename_i parent is
    refine ⟨_, fullyRecorded_recordChildren (stillHolds_detach _ n) fun m _ other => ?_⟩
    rw [wf.children_detach]
    refine List.filter_eq_self.mpr fun c member => ?_
    have kept : c ≠ n := by
      rintro rfl
      exact other (Option.some.inj (((wf.mem_children m c).mp member).symm.trans is))
    simpa using kept
  · exact ⟨[], fullyRecorded_of_tree_eq rfl rfl⟩

theorem fullyRecorded_moveBefore (wf : page.tree.WellFormed) (parent child reference : NodeId) :
    ∃ records, FullyRecorded page (page.moveBefore parent child reference).1 records := by
  have unchanged : ∃ records, FullyRecorded page page records := ⟨[], fullyRecorded_of_tree_eq rfl rfl⟩
  unfold moveBefore
  split
  · exact unchanged
  · rename_i passed
    split
    · exact unchanged
    · rename_i child?
      split
      · exact ⟨_, fullyRecorded_recordChildren (.refl _) fun _ _ _ => rfl⟩
      · rename_i other
        -- The place is still there, so the node never stays out without a record.
        have is : page.tree.parent? reference = some parent := by simpa using child?
        rw [if_pos (List.contains_iff_mem.mpr (mem_children_detach wf is other)), PageTree.moveBefore_eq]
        exact fullyRecorded_move wf (canMove_of_checkInsertion wf passed) _

/-- A change of one attribute of an element is recorded with the name of the attribute. -/
theorem fullyRecorded_modifyElement (page : Page) (n : NodeId) {name : String} {f : Element → Element}
    (others : ∀ e other, name ≠ other → (f e).attribute? other = Element.attribute? e other)
    (tells : ∀ e, (f e).attribute? name = Element.attribute? e name → f e = e) :
    FullyRecorded page ({ page with tree := page.tree.modifyElement n f }.record n (.attribute name))
      [⟨n, .attribute name⟩] where
  mutations := rfl
  children := fun m _ => Or.inl (PageTree.children_modifyElement page.tree n m f)
  element := by
    intro m _
    show (page.tree.modifyElement n f).element? m = page.tree.element? m ∨ ∃ other,
      ⟨m, .attribute other⟩ ∈ [(⟨n, .attribute name⟩ : Mutation)] ∧ ∀ third,
        ((page.tree.modifyElement n f).element? m).bind (·.attribute? third) ≠
          (page.tree.element? m).bind (·.attribute? third) ↔ third = other
    rw [PageTree.element?_modifyElement]
    split
    · rename_i here
      subst here
      cases is : page.tree.element? m with
      | none => exact Or.inl rfl
      | some e =>
        by_cases same : f e = e
        · exact Or.inl (congrArg some same)
        · refine Or.inr ⟨name, List.mem_cons_self, fun third => ⟨?_, ?_⟩⟩
          · intro differs
            by_contra other
            exact differs (others e third (Ne.symm other))
          · rintro rfl
            exact fun equal => same (tells e equal)
    · exact Or.inl rfl

theorem Edits.fullyRecorded (edits : page.Edits later writesStyle) (wf : page.tree.WellFormed) :
    ∃ records, FullyRecorded page later records := by
  cases edits with
  | created tag =>
    have made : page.tree.StillHolds (page.tree.createElement none tag []).1 := .create _ _ _
    have lists : ∀ m, (page.tree.createElement none tag []).1.children m = page.tree.children m :=
      fun _ => PageTree.children_create_none _
    exact ⟨[], fullyRecorded_of_stillHolds made (List.append_nil _).symm fun m _ => Or.inl (lists m)⟩
  | movedLast passed =>
    rw [PageTree.moveLast_eq]
    exact fullyRecorded_move wf (canMove_of_checkInsertion wf passed) _
  | movedBefore parent child reference => exact fullyRecorded_moveBefore wf parent child reference
  | removed n => exact fullyRecorded_removeElement wf n
  | rewritten n keeps others tells => exact ⟨_, fullyRecorded_modifyElement page n others tells⟩
  | refilled element text =>
    exact ⟨_, fullyRecorded_recordChildren (stillHolds_replaceChildren _ _ text) fun m _ other =>
      PageTree.children_replaceChildren (PageTree.contains_of_isElement element) text other⟩
  | untouched tree mutations => exact ⟨[], fullyRecorded_of_tree_eq tree mutations⟩

/-- Whether a step adds markup in which an error is found. -/
def stopsInMarkup (page : Page) : ScriptStep → Bool
  | .appendHtml parent html =>
    match (page.appendHtml parent html).2 with
    | .error (.markup _) => true
    | _ => false
  | _ => false

/-! How adding markup can end. -/

theorem appendHtml_of_not_canHaveChildren {html : String}
    (closed : ¬(page.tree.contains parent = true ∧ page.tree.canHaveChildren parent = true)) :
    page.appendHtml parent html = (page, .error (.page (.cannotHaveChildren "appendHTML"))) := by
  have refused : (!page.tree.contains parent || !page.tree.canHaveChildren parent) = true := by
    simpa [Decidable.or_iff_not_imp_left] using closed
  unfold appendHtml
  rw [if_pos refused]

section read

variable {html : String} {tree : PageTree} (inside : page.tree.contains parent = true)
  (holds : page.tree.canHaveChildren parent = true)

include inside holds

theorem appendHtml_of_error {e : Markup.Error}
    (read : Markup.insert page.tree parent html = (tree, .error e)) :
    page.appendHtml parent html = ({ page with tree }, .error (.markup e)) := by
  simp [appendHtml, inside, holds, read]

theorem appendHtml_of_ok {created : List NodeId}
    (read : Markup.insert page.tree parent html = (tree, .ok created)) :
    page.appendHtml parent html =
      (if created.isEmpty then { page with tree } else { page with tree }.recordChildren parent, .ok created) := by
  simp [appendHtml, inside, holds, read]

end read

/-- Markup without an error is recorded if it gives the node a child. -/
theorem fullyRecorded_appendHtml {html : String}
    (right : page.stopsInMarkup (.appendHtml parent html) = false) :
    ∃ records, FullyRecorded page (page.appendHtml parent html).1 records := by
  by_cases open? : page.tree.contains parent = true ∧ page.tree.canHaveChildren parent = true
  · obtain ⟨inside, holds⟩ := open?
    have grown := (Markup.grown_insert page.tree parent html).toStillHolds
    obtain ⟨others, -⟩ := Markup.children_insert inside html
    rcases read : Markup.insert page.tree parent html with ⟨tree, e | created⟩
    · simp [stopsInMarkup, appendHtml_of_error inside holds read] at right
    · have new := Markup.children_insert_of_empty inside (congrArg Prod.snd read)
      rw [appendHtml_of_ok inside holds read]
      rw [read] at grown others new
      simp only []
      split
      · rename_i none
        refine ⟨[], fullyRecorded_of_stillHolds grown (List.append_nil _).symm fun m there => Or.inl ?_⟩
        by_cases here : m = parent
        · exact here ▸ new none
        · exact others m there here
      · exact ⟨_, fullyRecorded_recordChildren grown others⟩
  · rw [appendHtml_of_not_canHaveChildren open?]
    exact ⟨[], fullyRecorded_of_tree_eq rfl rfl⟩

/-- Markup with an error: the node may have new children behind its own, nothing else that was there has
changed, and nothing is recorded. -/
theorem appendHtml_of_stopsInMarkup {html : String}
    (stops : page.stopsInMarkup (.appendHtml parent html) = true) :
    (page.appendHtml parent html).1.mutations = page.mutations ∧
      (∀ m, page.tree.contains m = true →
        (page.appendHtml parent html).1.tree.element? m = page.tree.element? m ∧
          (m ≠ parent → (page.appendHtml parent html).1.tree.children m = page.tree.children m)) ∧
      page.tree.children parent <+: (page.appendHtml parent html).1.tree.children parent := by
  by_cases open? : page.tree.contains parent = true ∧ page.tree.canHaveChildren parent = true
  · obtain ⟨inside, holds⟩ := open?
    have grown := (Markup.grown_insert page.tree parent html).toStillHolds
    obtain ⟨others, kept⟩ := Markup.children_insert inside html
    rcases read : Markup.insert page.tree parent html with ⟨tree, e | created⟩
    · rw [appendHtml_of_error inside holds read]
      rw [read] at grown others kept
      exact ⟨rfl, fun m there => ⟨PageTree.element?_congr (grown.content? m there), others m there⟩, kept⟩
    · simp [stopsInMarkup, appendHtml_of_ok inside holds read] at stops
  · simp [stopsInMarkup, appendHtml_of_not_canHaveChildren open?] at stops

/-- Every change that a step of a script makes in the nodes of a page is recorded, whether the step is refused
or not, unless an error is found in markup that the step adds. Then nothing is recorded, and new children of
the node to which the markup is added are all that may have changed. -/
theorem changes_recorded (wf : page.tree.WellFormed) :
    (∀ step, page.stopsInMarkup step = false → ∃ records, FullyRecorded page (page.script step) records) ∧
    ∀ parent html, page.stopsInMarkup (.appendHtml parent html) = true →
      (page.script (.appendHtml parent html)).mutations = page.mutations ∧
        (∀ m, page.tree.contains m = true →
          (page.script (.appendHtml parent html)).tree.element? m = page.tree.element? m ∧
            (m ≠ parent →
              (page.script (.appendHtml parent html)).tree.children m = page.tree.children m)) ∧
        page.tree.children parent <+: (page.script (.appendHtml parent html)).tree.children parent := by
  refine ⟨fun step right => ?_, fun parent html => appendHtml_of_stopsInMarkup⟩
  by_cases adds : step.addsMarkup = true
  · cases step with
    | appendHtml parent html => exact fullyRecorded_appendHtml right
    | _ => exact absurd adds Bool.false_ne_true
  · exact (edits_script page (by simpa using adds)).fullyRecorded wf

/-- A list before a paragraph. -/
def listThenText : Page := ofMarkup "<ul><li>one</li></ul><p>two</p>"

/-- The paragraph goes into the list, which is recorded. A comment that does not end is refused after its
item has been added, which is not. -/
theorem changes_recorded_listThenText :
    listThenText.tree.WellFormed ∧
      (∃ records, FullyRecorded listThenText (listThenText.script (.insertBefore ⟨1⟩ ⟨4⟩ ⟨2⟩)) records) ∧
      (∃ records, FullyRecorded listThenText (listThenText.script (.appendHtml ⟨1⟩ "<li>")) records) ∧
      listThenText.stopsInMarkup (.appendHtml ⟨1⟩ "<li></li><!--") = true ∧
      (listThenText.script (.appendHtml ⟨1⟩ "<li></li><!--")).mutations = listThenText.mutations ∧
      listThenText.tree.children ⟨1⟩ <+:
        (listThenText.script (.appendHtml ⟨1⟩ "<li></li><!--")).tree.children ⟨1⟩ := by
  have right : (ofHtml "<ul><li>one</li></ul><p>two</p>").isOk = true := by decide +kernel
  have stops : listThenText.stopsInMarkup (.appendHtml ⟨1⟩ "<li></li><!--") = true := by decide +kernel
  have accepted : listThenText.stopsInMarkup (.appendHtml ⟨1⟩ "<li>") = false := by decide +kernel
  have wf : listThenText.tree.WellFormed := (Built.read (ofHtml_ofMarkup right)).wellFormed
  obtain ⟨recorded, unrecorded⟩ := changes_recorded wf
  obtain ⟨mutations, -, children⟩ := unrecorded ⟨1⟩ _ stops
  exact ⟨wf, recorded _ rfl, recorded _ accepted, stops, mutations, children⟩

/-- Markup with an error gives an element a child that no record tells of. -/
theorem changes_unrecorded :
    ¬∀ page step, Built page → ∃ records, FullyRecorded page (page.script step) records := by
  intro every
  have right : (ofHtml "<div></div>").isOk = true := by decide +kernel
  obtain ⟨records, full⟩ := every (ofMarkup "<div></div>") (.appendHtml ⟨1⟩ "<p></p><!--")
    (.read (ofHtml_ofMarkup right))
  have nothing : ((ofMarkup "<div></div>").script (.appendHtml ⟨1⟩ "<p></p><!--")).mutations =
      (ofMarkup "<div></div>").mutations := by decide +kernel
  obtain rfl : records = [] := by simpa [nothing] using full.mutations
  have child : ((ofMarkup "<div></div>").script (.appendHtml ⟨1⟩ "<p></p><!--")).tree.children ⟨1⟩ ≠
      (ofMarkup "<div></div>").tree.children ⟨1⟩ := by decide +kernel
  rcases full.children ⟨1⟩ (by decide +kernel) with same | told
  · exact child same
  · exact absurd told List.not_mem_nil

end Page

end CosmeticRules
