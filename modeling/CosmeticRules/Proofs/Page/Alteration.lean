import CosmeticRules.Log
import CosmeticRules.Proofs.Page.Edits
import CosmeticRules.Proofs.Page.Frame
import CosmeticRules.Proofs.Page.Script

/-!
What one step of a script can do to a page, whichever step it is.
-/

namespace CosmeticRules.Page

variable {page later : Page}

/-- What is true of a page and of what a change that succeeds makes of it is true of the page after a change
that may be refused. -/
theorem orSame_of {ε : Type} {P : Page → Prop} {changed : Except ε Page} (before : P page)
    (after : ∀ later, changed = .ok later → P later) : P (page.orSame changed) := by
  unfold orSame
  split
  · rename_i later
    exact after later rfl
  · exact before

theorem isElement_of_ensureElement {n : NodeId} {operation : String}
    (passed : page.ensureElement n operation = .ok ()) : page.tree.isElement n = true := by
  unfold ensureElement at passed
  split at passed
  · assumption
  · simp at passed

/-- Changes that only elements take, and that are made when the check is passed. -/
theorem eq_of_ensureElement {n : NodeId} {operation : String} {change : Page}
    (made : (do page.ensureElement n operation; return change) = .ok later) :
    page.tree.isElement n = true ∧ change = later := by
  obtain ⟨_, passed, made⟩ := exists_of_bind_eq_ok made
  exact ⟨isElement_of_ensureElement passed, Except.ok.inj made⟩

/-- A page and what a change that adds no markup makes of it; the flag tells whether the change may write a
style attribute. -/
inductive Edits (page : Page) : Page → Bool → Prop
  | created {styles : Bool} (tag : String) : Edits page (page.createElement tag).1 styles
  | movedLast {styles : Bool} {parent child : NodeId} {operation : String}
      (passed : page.checkInsertion parent child operation = .ok ()) :
      Edits page ({ page with tree := page.tree.moveLast parent child }.recordMove (page.tree.parent? child)
        parent) styles
  | movedBefore {styles : Bool} (parent child reference : NodeId) :
      Edits page (page.moveBefore parent child reference).1 styles
  | removed {styles : Bool} (n : NodeId) : Edits page (page.removeElement n).1 styles
  | rewritten (n : NodeId) {name : String} {f : Element → Element}
      (keeps : ∀ e : Element, e.WellNamed → (f e).WellNamed)
      (others : ∀ (e : Element) (other : String), name ≠ other → (f e).attribute? other = e.attribute? other)
      (tells : ∀ e : Element, (f e).attribute? name = e.attribute? name → f e = e) :
      Edits page ({ page with tree := page.tree.modifyElement n f }.record n (.attribute name)) (name == "style")
  | refilled {n : NodeId} {styles : Bool} (element : page.tree.isElement n = true) (text : String) :
      Edits page ({ page with tree := page.tree.replaceChildren n text }.recordChildren n) styles
  | untouched {later : Page} {styles : Bool} (tree : later.tree = page.tree)
      (mutations : later.mutations = page.mutations) : Edits page later styles

/-- A page and what one change makes of it. -/
inductive Alters (page : Page) : Page → Bool → Prop
  | appended {styles : Bool} (parent : NodeId) (html : String) : Alters page (page.appendHtml parent html).1 styles
  | edited {later : Page} {styles : Bool} (edits : page.Edits later styles) : Alters page later styles

end Page

/-! An element whose value of an attribute stays as it was stays as it was. -/

theorem Element.setAttribute_eq_self {e : Element} {name value : String}
    (same : (e.setAttribute name value).attribute? (lowerName name) = e.attribute? (lowerName name)) :
    e.setAttribute name value = e := by
  rw [attribute?_setAttribute, if_pos rfl] at same
  unfold Element.attribute? at same
  unfold Element.setAttribute
  obtain ⟨tag, attributes⟩ := e
  refine congrArg (Element.mk tag) ?_
  simp only at same
  induction attributes with
  | nil => simp at same
  | cons a rest ih =>
    by_cases here : a.name = lowerName name
    · rw [List.find?_cons_of_pos (by simpa using here), Option.map_some, Option.some.injEq] at same
      rw [Attribute.put, if_pos here, same, ← here]
    · rw [List.find?_cons_of_neg (by simpa using here)] at same
      rw [Attribute.put, if_neg here, ih same]

theorem Element.removeAttribute_eq_self {e : Element} {name : String}
    (same : (e.removeAttribute name).attribute? (lowerName name) = e.attribute? (lowerName name)) :
    e.removeAttribute name = e := by
  rw [attribute?_removeAttribute, if_pos rfl] at same
  have none := List.find?_eq_none.mp (Option.map_eq_none_iff.mp same.symm)
  unfold Element.removeAttribute
  rw [List.filter_eq_self.mpr]
  intro a member
  simpa using none a member

namespace Page

variable {page later : Page}

theorem edits_setAttribute (page : Page) (n : NodeId) (name value : String) :
    page.Edits ({ page with tree := page.tree.modifyElement n (·.setAttribute name value) }.record n
      (.attribute (lowerName name))) (lowerName name == "style") :=
  .rewritten n (fun _ named => named.setAttribute name value)
    (fun e other different => (e.attribute?_setAttribute name value other).trans (if_neg different))
    fun _ same => Element.setAttribute_eq_self same

theorem edits_writeStyle (page : Page) (n : NodeId) (text : String) :
    page.Edits (page.writeStyle n text) true := by
  unfold writeStyle
  split
  · exact edits_setAttribute page n "style" text
  · exact .untouched rfl rfl

theorem edits_orSame {ε : Type} {changed : Except ε Page} {styles : Bool}
    (after : ∀ later, changed = .ok later → page.Edits later styles) : page.Edits (page.orSame changed) styles :=
  orSame_of (P := fun later => page.Edits later styles) (.untouched rfl rfl) after

/-- Every step of a script that adds no markup is one of the changes. -/
theorem edits_script (page : Page) {step : ScriptStep} (other : step.addsMarkup = false) :
    page.Edits (page.script step) step.writesStyle := by
  cases step with
  | appendHtml parent html => exact absurd other.symm Bool.false_ne_true
  | createElement tag => exact .created tag
  | appendChild parent child =>
    refine edits_orSame fun later moved => ?_
    obtain ⟨_, passed, moved⟩ := exists_of_bind_eq_ok moved
    obtain rfl := Except.ok.inj moved
    exact .movedLast passed
  | insertBefore parent child reference => exact .movedBefore parent child reference
  | removeNode n =>
    refine edits_orSame fun later removed => ?_
    unfold removeNode at removed
    split at removed
    · simp at removed
    · obtain rfl := Except.ok.inj removed
      exact .removed n
  | removeElement n => exact .removed n
  | setAttribute n name value =>
    refine edits_orSame fun later set => ?_
    obtain ⟨_, rfl⟩ := eq_of_ensureElement set
    exact edits_setAttribute page n name value
  | removeAttribute n name =>
    refine edits_orSame fun later removed => ?_
    unfold removeAttribute at removed
    split at removed
    · obtain ⟨_, rfl⟩ := eq_of_ensureElement removed
      exact .untouched rfl rfl
    · obtain ⟨_, rfl⟩ := eq_of_ensureElement removed
      refine .rewritten n (fun _ named => named.removeAttribute name) (fun e other different => ?_)
        fun _ same => Element.removeAttribute_eq_self same
      exact (e.attribute?_removeAttribute name other).trans (if_neg different)
  | setStyleText n text =>
    refine edits_orSame fun later set => ?_
    obtain ⟨_, rfl⟩ := eq_of_ensureElement set
    exact edits_writeStyle page n text
  | writeStyle n text => exact edits_writeStyle page n text
  | setStyleProperty n property value isImportant =>
    show page.Edits (page.setStyleProperty n property value isImportant) true
    unfold setStyleProperty
    split
    · exact edits_writeStyle page n _
    · exact .untouched rfl rfl
  | setText n text =>
    refine edits_orSame fun later set => ?_
    obtain ⟨element, rfl⟩ := eq_of_ensureElement set
    exact .refilled element text
  | setProperty n name value =>
    refine edits_orSame fun later set => ?_
    obtain ⟨_, rfl⟩ := eq_of_ensureElement set
    exact .untouched rfl rfl
  | addStyleRule selector pseudoElement declarations =>
    refine edits_orSame fun later added => ?_
    obtain ⟨_, _, added⟩ := exists_of_bind_eq_ok added
    obtain rfl := Except.ok.inj added
    exact .untouched rfl rfl
  | overrideText | inputEvent | setReady => exact .untouched rfl rfl

/-- Every step of a script is one of the changes. -/
theorem alters_script (page : Page) (step : ScriptStep) : page.Alters (page.script step) step.writesStyle := by
  by_cases adds : step.addsMarkup = true
  · cases step with
    | appendHtml parent html => exact .appended parent html
    | _ => exact absurd adds Bool.false_ne_true
  · exact .edited (edits_script page (by simpa using adds))

/-! A step of a script takes no time. -/

theorem now_recordMove (page : Page) (old : Option NodeId) (parent : NodeId) :
    (page.recordMove old parent).now = page.now := by
  unfold recordMove
  split
  · split <;> rfl
  · rfl

theorem now_writeStyle (page : Page) (n : NodeId) (text : String) :
    (page.writeStyle n text).now = page.now := by
  unfold writeStyle
  split <;> rfl

theorem now_removeElement (page : Page) (n : NodeId) : (page.removeElement n).1.now = page.now := by
  unfold removeElement
  split <;> rfl

theorem now_orSame {ε : Type} {changed : Except ε Page}
    (after : ∀ later, changed = .ok later → later.now = page.now) : (page.orSame changed).now = page.now :=
  orSame_of (P := fun later => later.now = page.now) rfl after

theorem now_script (page : Page) (step : ScriptStep) : (page.script step).now = page.now := by
  cases step with
  | appendHtml parent html =>
    show (page.appendHtml parent html).1.now = page.now
    unfold appendHtml
    split
    · rfl
    · split
      · rfl
      · simp only []
        split <;> rfl
  | appendChild parent child =>
    refine now_orSame fun later moved => ?_
    obtain ⟨_, _, moved⟩ := exists_of_bind_eq_ok moved
    obtain rfl := Except.ok.inj moved
    exact now_recordMove _ _ _
  | insertBefore parent child reference =>
    show (page.moveBefore parent child reference).1.now = page.now
    unfold moveBefore
    split
    · rfl
    · split
      · rfl
      · split
        · rfl
        · split
          · exact now_recordMove _ _ _
          · rfl
  | removeNode n =>
    refine now_orSame fun later removed => ?_
    unfold removeNode at removed
    split at removed
    · simp at removed
    · obtain rfl := Except.ok.inj removed
      exact now_removeElement page n
  | removeElement n => exact now_removeElement page n
  | setAttribute | setText | setProperty =>
    refine now_orSame fun later set => ?_
    obtain ⟨_, rfl⟩ := eq_of_ensureElement set
    rfl
  | removeAttribute n name =>
    refine now_orSame fun later removed => ?_
    unfold removeAttribute at removed
    split at removed
    all_goals
      obtain ⟨_, rfl⟩ := eq_of_ensureElement removed
      rfl
  | setStyleText n text =>
    refine now_orSame fun later set => ?_
    obtain ⟨_, rfl⟩ := eq_of_ensureElement set
    exact now_writeStyle page n text
  | writeStyle n text => exact now_writeStyle page n text
  | setStyleProperty n property value isImportant =>
    show (page.setStyleProperty n property value isImportant).now = page.now
    unfold setStyleProperty
    split
    · exact now_writeStyle page n _
    · rfl
  | addStyleRule selector pseudoElement declarations =>
    refine now_orSame fun later added => ?_
    obtain ⟨_, _, added⟩ := exists_of_bind_eq_ok added
    obtain rfl := Except.ok.inj added
    rfl
  | createElement | overrideText | inputEvent | setReady => rfl

end CosmeticRules.Page
