import CosmeticRules.Engine.Affected

/-!
What writing a style attribute and taking an element out leave as it was.
-/

namespace CosmeticRules

namespace PageTree

variable (t : PageTree) (n m : NodeId)

section modifyNode

variable {f : Node → Node}

theorem node?_modifyNode :
    (t.modifyNode n f).node? m = if m = n then (t.node? n).map f else t.node? m := by
  simp only [node?, modifyNode, Array.getElem?_modify]
  by_cases same : m = n
  · simp [same]
  · have other : ¬n.index = m.index := by
      intro equal
      exact same (by cases n; cases m; exact congrArg NodeId.mk equal.symm)
    rw [if_neg other, if_neg same]

@[simp] theorem size_modifyNode : (t.modifyNode n f).size = t.size := by
  simp [size, modifyNode]

/-- What a change of a node keeps of it, it keeps of every node. -/
theorem map_node?_modifyNode {α : Type} {part : Node → α} (keeps : ∀ node, part (f node) = part node) :
    ((t.modifyNode n f).node? m).map part = (t.node? m).map part := by
  rw [node?_modifyNode]
  split
  · rename_i same
    rw [same, Option.map_map]
    exact congrArg (Option.map · (t.node? n)) (funext keeps)
  · rfl

theorem content?_modifyNode (keeps : ∀ node, (f node).content = node.content) :
    (t.modifyNode n f).content? m = t.content? m := t.map_node?_modifyNode n m keeps

theorem element?_modifyNode (keeps : ∀ node, (f node).content = node.content) :
    (t.modifyNode n f).element? m = t.element? m := by
  rw [element?, content?_modifyNode t n m keeps]
  rfl

theorem parent?_eq_bind : t.parent? m = ((t.node? m).map (·.parent)).bind id := by
  unfold parent?
  cases t.node? m <;> rfl

theorem parent?_modifyNode (keeps : ∀ node, (f node).parent = node.parent) :
    (t.modifyNode n f).parent? m = t.parent? m := by
  rw [parent?_eq_bind, parent?_eq_bind, map_node?_modifyNode t n m keeps]

theorem children_eq_getD : t.children m = ((t.node? m).map (·.children)).getD [] := by
  unfold children
  cases t.node? m <;> rfl

theorem children_modifyNode (keeps : ∀ node, (f node).children = node.children) :
    (t.modifyNode n f).children m = t.children m := by
  rw [children_eq_getD, children_eq_getD, map_node?_modifyNode t n m keeps]

end modifyNode

section modifyElement

variable (f : Element → Element)

@[simp] theorem size_modifyElement : (t.modifyElement n f).size = t.size := size_modifyNode t n

@[simp] theorem parent?_modifyElement : (t.modifyElement n f).parent? m = t.parent? m := by
  refine parent?_modifyNode t n m ?_
  rintro ⟨parent, children, content⟩
  cases content <;> rfl

@[simp] theorem children_modifyElement : (t.modifyElement n f).children m = t.children m := by
  refine children_modifyNode t n m ?_
  rintro ⟨parent, children, content⟩
  cases content <;> rfl

theorem element?_modifyElement :
    (t.modifyElement n f).element? m = if m = n then (t.element? n).map f else t.element? m := by
  unfold element? content? modifyElement
  rw [node?_modifyNode]
  by_cases same : m = n
  · rw [if_pos same, if_pos same]
    cases t.node? n with
    | none => rfl
    | some node =>
      obtain ⟨parent, children, content⟩ := node
      cases content <;> rfl
  · rw [if_neg same, if_neg same]

end modifyElement

@[simp] theorem element?_detach : (t.detach n).element? m = t.element? m := by
  unfold detach
  split
  · rfl
  · rw [element?_modifyNode, element?_modifyNode] <;> exact fun _ => rfl

theorem parent?_detach : (t.detach n).parent? m = if m = n then none else t.parent? m := by
  by_cases same : m = n
  · rw [if_pos same, same]
    unfold detach
    split
    · assumption
    · unfold parent?
      rw [node?_modifyNode, if_pos rfl]
      cases PageTree.node? _ n <;> rfl
  · rw [if_neg same]
    unfold detach
    split
    · rfl
    · rw [parent?, node?_modifyNode, if_neg same, ← parent?, parent?_modifyNode]
      exact fun _ => rfl

theorem isElement_eq_of_tag? {t later : PageTree} {n : NodeId} (same : later.tag? n = t.tag? n) :
    later.isElement n = t.isElement n := by
  have some := congrArg Option.isSome same
  simpa [tag?, isElement] using some

/-- The same nodes in the same places, with the same tags and ids. -/
structure SameShape (t later : PageTree) : Prop where
  size : later.size = t.size
  parent? : ∀ n, later.parent? n = t.parent? n
  children : ∀ n, later.children n = t.children n
  tag? : ∀ n, later.tag? n = t.tag? n
  id : ∀ n, (later.element? n).bind (·.attribute? "id") = (t.element? n).bind (·.attribute? "id")

namespace SameShape

variable {t later last : PageTree}

theorem refl (t : PageTree) : SameShape t t := ⟨rfl, fun _ => rfl, fun _ => rfl, fun _ => rfl, fun _ => rfl⟩

theorem trans (first : SameShape t later) (second : SameShape later last) : SameShape t last where
  size := second.size.trans first.size
  parent? := fun n => (second.parent? n).trans (first.parent? n)
  children := fun n => (second.children n).trans (first.children n)
  tag? := fun n => (second.tag? n).trans (first.tag? n)
  id := fun n => (second.id n).trans (first.id n)

variable (same : SameShape t later)

include same

theorem isElement (n : NodeId) : later.isElement n = t.isElement n := isElement_eq_of_tag? (same.tag? n)

theorem parentElement? (n : NodeId) : later.parentElement? n = t.parentElement? n := by
  rw [PageTree.parentElement?, PageTree.parentElement?, same.parent?, funext same.isElement]

theorem ancestorElements (n : NodeId) : later.ancestorElements n = t.ancestorElements n := by
  rw [PageTree.ancestorElements, PageTree.ancestorElements, funext same.parentElement?, same.size]

theorem previousElements (n : NodeId) : later.previousElements n = t.previousElements n := by
  unfold PageTree.previousElements
  rw [same.parent?]
  split
  · rfl
  · rw [same.children, funext same.isElement]

theorem pathPart (n : NodeId) {e f : Element} (tag : f.tag = e.tag) :
    Page.pathPart later n f = Page.pathPart t n e := by
  unfold Page.pathPart
  rw [same.previousElements, tag]
  simp only [same.tag?]

theorem pathParts (nodes : List NodeId) : Page.pathParts later nodes = Page.pathParts t nodes := by
  induction nodes with
  | nil => rfl
  | cons n rest ih =>
    have tags := same.tag? n
    have ids := same.id n
    rw [Page.pathParts, Page.pathParts]
    simp only [PageTree.tag?] at tags
    cases was : t.element? n with
    | none =>
      rw [was, Option.map_none, Option.map_eq_none_iff] at tags
      rw [tags]
    | some e =>
      rw [was, Option.map_some, Option.map_eq_some_iff] at tags
      obtain ⟨f, now, tag⟩ := tags
      rw [was, now, Option.bind_some, Option.bind_some] at ids
      rw [now]
      simp only [ids, ih, same.pathPart n tag, tag]

theorem elementPath (n : NodeId) : Page.elementPath later n = Page.elementPath t n := by
  rw [Page.elementPath, Page.elementPath, same.ancestorElements, same.pathParts]

end SameShape

end PageTree

theorem Element.attribute?_setAttribute (e : Element) (name value other : String) :
    (e.setAttribute name value).attribute? other =
      if lowerName name = other then some value else e.attribute? other := by
  unfold Element.setAttribute Element.attribute?
  simp only []
  generalize lowerName name = name
  induction e.attributes with
  | nil =>
    by_cases same : name = other <;> simp [Attribute.put, same]
  | cons a rest ih =>
    by_cases here : a.name = name
    · by_cases same : name = other <;> simp [Attribute.put, here, same]
    · rw [Attribute.put, if_neg here, List.find?_cons, List.find?_cons]
      split
      · rename_i found
        have other : name ≠ other := fun same => here (by simpa [same] using found)
        rw [if_neg other]
      · exact ih

theorem Element.attribute?_removeAttribute (e : Element) (name other : String) :
    (e.removeAttribute name).attribute? other =
      if lowerName name = other then none else e.attribute? other := by
  unfold Element.removeAttribute Element.attribute?
  rw [List.find?_filter]
  split
  · rename_i same
    rw [List.find?_eq_none.mpr, Option.map_none]
    intro a _
    simp [same]
  · rename_i different
    have found : (fun a : Attribute => decide (a.name != lowerName name ∧ a.name == other)) =
        fun a => a.name == other := by
      funext a
      by_cases here : a.name = other
      · simp [here, Ne.symm different]
      · simp [here]
    rw [found]

namespace Page

variable (page : Page) (n m : NodeId)

section writeStyle

variable (text : String)

theorem element?_writeStyle : (page.writeStyle n text).tree.element? m =
    if m = n then (page.tree.element? n).map (·.setAttribute "style" text)
    else page.tree.element? m := by
  unfold writeStyle
  split
  · exact PageTree.element?_modifyElement page.tree n m _
  · rename_i other
    have none : page.tree.element? n = none := by simpa [PageTree.isElement] using other
    split
    · rename_i same
      rw [same, none]
      rfl
    · rfl

theorem element?_writeStyle_of_ne (other : m ≠ n) :
    (page.writeStyle n text).tree.element? m = page.tree.element? m := by
  rw [element?_writeStyle, if_neg other]

theorem sameShape_writeStyle : PageTree.SameShape page.tree (page.writeStyle n text).tree := by
  refine ⟨?_, ?_, ?_, ?_, ?_⟩
  · unfold writeStyle
    split
    · exact PageTree.size_modifyElement ..
    · rfl
  · intro m
    unfold writeStyle
    split
    · exact PageTree.parent?_modifyElement ..
    · rfl
  · intro m
    unfold writeStyle
    split
    · exact PageTree.children_modifyElement ..
    · rfl
  · intro m
    rw [PageTree.tag?, element?_writeStyle]
    split
    · rename_i same
      rw [same, Option.map_map]
      rfl
    · rfl
  · intro m
    rw [element?_writeStyle]
    split
    · rename_i same
      rw [same]
      cases page.tree.element? n with
      | none => rfl
      | some e => exact e.attribute?_setAttribute "style" text "id"
    · rfl

theorem styleText_writeStyle (element : page.tree.isElement n = true) :
    (page.writeStyle n text).styleText n = text := by
  obtain ⟨e, is⟩ := Option.isSome_iff_exists.mp element
  rw [styleText, PageTree.attribute?, element?_writeStyle, if_pos rfl, is, Option.map_some,
    Option.bind_some, Element.attribute?_setAttribute, if_pos rfl]
  rfl

end writeStyle

theorem parent?_removeElement :
    (page.removeElement n).1.tree.parent? m = if m = n then none else page.tree.parent? m := by
  unfold removeElement
  split
  · exact PageTree.parent?_detach page.tree n m
  · rename_i none
    split
    · rename_i same
      rw [same]
      exact none
    · rfl

theorem styleText_congr {page later : Page} {n : NodeId}
    (same : later.tree.element? n = page.tree.element? n) : later.styleText n = page.styleText n := by
  rw [styleText, styleText, PageTree.attribute?, PageTree.attribute?, same]

end Page

end CosmeticRules
