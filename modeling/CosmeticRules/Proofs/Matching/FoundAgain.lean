import CosmeticRules.Proofs.Matching.Siblings
import CosmeticRules.Proofs.Page.LowerTags

/-!
An element is found again from its parent: its description after `:scope>` is read as a chain of two steps whatever its
attributes hold, and among the children of the parent it selects those that have the tag and all the attributes.
-/

namespace CosmeticRules

open Css PlainText

/-- On a page the tag of an element is in lower case, so that plain names are all that its description needs. -/
theorem Page.Built.describable {page : Page} (built : page.Built) {n : NodeId} {e : Element}
    (element : page.tree.element? n = some e) (tag : isIdentifier e.tag = true)
    (keys : ∀ a ∈ e.attributes, a.name ≠ "" ∧ ∀ c ∈ a.name.toList, isLowerKeyChar c = true) : e.Describable where
  tag := isName_of_isIdentifier tag
  dark := by
    obtain ⟨c, rest, split, _, plain⟩ := isIdentifier_iff.mp tag
    exact fun d member => isBlank_of_isPlainChar (plain d (split ▸ member))
  lower := by
    have lower := congrArg String.toList (built.lowerTags n e element)
    rwa [lowerName, String.toList_ofList] at lower
  keys := by
    intro a listed
    obtain ⟨filled, plain⟩ := keys a listed
    have printable : (AttributeTest.has a.name).isPrintable = true := by
      simpa [AttributeTest.isPrintable, String.toList_eq_nil_iff, filled] using plain
    exact AttributeTest.isKey printable

namespace Matching

theorem describeNode_eq {t : PageTree} {n : NodeId} {e : Element} (element : t.element? n = some e) :
    describeNode t n = describe e := by
  rw [describeNode, element]
  rfl

/-- The children of a node that its description selects from its parent are those that resemble it. -/
theorem select_scoped_describe {t : PageTree} (wf : t.WellFormed) {n parent : NodeId} {e : Element}
    (element : t.element? n = some e) (describable : e.Describable) (is : t.parentElement? n = some parent) :
    ∃ found, Css.select t parent (":scope>" ++ describe e) = .ok found ∧
      ∀ m, m ∈ found ↔ t.parent? m = some parent ∧ Resembles t n m := by
  obtain ⟨_, holder⟩ := Option.filter_eq_some_iff.mp is
  obtain ⟨found, selected, members⟩ := select_single wf parent (read_scoped_describe describable)
  refine ⟨found, selected, fun m => ?_⟩
  rw [members, scopeOf_element wf holder, matches_description wf holder element]
  exact and_iff_right_of_imp fun ⟨child, _⟩ => .single child

/-- The description of an element after `:scope>` is one chain of two steps, of which the second asks for the tag and
for each attribute with its value. From the parent of the element it selects the element, and with it just the
children that have the same tag and at least its attributes. -/
theorem describe_found_again {page : Page} (built : page.Built) {n : NodeId} {e : Element}
    (element : page.tree.element? n = some e) (tag : isIdentifier e.tag = true)
    (keys : ∀ a ∈ e.attributes, a.name ≠ "" ∧ ∀ c ∈ a.name.toList, isLowerKeyChar c = true) :
    Css.read (":scope>" ++ describeNode page.tree n) =
        .ok [.link (.single [.structural .scope]) .child
          (.tag e.tag :: e.attributes.map fun a => .attribute (.compare a.name .equals a.value false))] ∧
      ∀ parent, page.tree.parentElement? n = some parent →
        ∃ found, Css.select page.tree parent (":scope>" ++ describeNode page.tree n) = .ok found ∧ n ∈ found ∧
          ∀ m, m ∈ found ↔ page.tree.parent? m = some parent ∧ Resembles page.tree n m := by
  have describable := built.describable element tag keys
  rw [describeNode_eq element]
  refine ⟨read_scoped_describe describable, fun parent is => ?_⟩
  obtain ⟨found, selected, members⟩ := select_scoped_describe built.wellFormed element describable is
  have child := (Option.filter_eq_some_iff.mp is).1
  have same : Resembles page.tree n n := .refl (by simp [PageTree.isElement, element])
  exact ⟨found, selected, (members n).mpr ⟨child, same⟩, members⟩

/-- A link whose title holds quotes, brackets, parentheses, a comma, a backslash and a line feed. -/
def quotedTitle : Page := .ofMarkup "<a></a><a xlink:href=x title='\"]\\(a,\nb) \"' x></a>"

theorem describe_found_again_quotedTitle :
    quotedTitle.Built ∧
      describeNode quotedTitle.tree ⟨2⟩ = "a[xlink:href=\"x\"][title=\"\\\"]\\\\(a,\nb) \\\"\"][x=\"\"]" ∧
      quotedTitle.tree.parentElement? ⟨2⟩ = some ⟨4⟩ ∧
      ∃ found, Css.select quotedTitle.tree ⟨4⟩ (":scope>" ++ describeNode quotedTitle.tree ⟨2⟩) = .ok found ∧
        ⟨2⟩ ∈ found := by
  have right : (Page.ofHtml "<a></a><a xlink:href=x title='\"]\\(a,\nb) \"' x></a>").isOk = true := by decide +kernel
  have built : quotedTitle.Built := .read (Page.ofHtml_ofMarkup right)
  have element : quotedTitle.tree.element? ⟨2⟩ =
      some ⟨"a", [⟨"xlink:href", "x"⟩, ⟨"title", "\"]\\(a,\nb) \""⟩, ⟨"x", ""⟩]⟩ := by decide +kernel
  have parent : quotedTitle.tree.parentElement? ⟨2⟩ = some ⟨4⟩ := by decide +kernel
  obtain ⟨found, selected, member, _⟩ := (describe_found_again built element (by decide) (by decide)).2 ⟨4⟩ parent
  exact ⟨built, by decide +kernel, parent, found, selected, member⟩

/-- A script can give an attribute the empty name, and the description of the element cannot be read then. -/
theorem describe_nameless_attribute :
    ¬∀ (page : Page) (n : NodeId) (e : Element), page.Built → page.tree.element? n = some e →
      isIdentifier e.tag = true → (∀ a ∈ e.attributes, ∀ c ∈ a.name.toList, isLowerKeyChar c = true) →
      Css.read (":scope>" ++ describeNode page.tree n) =
        .ok [.link (.single [.structural .scope]) .child
          (.tag e.tag :: e.attributes.map fun a => .attribute (.compare a.name .equals a.value false))] := by
  intro every
  have right : (Page.ofHtml "<p></p><q></q>").isOk = true := by decide +kernel
  have built : Page.Built ((Page.ofMarkup "<p></p><q></q>").script (.setAttribute ⟨1⟩ "" "x")) :=
    (Page.Built.read (Page.ofHtml_ofMarkup right)).step _
  have read := every _ ⟨1⟩ ⟨"p", [⟨"", "x"⟩]⟩ built (by decide +kernel) (by decide) (by decide)
  have text : describeNode ((Page.ofMarkup "<p></p><q></q>").script (.setAttribute ⟨1⟩ "" "x")).tree ⟨1⟩ =
      "p[=\"x\"]" := by decide +kernel
  have refused : Css.read (":scope>" ++ "p[=\"x\"]") = .error ⟨"p[=\"x\"]"⟩ := rfl
  rw [text, refused] at read
  exact absurd read (by simp)

end Matching

end CosmeticRules
