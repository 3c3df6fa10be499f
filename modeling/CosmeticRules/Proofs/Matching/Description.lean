import CosmeticRules.Matching.Selection
import CosmeticRules.Proofs.Css.Meaning
import CosmeticRules.Proofs.Css.ReadLinked

/-!
The description of an element by its tag and its attributes: as a native selector it is read as just that, and
it fits every element that has the tag and all the attributes.
-/

namespace CosmeticRules

open Text

namespace Element

/-- What the description of an element says. -/
def description (e : Element) : List Css.Simple :=
  .tag e.tag :: e.attributes.map fun a => .attribute (.compare a.name .equals a.value false)

/-- The names that an element has are read as names in a native selector. -/
structure Describable (e : Element) : Prop where
  tag : Css.IsName e.tag
  dark : ∀ c ∈ e.tag.toList, isBlank c = false
  lower : asciiLower e.tag.toList = e.tag.toList
  keys : ∀ a ∈ e.attributes, Css.IsKey a.name

end Element

namespace Css

variable {readGroups : List Char → Except Unsupported (List Chain)} {whole : List Char}

/-! Reading a tag with tests of attributes. -/

theorem isCompoundChar_of_isNameChar {c : Char} (named : isNameChar c = true) (dark : isBlank c = false) :
    isOrdinary c = true ∧ isCompoundChar c = true := by
  constructor
  · exact isOrdinary_of_isKeyChar (by simp [isKeyChar, named])
  · have other {d : Char} (is : isNameChar d = false) : c ≠ d := ne_of_isNameChar named is
    have h1 : c ≠ '>' := other (by decide)
    have h2 : c ≠ '+' := other (by decide)
    have h3 : c ≠ '~' := other (by decide)
    have h4 : c ≠ ',' := other (by decide)
    simp [isCompoundChar, endsPart, h1, h2, h3, h4, dark]

theorem startsSimple_tests (tests : List AttributeTest) :
    StartsSimple (printCompound (tests.map .attribute)) := by
  refine startsSimple_printCompound (List.any_eq_false.mpr fun simple member => ?_)
  obtain ⟨test, _, rfl⟩ := List.mem_map.mp member
  exact Bool.false_ne_true

theorem nested_tests {tests : List AttributeTest} (named : ∀ test ∈ tests, IsKey test.key) :
    Nested isCompoundChar (printCompound (tests.map .attribute)) := by
  induction tests with
  | nil => exact .nil
  | cons test rest ih =>
    obtain ⟨first, others⟩ := List.forall_mem_cons.mp named
    exact .append (.bracketed (nested_inner first)) (ih others)

theorem solid_tests {s : List Char} (solid : Solid s) (tests : List AttributeTest) :
    Solid (s ++ printCompound (tests.map .attribute)) := by
  induction tests generalizing s with
  | nil => simpa [printCompound] using solid
  | cons test rest ih =>
    have bracketed : Solid (s ++ ([] ++ (Simple.attribute test).print)) :=
      solid.append (.enclosed (by decide) (by decide) _) []
    have next := ih bracketed
    simpa [printCompound] using next

theorem simplesFrom_tests {tests : List AttributeTest} (named : ∀ test ∈ tests, IsKey test.key) {done : List Simple}
    {count : Nat} (enough : (printCompound (tests.map .attribute)).length ≤ count) :
    simplesFrom readGroups whole count done (printCompound (tests.map .attribute)) =
      .ok (done ++ tests.map .attribute) := by
  induction tests generalizing done count with
  | nil =>
    rw [List.map_nil, List.append_nil, printCompound]
    cases count <;> rfl
  | cons test rest ih =>
    obtain ⟨first, others⟩ := List.forall_mem_cons.mp named
    obtain ⟨tail, split, read⟩ : ∃ tail,
        (Simple.attribute test).print ++ printCompound (rest.map .attribute) = '[' :: tail ∧
          simple readGroups whole done '[' tail = .ok (.attribute test, printCompound (rest.map .attribute)) :=
      simple_test first
    rw [List.map_cons, printCompound, List.length_append] at enough
    have length : 0 < (Simple.attribute test).print.length := Nat.succ_pos _
    obtain ⟨count, rfl⟩ := Nat.exists_eq_succ_of_ne_zero (show count ≠ 0 by omega)
    rw [List.map_cons, printCompound, split, simplesFrom, read]
    refine (ih others (by omega)).trans ?_
    rw [List.append_assoc, List.singleton_append]

theorem compound_tag {tag : String} {tests : List AttributeTest} (name : IsName tag)
    (lower : asciiLower tag.toList = tag.toList) (named : ∀ test ∈ tests, IsKey test.key) :
    Css.compound readGroups (printCompound (.tag tag :: tests.map .attribute)) =
      .ok (.tag tag :: tests.map .attribute) := by
  obtain ⟨c, tail, split, read⟩ : ∃ c tail, tag.toList ++ printCompound (tests.map .attribute) = c :: tail ∧
      simple readGroups (printCompound (.tag tag :: tests.map .attribute)) [] c tail =
        .ok (.tag tag, printCompound (tests.map .attribute)) := simple_tag name lower (startsSimple_tests tests)
  have text : printCompound (.tag tag :: tests.map .attribute) = c :: tail := split
  have filled : 0 < tag.toList.length := by
    obtain ⟨d, rest, begins, _⟩ := name
    simp [begins]
  have length : tag.toList.length + (printCompound (tests.map .attribute)).length = tail.length + 1 := by
    simpa using congrArg List.length split
  unfold Css.compound
  conv_lhs => rw [text, List.length_cons, simplesFrom, ← text, read]
  exact simplesFrom_tests named (by omega)

/-- A compound selector that stands alone. -/
theorem read_compound {compound : List Simple} (nested : Nested isCompoundChar (printCompound compound))
    (solid : Solid (printCompound compound))
    (reads : ∀ readGroups, Css.compound readGroups (printCompound compound) = .ok compound) :
    read (String.ofList (printCompound compound)) = .ok [.single compound] := by
  have groups : groupsFrom {} (printCompound compound) = some (printCompound compound, []) := by
    have passes : Passes (· == ',') {} (printCompound compound) {} :=
      nested.passes_top fun c inside => by simpa using (Bool.and_eq_true_iff.mp inside).2
    have nothing := groupsFrom_append passes []
    simpa [groupsFrom, Nesting.isClosed] using nothing
  have parts : parts? (printCompound compound) = some [.compound (printCompound compound)] := by
    have whole := partsFrom_append (nested.passes_top endsPart_of_isCompoundChar) []
    rw [List.append_nil] at whole
    simp [parts?, whole, partsFrom, Nesting.isClosed, consCompound, solid.trim_eq, solid.ne_nil]
  rw [read, String.toList_ofList, String.length_ofList]
  refine chainsTo_of_single groups (by rw [solid.trim_eq]; exact solid.ne_nil) ?_
  rw [solid.trim_eq, Css.chain, parts]
  simp only [chainFrom, reads]
  rfl

/-! Matching a description. -/

variable {t : PageTree} {scope : Option NodeId} {n : NodeId}

theorem allHold_iff_forall {compound : List Simple} :
    allHold t scope compound n = true ↔ ∀ simple ∈ compound, simple.holds t scope n = true := by
  induction compound with
  | nil => simp [allHold]
  | cons simple rest ih => rw [allHold, Bool.and_eq_true, ih, List.forall_mem_cons]

theorem holds_equals {name value : String} (wf : t.WellFormed) :
    (Simple.attribute (.compare name .equals value false)).holds t scope n = true ↔
      ∃ e, t.element? n = some e ∧ HasAttribute e name value := by
  rw [Simple.holds, Option.any_eq_true]
  refine exists_congr fun e => and_congr_right fun is => ?_
  rw [AttributeTest.holds_iff (wf.wellNamed n e is)]
  constructor
  · rintro ⟨actual, has, same⟩
    obtain rfl : actual = value := String.toList_inj.mp same
    exact has
  · exact fun has => ⟨value, has, rfl⟩

end Css

open Css in
theorem Element.Describable.isKey {e : Element} (describable : e.Describable) :
    ∀ test ∈ e.attributes.map fun a => AttributeTest.compare a.name .equals a.value false, IsKey test.key := by
  intro test member
  obtain ⟨a, listed, rfl⟩ := List.mem_map.mp member
  exact describable.keys a listed

theorem Element.description_eq (e : Element) : e.description =
    .tag e.tag :: (e.attributes.map fun a => Css.AttributeTest.compare a.name .equals a.value false).map .attribute := by
  rw [List.map_map]
  rfl

namespace Matching

open Css

theorem flatMap_quotedChar (value : List Char) : value.flatMap describe.quotedChar = escaped value := by
  induction value with
  | nil => rfl
  | cons c rest ih =>
    rw [List.flatMap_cons, ih, escaped, describe.quotedChar]
    split <;> rfl

theorem toList_condition (a : Attribute) : (describe.condition a).toList =
    (Simple.attribute (.compare a.name .equals a.value false)).print := by
  simp [describe.condition, flatMap_quotedChar, Simple.print, AttributeTest.inner, AttributeOperator.sign,
    Css.quoted, flag, toString]

/-- The description of an element is the print of what it says. -/
theorem describe_eq (e : Element) : describe e = String.ofList (printCompound e.description) := by
  rw [← String.toList_inj, String.toList_ofList, describe, String.toList_append, String.toList_join,
    Element.description, printCompound]
  refine congrArg (e.tag.toList ++ ·) ?_
  induction e.attributes with
  | nil => rfl
  | cons a rest ih => simp [printCompound, toList_condition, ih]

section

variable {e : Element} (describable : e.Describable)

include describable

theorem nested_description : Nested isCompoundChar (printCompound e.description) := by
  obtain ⟨c, rest, split, _, named⟩ := describable.tag
  rw [e.description_eq]
  refine .append (.of_plain fun d member => ?_) (nested_tests describable.isKey)
  exact isCompoundChar_of_isNameChar (named d (split ▸ member)) (describable.dark d member)

theorem solid_description : Solid (printCompound e.description) := by
  obtain ⟨c, rest, split, _⟩ := describable.tag
  have filled : e.tag.toList ≠ [] := by
    simp [split]
  rw [e.description_eq]
  exact solid_tests (.of_dark filled describable.dark) _

/-- The description of an element is read as what it says. -/
theorem read_describe : Css.read (describe e) = .ok [.single e.description] := by
  rw [describe_eq]
  refine read_compound (nested_description describable) (solid_description describable) fun readGroups => ?_
  rw [e.description_eq]
  exact compound_tag describable.tag describable.lower describable.isKey

end

/-- The second element has the same tag as the first and every attribute of it with the same value. -/
def Resembles (t : PageTree) (n d : NodeId) : Prop :=
  ∃ e other, t.element? n = some e ∧ t.element? d = some other ∧ other.tag = e.tag ∧ e.attributes ⊆ other.attributes

theorem Resembles.refl {t : PageTree} {n : NodeId} (element : t.isElement n = true) : Resembles t n n := by
  obtain ⟨e, is⟩ := Option.isSome_iff_exists.mp element
  exact ⟨e, e, is, is, rfl, List.Subset.refl _⟩

theorem Resembles.isElement {t : PageTree} {n d : NodeId} (fits : Resembles t n d) : t.isElement d = true := by
  obtain ⟨_, _, _, element, _⟩ := fits
  simp [PageTree.isElement, element]

/-- The description of an element holds of the elements that resemble it. -/
theorem allHold_description {t : PageTree} (wf : t.WellFormed) {scope : Option NodeId} {n d : NodeId} {e : Element}
    (is : t.element? n = some e) : allHold t scope e.description d = true ↔ Resembles t n d := by
  rw [allHold_iff_forall, Element.description, List.forall_mem_cons, List.forall_mem_map, Simple.holds, beq_iff_eq,
    PageTree.tag?, Option.map_eq_some_iff]
  constructor
  · rintro ⟨⟨other, element, tag⟩, tests⟩
    refine ⟨e, other, is, element, tag, fun a listed => ?_⟩
    obtain ⟨same, again, has⟩ := (holds_equals wf).mp (tests a listed)
    obtain rfl := Option.some.inj (element.symm.trans again)
    exact has
  · rintro ⟨same, other, again, element, tag, subset⟩
    obtain rfl := Option.some.inj (is.symm.trans again)
    exact ⟨⟨other, element, tag⟩, fun a listed => (holds_equals wf).mpr ⟨other, element, subset listed⟩⟩

end Matching

end CosmeticRules
