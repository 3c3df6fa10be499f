import CosmeticRules.Proofs.Page.Frame
import CosmeticRules.Proofs.Page.StyleText

/-!
What the style attribute of an element declares after declarations of rules have been written to it.
-/

namespace CosmeticRules.Page

open InlineStyle Text

/-- The value that is written for a declaration of a rule. -/
def importantValue (d : Declaration) : String := s!"{bareValue d.value} !important"

theorem trim_bareValue (value : String) : trim (bareValue value).toList = (bareValue value).toList := by
  unfold bareValue
  simp only [String.toList_ofList]
  split <;> exact trim_trim _

theorem toList_importantValue (d : Declaration) :
    (importantValue d).toList = ((bareValue d.value).toList ++ [' ']) ++ important := by
  have whole : importantValue d = bareValue d.value ++ " !important" := rfl
  rw [whole, String.toList_append, List.append_assoc]
  rfl

theorem trimEnd_append_important (s : List Char) : trimEnd (s ++ important) = s ++ important :=
  trimEnd_append_cons (c := '!') rfl s _

theorem stripImportant_append {value : String} {s : List Char} (is : value.toList = s ++ important) :
    stripImportant value = (String.ofList (trimEnd s), true) := by
  have start : (s ++ important).length - important.length = s.length := by simp
  unfold stripImportant
  simp only [is, trimEnd_append_important, start, List.drop_left, List.take_left]
  rfl

/-- The value as it is read back: the mark follows the bare value after a blank, or stands alone. -/
theorem toList_trimText_importantValue (d : Declaration) :
    ∃ start, (trimText (importantValue d)).toList = start ++ important ∧
      trimEnd start = (bareValue d.value).toList ∧
      (start = [] ∨ start = (bareValue d.value).toList ++ [' ']) := by
  rcases eq_nil_or_dark_of_trim (trim_bareValue d.value) with none | ⟨c, rest, same, dark, ends⟩
  · refine ⟨[], ?_, none.symm, Or.inl rfl⟩
    rw [trimText, toList_importantValue, none]
    rfl
  · refine ⟨(bareValue d.value).toList ++ [' '], ?_, ?_, Or.inr rfl⟩
    · rw [trimText, String.toList_ofList, toList_importantValue, same, List.append_assoc,
        List.cons_append, ← List.nil_append (c :: _), trim_append_cons (by simp) dark,
        ← List.append_assoc, trimEnd_append_important]
      rfl
    · rw [trimEnd_concat, if_pos (show isBlank ' ' = true from rfl), same, trimEnd_cons dark, ends]

theorem stripImportant_importantValue (d : Declaration) :
    stripImportant (trimText (importantValue d)) = (bareValue d.value, true) := by
  obtain ⟨start, value, bare, _⟩ := toList_trimText_importantValue d
  rw [stripImportant_append value, bare, String.ofList_toList]

/-- Whether a declaration of a rule is written for an element. -/
def accepts (page : Page) (n : NodeId) (d : Declaration) : Bool :=
  page.supportsProperty n d.property && !d.value.isEmpty && !isContentMark d

/-- Whether the style of an element declares a property as important, with this value. -/
def Declares (page : Page) (n : NodeId) (property value : String) : Prop :=
  ∃ d, (read (page.styleText n)).find? (·.property == property) = some d ∧
    stripImportant d.value = (value, true)

variable {page : Page} {n : NodeId}

theorem applyDeclaration_of_accepts {d : Declaration} (accepted : page.accepts n d = true) :
    page.applyDeclaration n d = page.writeStyle n
      (write (Declaration.put d.property (importantValue d) (read (page.styleText n)))) := by
  simp only [accepts, Bool.and_eq_true, Bool.not_eq_true', supportsProperty] at accepted
  obtain ⟨⟨⟨element, named⟩, filled⟩, unmarked⟩ := accepted
  rw [applyDeclaration, supportsProperty, element, named, filled, unmarked]
  simp only [setStyleProperty, element]
  rfl

theorem applyDeclaration_of_not_accepts {d : Declaration} (refused : page.accepts n d = false) :
    page.applyDeclaration n d = page := by
  rw [applyDeclaration, if_pos]
  simp only [accepts, Bool.and_eq_false_iff, Bool.not_eq_false'] at refused
  simpa [or_assoc] using refused

theorem accepts_congr {later : Page} (same : PageTree.SameShape page.tree later.tree)
    (d : Declaration) : later.accepts n d = page.accepts n d := by
  rw [accepts, accepts, supportsProperty, supportsProperty, same.isElement]

/-- Writes declarations in turn. -/
def applyDeclarations (page : Page) (n : NodeId) (declarations : List Declaration) : Page :=
  declarations.foldl (·.applyDeclaration n) page

section induction

variable {P : Page → Prop} (kept : ∀ {page}, P page → ∀ text, P (page.writeStyle n text))

include kept

/-- What is kept when the style of a node is written is kept when declarations are applied to the node. -/
theorem applyDeclarations_induction (holds : P page) (declarations : List Declaration) :
    P (page.applyDeclarations n declarations) := by
  induction declarations generalizing page with
  | nil => exact holds
  | cons d rest ih =>
    have first : P (page.applyDeclaration n d) := by
      cases accepted : page.accepts n d with
      | false => rwa [applyDeclaration_of_not_accepts accepted]
      | true =>
        rw [applyDeclaration_of_accepts accepted]
        exact kept holds _
    exact ih first

theorem applyStyle_induction (holds : P page) (style : Style) : P (page.applyStyle n style) :=
  applyDeclarations_induction kept holds style.declarations

theorem applyStyles_induction (holds : P page) (styles : List Style) :
    P (styles.foldl (·.applyStyle n) page) := by
  induction styles generalizing page with
  | nil => exact holds
  | cons style rest ih => exact ih (applyStyle_induction kept holds style)

end induction

theorem sameShape_applyDeclarations (declarations : List Declaration) :
    PageTree.SameShape page.tree (page.applyDeclarations n declarations).tree :=
  applyDeclarations_induction (P := fun later => PageTree.SameShape page.tree later.tree)
    (fun same text => same.trans (sameShape_writeStyle _ n text)) (.refl _) declarations

/-- A declaration as it is read back from a style attribute. -/
def written (d : Declaration) : Declaration := ⟨d.property, trimText (importantValue d)⟩

@[simp] theorem property_written (d : Declaration) : (written d).property = d.property := by rw [written]

/-- Whether a declaration of a rule can be read back after it has been written. -/
def IsPlain (d : Declaration) : Prop := (⟨d.property, bareValue d.value⟩ : Declaration).Writable

theorem sealed_important : Sealed [';'] important := ⟨rfl, by decide⟩

theorem IsPlain.writable {d : Declaration} (plain : IsPlain d) :
    (⟨d.property, importantValue d⟩ : Declaration).Writable := by
  refine ⟨plain.named, plain.trimmed, plain.lower, plain.property, ?_⟩
  have blank : Sealed [';'] [' '] := ⟨rfl, by decide⟩
  rw [toList_importantValue]
  exact (plain.value.append blank).append sealed_important

theorem IsPlain.writable_written {d : Declaration} (plain : IsPlain d) : (written d).Writable := by
  refine ⟨plain.named, plain.trimmed, plain.lower, plain.property, ?_⟩
  obtain ⟨start, value, _, alone | bare⟩ := toList_trimText_importantValue d
  · rw [written, value, alone, List.nil_append]
    exact sealed_important
  · rw [written, value, bare, ← toList_importantValue]
    exact plain.writable.value

theorem read_applyDeclaration {d : Declaration} (accepted : page.accepts n d = true)
    (held : ∀ e ∈ read (page.styleText n), e.Writable) (plain : IsPlain d) :
    read ((page.applyDeclaration n d).styleText n) =
      Declaration.put d.property (written d).value (read (page.styleText n)) := by
  have element : page.tree.isElement n = true := by
    simp only [accepts, Bool.and_eq_true, supportsProperty] at accepted
    exact accepted.1.1.1
  rw [applyDeclaration_of_accepts accepted, styleText_writeStyle _ _ _ element,
    read_write_put held plain.writable]
  rfl

/-- Declarations that are written in turn are declared in turn, and the style attribute can still be read back. -/
theorem read_applyDeclarations {declarations : List Declaration}
    (held : ∀ e ∈ read (page.styleText n), e.Writable)
    (plain : ∀ d ∈ declarations, page.accepts n d = true → IsPlain d) :
    (∀ e ∈ read ((page.applyDeclarations n declarations).styleText n), e.Writable) ∧
      read ((page.applyDeclarations n declarations).styleText n) =
        Declaration.putAll ((declarations.filter (page.accepts n)).map written) (read (page.styleText n)) := by
  induction declarations using List.reverseRecOn with
  | nil => exact ⟨held, rfl⟩
  | append_singleton rest last ih =>
    obtain ⟨kept, whole⟩ := ih fun d member => plain d (List.mem_append_left _ member)
    have step : page.applyDeclarations n (rest ++ [last]) =
        (page.applyDeclarations n rest).applyDeclaration n last := by
      simp [applyDeclarations]
    have same : (page.applyDeclarations n rest).accepts n last = page.accepts n last :=
      accepts_congr (sameShape_applyDeclarations rest) last
    rw [step, List.filter_append]
    cases accepted : page.accepts n last with
    | false =>
      rw [accepted] at same
      rw [applyDeclaration_of_not_accepts same]
      simpa [accepted] using ⟨kept, whole⟩
    | true =>
      rw [accepted] at same
      have new := plain last (by simp) accepted
      rw [read_applyDeclaration same kept new]
      refine ⟨Declaration.forall_put kept new.writable_written, ?_⟩
      rw [List.filter_cons_of_pos accepted, List.filter_nil, List.map_append, Declaration.putAll_append, whole,
        List.map_singleton, Declaration.putAll_singleton, property_written]

/-- The last declaration that is written for a property counts. -/
theorem find?_read_applyDeclarations {declarations : List Declaration}
    (held : ∀ e ∈ read (page.styleText n), e.Writable)
    (plain : ∀ d ∈ declarations, page.accepts n d = true → IsPlain d) (property : String) :
    (read ((page.applyDeclarations n declarations).styleText n)).find? (·.property == property) =
      (((declarations.filter (page.accepts n)).reverse.find? (·.property == property)).map written).or
        ((read (page.styleText n)).find? (·.property == property)) := by
  have same : (fun d : Declaration => d.property == property) ∘ written = fun d => d.property == property := by
    funext d
    rw [Function.comp_apply, property_written]
  rw [(read_applyDeclarations held plain).2, Declaration.find?_putAll, ← List.map_reverse, List.find?_map, same]

theorem find?_read_of_last {declarations : List Declaration}
    (held : ∀ e ∈ read (page.styleText n), e.Writable)
    (plain : ∀ d ∈ declarations, page.accepts n d = true → IsPlain d) {d : Declaration}
    (last : (declarations.filter (page.accepts n)).reverse.find? (·.property == d.property) = some d) :
    (read ((page.applyDeclarations n declarations).styleText n)).find? (·.property == d.property) =
      some (written d) := by
  rw [find?_read_applyDeclarations held plain, last, Option.map_some, Option.some_or]

end CosmeticRules.Page
