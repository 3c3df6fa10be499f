import CosmeticRules.Proofs.Distinct
import CosmeticRules.Proofs.Page.ClosedText
import CosmeticRules.Proofs.Page.Declared
import CosmeticRules.Proofs.Page.Script

/-!
Styling an element whose style attribute leaves nothing open: what a style declares is declared afterwards, every
other property is as it was, and the order of the attribute is kept.
-/

namespace CosmeticRules

open InlineStyle Text

/-- What is left of a value without the blanks around it and one mark that it is important. -/
inductive IsBare (value : List Char) : List Char → Prop
  | plain (unmarked : ¬important <:+ trim value) : IsBare value (trim value)
  | marked {s : List Char} (mark : trim value = s ++ important) : IsBare value (trim s)

theorem isBare_bareValue (value : String) : IsBare value.toList (Page.bareValue value).toList := by
  unfold Page.bareValue
  simp only [String.toList_ofList]
  split
  · rename_i ends
    obtain ⟨s, whole⟩ := List.isSuffixOf_iff_suffix.mp ends
    rw [← whole, List.length_append, Nat.add_sub_cancel, List.take_left]
    exact .marked whole.symm
  · rename_i other
    exact .plain fun ends => other (List.isSuffixOf_iff_suffix.mpr ends)

theorem InlineStyle.Sealed.bare {separators value bare : List Char} (held : Sealed separators value)
    (is : IsBare value bare) : Sealed separators bare := by
  cases is with
  | plain => exact held.trim
  | @marked s mark =>
    have whole : Sealed separators ([] ++ s ++ important) := mark ▸ held.trim
    exact (whole.middle (List.forall_mem_nil _) (by decide)).trim

/-- A declaration that can be written to a style attribute as it is: its property is a name in lower case, and its
value is closed and does not end in the middle. -/
structure Declaration.Declarable (d : Declaration) : Prop where
  property : ∀ c ∈ d.property.toList, c.isLower = true ∨ c.isDigit = true ∨ c = '-'
  closed : IsClosed d.value.toList
  free : splitTop? ';' {} d.value.toList = none

theorem InlineStyle.Sealed.of_neutral {separators s : List Char} (neutral : ∀ c ∈ s, Openings.IsNeutral c)
    (fresh : ∀ separator ∈ separators, separator ∉ s) : Sealed separators s where
  closed := (Openings.sound_start.feedAll s).eq_of_isTop (Openings.sound_start.isTop_feedAll neutral)
  free := fun separator member => splitTop?_of_fresh (fresh separator member)

namespace Declaration.Declarable

variable {d : Declaration} (declarable : d.Declarable)

include declarable

theorem of_mem_property {c : Char} (member : c ∈ d.property.toList) :
    PlainText.isPlainChar c = true ∧ c.toLower = c := by
  have named : (c.isLower || c.isDigit || c == '-') = true := by
    simpa [or_assoc] using declarable.property c member
  have plain : PlainText.isPlainChar c = true := by
    rcases declarable.property c member with lower | digit | rfl
    · exact PlainText.isPlainChar_of_letter (.inr lower)
    · simp [PlainText.isPlainChar, Char.isAlphanum, digit]
    · rfl
  have small := PlainText.forall_isPlainChar
    (p := fun c => !(c.isLower || c.isDigit || c == '-') || c.toLower == c) (by decide +kernel) plain
  refine ⟨plain, ?_⟩
  simpa only [named, Bool.not_true, Bool.false_or, beq_iff_eq] using small

theorem isPlain (named : d.property ≠ "") : Page.IsPlain d where
  named := named
  trimmed := by
    have dark {c : Char} (member : c ∈ d.property.toList) : isBlank c = false :=
      PlainText.isBlank_of_isPlainChar (declarable.of_mem_property member).1
    exact trim_of_ends (fun _ first => dark (List.mem_of_head? first)) fun _ last => dark (List.mem_of_getLast? last)
  lower := by
    rw [asciiLower, List.map_congr_left fun c member => (declarable.of_mem_property member).2, List.map_id']
  property := by
    refine .of_neutral (fun c member => isNeutral_of_isPlainChar (declarable.of_mem_property member).1) ?_
    have others : ∀ separator ∈ [':', ';'], PlainText.isPlainChar separator = false := by decide
    intro separator listed member
    exact absurd (declarable.of_mem_property member).1 (by simp [others separator listed])
  value := by
    have held : Sealed [';'] d.value.toList :=
      ⟨declarable.closed.feedAll_eq, List.forall_mem_singleton.mpr declarable.free⟩
    exact held.bare (isBare_bareValue d.value)

end Declaration.Declarable

namespace Page

variable {page : Page} {n : NodeId} {style : Style}

theorem ne_of_accepts {d : Declaration} (accepted : page.accepts n d = true) : d.property ≠ "" := by
  intro none
  simp [accepts, supportsProperty, none, isPropertyName, isPropertyName.isPlainName] at accepted

theorem applyStyle_eq : page.applyStyle n style = page.applyDeclarations n style.declarations := rfl

/-- Styling an element whose style attribute is closed. Every declaration that the page accepts is declared with its
bare value as important, every other property is as it was, and the properties keep their order, the new ones
behind. -/
theorem read_applyStyle (closed : IsClosed (page.styleText n).toList)
    (declarable : ∀ d ∈ style.declarations, d.Declarable) :
    (∀ d ∈ style.declarations, page.accepts n d = true →
      (page.applyStyle n style).inlineProperty? n d.property = some (bareValue d.value) ∧
      IsBare d.value.toList (bareValue d.value).toList ∧
      ∃ stored, (read ((page.applyStyle n style).styleText n)).find? (·.property == d.property) = some stored ∧
        important <:+ stored.value.toList) ∧
    (∀ property, (∀ d ∈ style.declarations, page.accepts n d = true → d.property ≠ property) →
      (read ((page.applyStyle n style).styleText n)).find? (·.property == property) =
        (read (page.styleText n)).find? (·.property == property) ∧
      (page.applyStyle n style).inlineProperty? n property = page.inlineProperty? n property) ∧
    (read ((page.applyStyle n style).styleText n)).map (·.property) =
      (read (page.styleText n)).map (·.property) ++
        ((style.declarations.filter (page.accepts n)).map (·.property)).filter fun property =>
          !((read (page.styleText n)).map (·.property)).contains property := by
  have held := writable_read closed
  have plain : ∀ d ∈ style.declarations, page.accepts n d = true → IsPlain d :=
    fun d member accepted => (declarable d member).isPlain (ne_of_accepts accepted)
  have found := find?_read_applyDeclarations held plain
  have distinct : ((style.declarations.filter (page.accepts n)).map (·.property)).Nodup :=
    style.distinct.sublist (List.filter_sublist.map _)
  have inlineProperty? (later : Page) (property : String) : later.inlineProperty? n property =
      ((read (later.styleText n)).find? (·.property == property)).map fun d => (stripImportant d.value).1 := rfl
  refine ⟨fun d member accepted => ?_, fun property others => ?_, ?_⟩
  · have last : (style.declarations.filter (page.accepts n)).reverse.find? (·.property == d.property) = some d := by
      refine find?_of_nodup_map ?_ (List.mem_reverse.mpr (List.mem_filter.mpr ⟨member, accepted⟩))
      rwa [List.map_reverse, List.nodup_reverse]
    have stored := find?_read_of_last held plain last
    obtain ⟨start, ends, _⟩ := toList_trimText_importantValue d
    refine ⟨?_, isBare_bareValue d.value, written d, stored, start, ends.symm⟩
    rw [inlineProperty?, applyStyle_eq, stored, Option.map_some]
    exact congrArg (fun split => some split.1) (stripImportant_importantValue d)
  · have none : (style.declarations.filter (page.accepts n)).reverse.find? (·.property == property) = none := by
      refine List.find?_eq_none.mpr fun d member => ?_
      obtain ⟨inStyle, accepted⟩ := List.mem_filter.mp (List.mem_reverse.mp member)
      simpa using others d inStyle accepted
    have kept := found property
    rw [none] at kept
    exact ⟨kept, by rw [inlineProperty?, inlineProperty?, applyStyle_eq, kept]; rfl⟩
  · have properties : ((style.declarations.filter (page.accepts n)).map written).map (·.property) =
        (style.declarations.filter (page.accepts n)).map (·.property) := by
      rw [List.map_map]
      exact List.map_congr_left fun d _ => property_written d
    rw [applyStyle_eq, (read_applyDeclarations held plain).2, Declaration.map_property_putAll, properties]
    rwa [properties]

/-- A style attribute with separators in quotes and parentheses. -/
def quotedStyle : Page := .ofMarkup "<p style='--icon: url(a;b); color: red; CONTENT: \";:\"'></p>"

/-- A property that is there, one that is not, and one that the page does not support. -/
def mixedStyle : Style := .ofList [⟨"top", "calc((1px))"⟩, ⟨"color", " blue !important"⟩, ⟨"1st", "a"⟩]

theorem read_applyStyle_quotedStyle :
    (quotedStyle.applyStyle ⟨1⟩ mixedStyle).inlineProperty? ⟨1⟩ "color" = some "blue" ∧
      (quotedStyle.applyStyle ⟨1⟩ mixedStyle).inlineProperty? ⟨1⟩ "content" =
        quotedStyle.inlineProperty? ⟨1⟩ "content" ∧
      (read ((quotedStyle.applyStyle ⟨1⟩ mixedStyle).styleText ⟨1⟩)).map (·.property) =
        ["--icon", "color", "content", "top"] := by
  have closed : IsClosed (quotedStyle.styleText ⟨1⟩).toList := by decide +kernel
  have declarable : ∀ d ∈ mixedStyle.declarations, d.Declarable := by
    have all : ∀ d ∈ mixedStyle.declarations, (∀ c ∈ d.property.toList, c.isLower ∨ c.isDigit ∨ c = '-') ∧
        IsClosed d.value.toList ∧ splitTop? ';' {} d.value.toList = none := by decide +kernel
    exact fun d member => ⟨(all d member).1, (all d member).2.1, (all d member).2.2⟩
  obtain ⟨declared, kept, ordered⟩ := read_applyStyle closed declarable
  have color := (declared ⟨"color", " blue !important"⟩ (by decide +kernel) (by decide +kernel)).1
  have content := (kept "content" (by decide +kernel)).2
  exact ⟨color.trans (by decide +kernel), content, ordered.trans (by decide +kernel)⟩

end Page

end CosmeticRules
