import CosmeticRules.Page.InlineStyle
import CosmeticRules.Proofs.Text.Trim

/-!
Declarations that can be written to a style attribute and read back: their quotes and parentheses are
closed, and no separator stands outside them.
-/

namespace CosmeticRules

namespace InlineStyle

open Text

namespace Openings

/-- What is open after a text. -/
def feedAll (o : Openings) (s : List Char) : Openings := s.foldl feed o

@[simp] theorem feedAll_nil (o : Openings) : o.feedAll [] = o := rfl

@[simp] theorem feedAll_cons (o : Openings) (c : Char) (s : List Char) :
    o.feedAll (c :: s) = (o.feed c).feedAll s := rfl

theorem feedAll_append (o : Openings) (s t : List Char) :
    o.feedAll (s ++ t) = (o.feedAll s).feedAll t := List.foldl_append

end Openings

/-- A text that leaves nothing open, without these separators outside quotes and parentheses. -/
structure Sealed (separators : List Char) (s : List Char) : Prop where
  closed : Openings.feedAll {} s = {}
  free : ∀ separator ∈ separators, splitTop? separator {} s = none

theorem splitTop?_append {separator : Char} {o : Openings} {s : List Char}
    (free : splitTop? separator o s = none) (t : List Char) :
    splitTop? separator o (s ++ t) =
      (splitTop? separator (o.feedAll s) t).map fun (before, after) => (s ++ before, after) := by
  induction s generalizing o with
  | nil => simp
  | cons c rest ih =>
    rw [splitTop?] at free
    split at free
    · simp at free
    · rename_i other
      rw [Option.map_eq_none_iff] at free
      rw [List.cons_append, splitTop?, if_neg other, ih free, Option.map_map]
      rfl

theorem splitTop?_append_eq_none {separator : Char} {s t : List Char}
    (first : splitTop? separator {} s = none) (closed : Openings.feedAll {} s = {})
    (second : splitTop? separator {} t = none) : splitTop? separator {} (s ++ t) = none := by
  rw [splitTop?_append first, closed, second]
  rfl

theorem Sealed.append {separators : List Char} {s t : List Char} (first : Sealed separators s)
    (second : Sealed separators t) : Sealed separators (s ++ t) where
  closed := by rw [Openings.feedAll_append, first.closed, second.closed]
  free := fun separator member =>
    splitTop?_append_eq_none (first.free separator member) first.closed (second.free separator member)

theorem Sealed.mono {separators fewer : List Char} {s : List Char} (held : Sealed separators s)
    (subset : fewer ⊆ separators) : Sealed fewer s where
  closed := held.closed
  free := fun separator member => held.free separator (subset member)

theorem partsFrom_append {separator : Char} {o : Openings} {s : List Char}
    (free : splitTop? separator o s = none) (t : List Char) :
    partsFrom separator o (s ++ t) =
      (s ++ (partsFrom separator (o.feedAll s) t).1, (partsFrom separator (o.feedAll s) t).2) := by
  induction s generalizing o with
  | nil => rfl
  | cons c rest ih =>
    rw [splitTop?] at free
    split at free
    · simp at free
    · rename_i other
      rw [Option.map_eq_none_iff] at free
      rw [List.cons_append, partsFrom]
      simp only [ih free, other, if_false, Bool.false_eq_true, List.cons_append]
      rfl

/-- The parts of a text between semicolons. -/
def parts (s : List Char) : List (List Char) := (partsFrom ';' {} s).1 :: (partsFrom ';' {} s).2

theorem read_eq_foldl_parts (text : String) : read text = (parts text.toList).foldl addPart [] := rfl

theorem parts_append_semicolon {s : List Char} (held : Sealed [';'] s) (t : List Char) :
    parts (s ++ ';' :: t) = s :: parts t := by
  have step : partsFrom ';' {} (';' :: t) = ([], parts t) := rfl
  rw [parts, partsFrom_append (held.free ';' List.mem_cons_self), held.closed, step, List.append_nil]

/-- A blank at the start of a text belongs to the first part. -/
theorem foldl_parts_blank (s : List Char) :
    (parts (' ' :: s)).foldl addPart [] = (parts s).foldl addPart [] := by
  have step : partsFrom ';' {} (' ' :: s) = (' ' :: (partsFrom ';' {} s).1, (partsFrom ';' {} s).2) := rfl
  have dropped : ∀ part, addPart [] (' ' :: part) = addPart [] part := by
    intro part
    rw [addPart, declaration?, trim_blank_cons rfl]
    rfl
  rw [parts, step, List.foldl_cons, dropped]
  rfl

end InlineStyle

open InlineStyle Text

/-- A declaration whose text is read back as it was written, but for blanks around the value. -/
structure Declaration.Writable (d : Declaration) : Prop where
  named : d.property ≠ ""
  trimmed : trim d.property.toList = d.property.toList
  lower : asciiLower d.property.toList = d.property.toList
  property : Sealed [':', ';'] d.property.toList
  value : Sealed [';'] d.value.toList

namespace Declaration

/-- The text of a declaration with a blank before it. -/
def part (d : Declaration) : List Char := ' ' :: d.property.toList ++ ':' :: ' ' :: d.value.toList

/-- A declaration without blanks around its value. -/
def tidy (d : Declaration) : Declaration := ⟨d.property, trimText d.value⟩

theorem Writable.sealed_part {d : Declaration} (writable : d.Writable) : Sealed [';'] d.part := by
  have blank : Sealed [';'] [' '] := ⟨rfl, by simp [splitTop?, Openings.isTop]⟩
  have colon : Sealed [';'] [':', ' '] := ⟨rfl, by simp [splitTop?, Openings.isTop]⟩
  have property : Sealed [';'] d.property.toList := writable.property.mono (by simp)
  have whole := ((blank.append property).append colon).append writable.value
  simpa [part] using whole

theorem Writable.declaration?_part {d : Declaration} (writable : d.Writable) :
    declaration? d.part = some d.tidy := by
  rcases eq_nil_or_dark_of_trim writable.trimmed with none | ⟨c, rest, same, dark, _⟩
  · exact absurd (String.toList_eq_nil_iff.mp none) writable.named
  · have trimmedPart : trim d.part = d.property.toList ++ ':' :: trimEnd (' ' :: d.value.toList) := by
      rw [part, List.cons_append, trim_blank_cons rfl, same, ← List.nil_append (c :: rest),
        List.append_assoc, List.cons_append, trim_append_cons (by simp) dark,
        trimEnd_append_cons rfl]
      rfl
    have split : splitTop? ':' {} (trim d.part) =
        some (d.property.toList, trimEnd (' ' :: d.value.toList)) := by
      rw [trimmedPart, splitTop?_append (writable.property.free ':' (by simp)),
        writable.property.closed]
      simp [splitTop?, Openings.isTop]
    rw [declaration?, split]
    simp only [writable.trimmed, writable.lower, List.isEmpty_iff, String.toList_eq_nil_iff,
      writable.named, if_false, String.ofList_toList, trim_trimEnd, trim_blank_cons (c := ' ') rfl]
    rfl

theorem put_of_fresh {property : String} (value : String) {declarations : List Declaration}
    (fresh : property ∉ declarations.map (·.property)) :
    put property value declarations = declarations ++ [⟨property, value⟩] := by
  induction declarations with
  | nil => rfl
  | cons d rest ih =>
    simp only [List.map_cons, List.mem_cons, not_or] at fresh
    rw [put, if_neg (Ne.symm fresh.1), ih fresh.2]
    rfl

theorem foldl_addPart {declarations done : List Declaration}
    (writable : ∀ d ∈ declarations, d.Writable)
    (distinct : ((done ++ declarations).map (·.property)).Nodup) :
    (declarations.map part).foldl addPart done = done ++ declarations.map tidy := by
  induction declarations generalizing done with
  | nil => simp
  | cons d rest ih =>
    rw [List.forall_mem_cons] at writable
    have fresh : d.property ∉ done.map (·.property) := by
      rw [List.map_append, List.nodup_append] at distinct
      intro old
      exact distinct.2.2 _ old _ (by simp) rfl
    have step : addPart done d.part = done ++ [d.tidy] := by
      rw [addPart, writable.1.declaration?_part]
      exact put_of_fresh _ fresh
    rw [List.map_cons, List.foldl_cons, step, ih writable.2 (by simpa [tidy] using distinct)]
    simp

theorem forall_put {P : Declaration → Prop} {declarations : List Declaration}
    (old : ∀ d ∈ declarations, P d) {property value : String} (new : P ⟨property, value⟩) :
    ∀ d ∈ put property value declarations, P d := by
  induction declarations with
  | nil => simpa [put] using new
  | cons d rest ih =>
    rw [List.forall_mem_cons] at old
    rw [put]
    split
    · exact List.forall_mem_cons.mpr ⟨new, old.2⟩
    · exact List.forall_mem_cons.mpr ⟨old.1, ih old.2⟩

theorem nodup_put {declarations : List Declaration}
    (distinct : (declarations.map (·.property)).Nodup) (property value : String) :
    ((put property value declarations).map (·.property)).Nodup :=
  (Style.insert ⟨declarations, distinct⟩ property value).distinct

theorem map_tidy_put (property value : String) (declarations : List Declaration) :
    (put property value declarations).map tidy =
      put property (trimText value) (declarations.map tidy) := by
  induction declarations with
  | nil => rfl
  | cons d rest ih =>
    by_cases same : d.property = property
    · simp [put, same, tidy]
    · simpa [put, same, tidy] using ih

theorem find?_put (property value : String) (declarations : List Declaration) (other : String) :
    (put property value declarations).find? (·.property == other) =
      if property = other then some ⟨property, value⟩
      else declarations.find? (·.property == other) := by
  induction declarations with
  | nil =>
    by_cases same : property = other <;> simp [put, same]
  | cons d rest ih =>
    by_cases here : d.property = property
    · by_cases same : property = other
      · simp [put, here, same]
      · simp [put, here, same]
    · by_cases same : property = other
      · subst same
        simpa [put, here] using ih
      · simp only [put, here, if_false, List.find?_cons, ih, same]

/-- Declares properties in turn. -/
def putAll (new declarations : List Declaration) : List Declaration :=
  new.foldl (fun held d => put d.property d.value held) declarations

theorem putAll_append (new more declarations : List Declaration) :
    putAll (new ++ more) declarations = putAll more (putAll new declarations) := List.foldl_append

@[simp] theorem putAll_singleton (d : Declaration) (declarations : List Declaration) :
    putAll [d] declarations = put d.property d.value declarations := rfl

/-- The last declaration of a property counts. -/
theorem find?_putAll (new declarations : List Declaration) (property : String) :
    (putAll new declarations).find? (·.property == property) =
      (new.reverse.find? (·.property == property)).or (declarations.find? (·.property == property)) := by
  induction new using List.reverseRecOn with
  | nil => rfl
  | append_singleton rest last ih =>
    rw [putAll_append, putAll_singleton, List.reverse_append, List.reverse_singleton, List.singleton_append,
      find?_put, ih]
    by_cases same : last.property = property
    · subst same
      simp
    · simp [same]

/-- Properties that are declared already keep their places, and new ones follow. -/
theorem map_property_putAll {new : List Declaration} (distinct : (new.map (·.property)).Nodup)
    (declarations : List Declaration) :
    (putAll new declarations).map (·.property) = declarations.map (·.property) ++
      (new.map (·.property)).filter fun property => !(declarations.map (·.property)).contains property := by
  induction new generalizing declarations with
  | nil => simp [putAll]
  | cons d rest ih =>
    obtain ⟨fresh, distinct⟩ := List.nodup_cons.mp distinct
    show (putAll rest (put d.property d.value declarations)).map _ = _
    rw [ih distinct, map_property_put, List.map_cons, List.filter_cons]
    by_cases known : d.property ∈ declarations.map (·.property)
    · rw [if_pos known]
      simp [known]
    · have others : (rest.map (·.property)).filter (fun property =>
            !(declarations.map (·.property) ++ [d.property]).contains property) =
          (rest.map (·.property)).filter fun property => !(declarations.map (·.property)).contains property := by
        refine List.filter_congr fun property member => ?_
        have other : property ≠ d.property := by
          rintro rfl
          exact fresh member
        simp [other]
      rw [if_neg known, others, List.append_assoc]
      simp [known]

end Declaration

namespace InlineStyle

theorem tidy_of_declaration? {part : List Char} {d : Declaration} (found : declaration? part = some d) :
    d.tidy = d := by
  unfold declaration? at found
  split at found
  · simp at found
  · simp only [] at found
    split at found
    · simp at found
    · obtain rfl := Option.some.inj found
      simp [Declaration.tidy, trimText, trim_trim]

theorem toList_write_cons (d : Declaration) (rest : List Declaration) :
    ' ' :: (write (d :: rest)).toList = (d :: rest).flatMap fun d => d.part ++ [';'] := by
  induction rest generalizing d with
  | nil => simp [write, Declaration.part, ToString.toString]
  | cons e rest ih =>
    rw [List.flatMap_cons, ← ih]
    simp [write, Declaration.part, ToString.toString]

theorem parts_flatMap {declarations : List Declaration}
    (writable : ∀ d ∈ declarations, d.Writable) :
    parts (declarations.flatMap fun d => d.part ++ [';']) = declarations.map (·.part) ++ [[]] := by
  induction declarations with
  | nil => rfl
  | cons d rest ih =>
    rw [List.forall_mem_cons] at writable
    rw [List.flatMap_cons, List.append_assoc, List.singleton_append,
      parts_append_semicolon writable.1.sealed_part, ih writable.2]
    rfl

/-- Declarations of different properties are read back as they were written. -/
theorem read_write {declarations : List Declaration} (writable : ∀ d ∈ declarations, d.Writable)
    (distinct : (declarations.map (·.property)).Nodup) :
    read (write declarations) = declarations.map (·.tidy) := by
  cases declarations with
  | nil => rfl
  | cons d rest =>
    rw [read_eq_foldl_parts, ← foldl_parts_blank, toList_write_cons, parts_flatMap writable,
      List.foldl_append, Declaration.foldl_addPart writable (by simpa using distinct)]
    rfl

/-- What is read from a style text declares each property once, with no blanks around the values. -/
theorem read_spec (text : String) :
    ((read text).map (·.property)).Nodup ∧ ∀ d ∈ read text, d.tidy = d := by
  rw [read_eq_foldl_parts]
  suffices kept : ∀ (all : List (List Char)) (done : List Declaration),
      (done.map (·.property)).Nodup → (∀ d ∈ done, d.tidy = d) →
      ((all.foldl addPart done).map (·.property)).Nodup ∧ ∀ d ∈ all.foldl addPart done, d.tidy = d from
    kept _ [] List.nodup_nil (by simp)
  intro all
  induction all with
  | nil => exact fun done distinct tidied => ⟨distinct, tidied⟩
  | cons part rest ih =>
    intro done distinct tidied
    rw [List.foldl_cons]
    cases found : declaration? part with
    | none =>
      rw [addPart, found]
      exact ih done distinct tidied
    | some d =>
      rw [addPart, found]
      exact ih _ (Declaration.nodup_put distinct _ _)
        (Declaration.forall_put tidied (tidy_of_declaration? found))

/-- Declaring a property anew in a style text of writable declarations changes just this one. -/
theorem read_write_put {text property value : String}
    (writable : ∀ d ∈ read text, d.Writable) (new : (⟨property, value⟩ : Declaration).Writable) :
    read (write (Declaration.put property value (read text))) =
      Declaration.put property (trimText value) (read text) := by
  obtain ⟨distinct, tidied⟩ := read_spec text
  rw [read_write (Declaration.forall_put writable new) (Declaration.nodup_put distinct _ _),
    Declaration.map_tidy_put, List.map_congr_left tidied, List.map_id']

end InlineStyle

end CosmeticRules
