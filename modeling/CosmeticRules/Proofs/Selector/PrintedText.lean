import CosmeticRules.Proofs.Selector.Printing
import CosmeticRules.Proofs.Text.Search
import CosmeticRules.Proofs.Text.Trim
import CosmeticRules.Selector.LegacyForm
import CosmeticRules.Selector.Token
import Mathlib.Data.List.Basic

/-!
The characters of printed selectors: how they are split into tokens, and that no older spelling occurs
among them.
-/

namespace CosmeticRules

namespace PlainText

theorem point_of_isPlainChar {c : Char} (named : isPlainChar c = true) :
    48 ≤ c.val.toNat ∧ c.val.toNat ≤ 122 ∨ c.val.toNat = 45 := by
  have ranges : isPlainChar c = (((decide (c.val ≥ 65 ∧ c.val ≤ 90) ||
      (decide (c.val ≥ 97) && decide (c.val ≤ 122))) ||
      (decide (c.val ≥ 48) && decide (c.val ≤ 57))) || c == '-' || c == '_') := rfl
  simp only [ranges, Bool.or_eq_true, Bool.and_eq_true, decide_eq_true_eq, beq_iff_eq, ge_iff_le,
    UInt32.le_iff_toNat_le] at named
  rcases named with ((((upper | lower) | digit) | rfl) | rfl)
  · change 65 ≤ c.val.toNat ∧ c.val.toNat ≤ 90 at upper
    omega
  · change 97 ≤ c.val.toNat ∧ c.val.toNat ≤ 122 at lower
    omega
  · change 48 ≤ c.val.toNat ∧ c.val.toNat ≤ 57 at digit
    omega
  · exact Or.inr rfl
  · exact Or.inl (by decide)

theorem isPlainChar_of_letter {c : Char} (letter : c.isUpper = true ∨ c.isLower = true) :
    isPlainChar c = true := by
  have alpha : c.isAlpha = true := Bool.or_eq_true_iff.mpr letter
  simp [isPlainChar, Char.isAlphanum, alpha]

/-- What is true of the plain characters is seen by going over the first 128 characters. -/
theorem forall_isPlainChar {p : Char → Bool}
    (all : ((List.range 128).map Char.ofNat).all (fun c => !isPlainChar c || p c) = true) {c : Char}
    (plain : isPlainChar c = true) : p c = true := by
  have low : c.toNat < 128 := by
    have point := point_of_isPlainChar plain
    change c.val.toNat < 128
    omega
  have member : c ∈ (List.range 128).map Char.ofNat :=
    List.mem_map.mpr ⟨c.toNat, List.mem_range.mpr low, Char.ofNat_toNat c⟩
  simpa [plain] using List.all_eq_true.mp all c member

theorem isSelectorMark_of_isPlainChar {c : Char} (named : isPlainChar c = true) :
    isSelectorMark c = false := by
  simpa using forall_isPlainChar (p := fun c => !isSelectorMark c) (by decide +kernel) named

theorem isBlank_of_isPlainChar {c : Char} (named : isPlainChar c = true) : Text.isBlank c = false := by
  simpa using forall_isPlainChar (p := fun c => !Text.isBlank c) (by decide +kernel) named

/-- The characters of complex selectors. -/
def isTextChar (c : Char) : Bool := isPlainChar c || ['*', '.', '#', ' ', '>', '+', '~'].contains c

/-- The characters with which printed parts end. -/
def isEnd (c : Char) : Bool := isPlainChar c || c == '*' || c == ')'

theorem isTextChar_of_isPlainChar {c : Char} (named : isPlainChar c = true) : isTextChar c = true := by
  rw [isTextChar, named, Bool.true_or]

theorem isEnd_of_isPlainChar {c : Char} (named : isPlainChar c = true) : isEnd c = true := by
  rw [isEnd, named, Bool.true_or, Bool.true_or]

theorem isBlank_of_isEnd {c : Char} (ends : isEnd c = true) : Text.isBlank c = false := by
  simp only [isEnd, Bool.or_eq_true, beq_iff_eq] at ends
  rcases ends with (named | rfl) | rfl
  · exact isBlank_of_isPlainChar named
  · decide
  · decide

/-- The characters with which compounds begin. -/
def isStart (c : Char) : Bool := isPlainChar c || c == '*' || c == '.' || c == '#'

theorem isBlank_of_isStart {c : Char} (starts : isStart c = true) : Text.isBlank c = false := by
  simp only [isStart, Bool.or_eq_true, beq_iff_eq] at starts
  rcases starts with ((named | rfl) | rfl) | rfl
  · exact isBlank_of_isPlainChar named
  · decide
  · decide
  · decide

/-- A text of these characters that ends as printed parts do. -/
structure IsText (s : List Char) : Prop where
  filled : s ≠ []
  chars : ∀ c ∈ s, isTextChar c = true
  last : ∀ c, s.getLast? = some c → isEnd c = true

theorem IsWord.text {s : List Char} (word : IsWord s) : IsText s where
  filled := word.1
  chars := fun c member => isTextChar_of_isPlainChar (word.2 c member)
  last := fun c last => isEnd_of_isPlainChar (word.2 c (List.mem_of_getLast? last))

theorem IsText.cons {s : List Char} (text : IsText s) {c : Char} (plain : isTextChar c = true) :
    IsText (c :: s) where
  filled := List.cons_ne_nil c s
  chars := List.forall_mem_cons.mpr ⟨plain, text.chars⟩
  last := by
    intro d last
    rw [List.getLast?_cons_of_ne_nil text.filled] at last
    exact text.last d last

theorem IsText.append {s t : List Char} (first : IsText s) (second : IsText t) : IsText (s ++ t) where
  filled := List.append_ne_nil_of_left_ne_nil first.filled t
  chars := List.forall_mem_append.mpr ⟨first.chars, second.chars⟩
  last := by
    intro c last
    rw [List.getLast?_append_of_ne_nil _ second.filled] at last
    exact second.last c last

theorem IsQualifiers.text {s : List Char} (qualifiers : IsQualifiers s) : s = [] ∨ IsText s := by
  induction qualifiers with
  | none => exact Or.inl rfl
  | @more mark word rest marked named _ ih =>
    have plain : isTextChar mark = true := by rcases marked with rfl | rfl <;> decide
    rcases ih with rfl | text
    · exact Or.inr (by simpa using named.text.cons plain)
    · exact Or.inr ((named.text.append text).cons plain)

theorem IsCompound.text {s : List Char} (compound : IsCompound s) : IsText s := by
  cases compound with
  | @tag word rest named qualifiers =>
    rcases qualifiers.text with rfl | text
    · simpa using named.text
    · exact named.text.append text
  | @any rest qualifiers =>
    have star : IsText ['*'] := ⟨by decide, by decide, by decide⟩
    rcases qualifiers.text with rfl | text
    · exact star
    · exact text.cons (by decide)
  | qualified qualifiers filled => exact qualifiers.text.resolve_left filled

theorem IsWord.start {s : List Char} (word : IsWord s) (t : List Char) :
    ∃ c rest, s ++ t = c :: rest ∧ isStart c = true := by
  obtain ⟨c, rest, rfl⟩ := List.exists_cons_of_ne_nil word.1
  exact ⟨c, rest ++ t, rfl, by rw [isStart, word.2 c List.mem_cons_self]; rfl⟩

theorem IsCompound.start {s : List Char} (compound : IsCompound s) (t : List Char) :
    ∃ c rest, s ++ t = c :: rest ∧ isStart c = true := by
  cases compound with
  | tag named qualifiers =>
    rw [List.append_assoc]
    exact named.start _
  | @any rest qualifiers => exact ⟨'*', rest ++ t, rfl, by decide⟩
  | qualified qualifiers filled =>
    cases qualifiers with
    | none => exact absurd rfl filled
    | @more mark word rest marked named qualifiers =>
      refine ⟨mark, word ++ rest ++ t, by simp, ?_⟩
      rcases marked with rfl | rfl <;> decide

theorem IsComplex.start {s : List Char} (complex : IsComplex s) (t : List Char) :
    ∃ c rest, s ++ t = c :: rest ∧ isStart c = true := by
  cases complex with
  | single compound => exact compound.start t
  | descendant compound =>
    rw [List.append_assoc]
    exact compound.start _
  | combined compound =>
    rw [List.append_assoc]
    exact compound.start _

theorem isTextChar_of_mem_signs {sign : Char} (member : sign ∈ signs) : isTextChar sign = true := by
  revert sign
  decide

theorem IsComplex.text {s : List Char} (complex : IsComplex s) : IsText s := by
  induction complex with
  | single compound => exact compound.text
  | descendant compound _ ih => exact compound.text.append (ih.cons (by decide))
  | combined compound combinator _ ih =>
    exact compound.text.append
      (((ih.cons (by decide)).cons (isTextChar_of_mem_signs combinator)).cons (by decide))

theorem IsRegular.text {led : Bool} {s : List Char} (regular : IsRegular led s) : IsText s := by
  cases regular with
  | plain complex => exact complex.text
  | led combinator complex =>
    exact (complex.text.cons (by decide)).cons (isTextChar_of_mem_signs combinator)

/-! No older spelling occurs in printed selectors. -/

/-- The pseudo-classes of printed selectors. -/
def printedPseudos : List PseudoClass := .has :: .abpHas :: SelectorTree.wordPseudos

/-- A text without an attribute condition, in which every colon is followed by the name of a pseudo-class and
a parenthesis, and none stands at the start of an argument. -/
def IsCurrent : List Char → Prop
  | [] => True
  | c :: rest =>
    c ≠ '[' ∧ (c = '(' → rest.head? ≠ some ':') ∧
      (c = ':' → ∃ pseudo ∈ printedPseudos, pseudo.name.toList ++ ['('] <+: rest) ∧ IsCurrent rest

theorem IsCurrent.append {s t : List Char} (first : IsCurrent s) (second : IsCurrent t)
    (apart : t.head? ≠ some ':' ∨ s.getLast? ≠ some '(') : IsCurrent (s ++ t) := by
  induction s with
  | nil => exact second
  | cons c rest ih =>
    obtain ⟨unbracketed, argument, named, current⟩ := first
    refine ⟨unbracketed, ?_, ?_, ih current ?_⟩
    · intro opening
      cases rest with
      | nil =>
        refine apart.resolve_right ?_
        simp [opening]
      | cons d more => exact argument opening
    · intro colon
      obtain ⟨pseudo, member, start⟩ := named colon
      exact ⟨pseudo, member, start.trans (List.prefix_append _ _)⟩
    · cases rest with
      | nil => exact Or.inr (by simp)
      | cons d more => simpa using apart

theorem IsCurrent.suffix {s t : List Char} (current : IsCurrent (s ++ t)) : IsCurrent t := by
  induction s with
  | nil => exact current
  | cons c rest ih => exact ih current.2.2.2

theorem isCurrent_of_plain {s : List Char} (plain : ∀ c ∈ s, c ≠ '[' ∧ c ≠ '(' ∧ c ≠ ':') :
    IsCurrent s := by
  induction s with
  | nil => trivial
  | cons c rest ih =>
    obtain ⟨⟨unbracketed, notOpening, notColon⟩, others⟩ := List.forall_mem_cons.mp plain
    exact ⟨unbracketed, fun opening => absurd opening notOpening, fun colon => absurd colon notColon,
      ih others⟩

theorem IsCurrent.unbracketed {s : List Char} (current : IsCurrent s) : '[' ∉ s := by
  induction s with
  | nil => exact List.not_mem_nil
  | cons c rest ih => exact List.not_mem_cons_of_ne_of_not_mem (Ne.symm current.1) (ih current.2.2.2)

/-- A pseudo-class before its argument. -/
theorem IsCurrent.named {pseudo : PseudoClass} (member : pseudo ∈ printedPseudos) {s : List Char}
    (current : IsCurrent s) (start : s.head? ≠ some ':') :
    IsCurrent (':' :: pseudo.name.toList ++ '(' :: s) := by
  have opened : IsCurrent ('(' :: s) :=
    ⟨by decide, fun _ => start, fun colon => absurd colon (by decide), current⟩
  have letters : ∀ other ∈ printedPseudos, ∀ c ∈ other.name.toList, c ≠ '[' ∧ c ≠ '(' ∧ c ≠ ':' := by
    decide
  have named := (isCurrent_of_plain (letters pseudo member)).append opened (Or.inl (by simp))
  refine ⟨by decide, fun opening => absurd opening (by decide), fun _ => ⟨pseudo, member, ?_⟩, named⟩
  exact ⟨s, by simp⟩

/-- The print of a pseudo-class with its argument. -/
theorem IsCurrent.pseudo {pseudo : PseudoClass} (member : pseudo ∈ printedPseudos) {s : List Char}
    (current : IsCurrent s) (start : s.head? ≠ some ':') :
    IsCurrent (':' :: pseudo.name.toList ++ '(' :: s ++ [')']) := by
  have closed : IsCurrent (s ++ [')']) :=
    current.append (isCurrent_of_plain (by decide)) (Or.inl (by decide))
  have head : (s ++ [')']).head? ≠ some ':' := by
    cases s with
    | nil => decide
    | cons c rest => simpa using start
  simpa using IsCurrent.named member closed head

end PlainText

namespace LegacyForm

open PlainText Text

theorem condition?_eq_none {s : List Char} (other : ¬opening <+: s) : condition? s = none := by
  have start : afterStart? opening s = none := by
    refine Option.eq_none_iff_forall_not_mem.mpr fun after found => other ?_
    rw [Option.mem_def, afterStart?_eq_some_iff] at found
    exact found ▸ List.prefix_append opening after
  rw [condition?, start]

theorem replaceConditions_cons {c : Char} {rest : List Char} (none : condition? (c :: rest) = none) :
    replaceConditions (c :: rest) = c :: replaceConditions rest := by
  rw [replaceConditions]
  split
  · rename_i found
    rw [none] at found
    cases found
  · rfl

theorem replaceConditions_of_absent {s : List Char} (absent : ¬opening <:+: s) : replaceConditions s = s := by
  induction s with
  | nil => rw [replaceConditions]; rfl
  | cons c rest ih =>
    rw [replaceConditions_cons (condition?_eq_none fun start => absent start.isInfix),
      ih fun inside => absent (List.infix_cons inside)]

theorem foldl_replaceAll_of_absent {pairs : List (String × String)} {s : List Char}
    (absent : ∀ pair ∈ pairs, ¬pair.1.toList <:+: s) :
    pairs.foldl (fun text pair => replaceAll pair.1.toList pair.2.toList text) s = s := by
  induction pairs with
  | nil => rfl
  | cons pair rest ih =>
    obtain ⟨here, others⟩ := List.forall_mem_cons.mp absent
    rw [List.foldl_cons, replaceAll_of_absent _ here]
    exact ih others

theorem replaceShorthands_of_absent {s : List Char}
    (absent : ∀ pair ∈ shorthands, ¬pair.1.toList <:+: s) : replaceShorthands s = s :=
  foldl_replaceAll_of_absent absent

/-- A text without older spellings and without blanks around it is its own normal form. -/
theorem normalize_of_absent {s : List Char} (conditions : ¬opening <:+: s)
    (longer : ∀ pair ∈ shorthands, ¬pair.1.toList <:+: s) (trimmed : trim s = s) :
    normalize (String.ofList s) = .ok s := by
  have none : occursIn opening s = false := Bool.eq_false_iff.mpr fun found => conditions (occursIn_iff.mp found)
  rw [normalize, String.toList_ofList, trimmed, replaceConditions_of_absent conditions,
    replaceShorthands_of_absent longer]
  simp only [none, Bool.false_eq_true, if_false]

/-- None of the longer spellings begins in a text in the current spelling. -/
theorem not_prefix_of_isCurrent {s t : List Char} (current : IsCurrent s) {pair : String × String}
    (member : pair ∈ shorthands) (filled : s ≠ []) (apart : t.head? ≠ some ':' ∨ s.getLast? ≠ some '(') :
    ¬pair.1.toList <+: s ++ t := by
  obtain ⟨c, rest, rfl⟩ := List.exists_cons_of_ne_nil filled
  obtain ⟨_, argument, named, _⟩ := current
  intro start
  have styled : ∀ pseudo ∈ printedPseudos, ∀ kind ∈ ["matches-css-before(", "matches-css-after("],
      ¬pseudo.name.toList ++ ['('] <+: kind.toList ∧ ¬kind.toList <+: pseudo.name.toList ++ ['('] := by
    decide
  have unstyled : ∀ kind ∈ ["matches-css-before(", "matches-css-after("], c = ':' →
      ¬kind.toList <+: rest ++ t := by
    intro kind known colon other
    obtain ⟨pseudo, printed, name⟩ := named colon
    obtain ⟨shorter, longer⟩ := styled pseudo printed kind known
    rcases List.prefix_or_prefix_of_prefix (name.trans (List.prefix_append rest t)) other with inside | inside
    · exact shorter inside
    · exact longer inside
  simp only [shorthands, List.mem_cons, List.not_mem_nil, or_false] at member
  rcases member with rfl | rfl | rfl
  · obtain ⟨opening, scope⟩ :=
      List.cons_prefix_cons.mp (show '(' :: ":scope >".toList <+: c :: (rest ++ t) from start)
    obtain ⟨after, same⟩ := scope
    cases rest with
    | nil =>
      refine apart.elim (fun other => other ?_) (fun other => other ?_)
      · rw [List.nil_append] at same
        exact same ▸ rfl
      · exact opening ▸ rfl
    | cons d more =>
      obtain rfl : ':' = d := (List.cons.inj same).1
      exact argument opening.symm rfl
  · obtain ⟨colon, before⟩ :=
      List.cons_prefix_cons.mp (show ':' :: "matches-css-before(".toList <+: c :: (rest ++ t) from start)
    exact unstyled _ (by decide) colon.symm before
  · obtain ⟨colon, after⟩ :=
      List.cons_prefix_cons.mp (show ':' :: "matches-css-after(".toList <+: c :: (rest ++ t) from start)
    exact unstyled _ (by decide) colon.symm after

/-- A text in the current spelling is kept, whatever comes after it. -/
theorem replaceAll_append_of_isCurrent {s : List Char} (current : IsCurrent s) {pair : String × String}
    (member : pair ∈ shorthands) {t : List Char} (apart : t.head? ≠ some ':' ∨ s.getLast? ≠ some '(') :
    replaceAll pair.1.toList pair.2.toList (s ++ t) = s ++ replaceAll pair.1.toList pair.2.toList t := by
  refine replaceAll_append _ ?_
  rintro before after rfl filled
  rw [List.getLast?_append_of_ne_nil _ filled] at apart
  exact not_prefix_of_isCurrent current.suffix member filled apart

theorem absent_of_isCurrent {s : List Char} (current : IsCurrent s) {pair : String × String}
    (member : pair ∈ shorthands) : ¬pair.1.toList <:+: s := by
  rintro ⟨before, after, rfl⟩
  have filled : ∀ pair ∈ shorthands, pair.1.toList ≠ [] := by decide
  rw [List.append_assoc] at current
  have inside := current.suffix
  refine not_prefix_of_isCurrent (t := []) inside member ?_ (Or.inl (by decide)) ?_
  · exact List.append_ne_nil_of_left_ne_nil (filled pair member) after
  · rw [List.append_nil]
    exact List.prefix_append _ _

theorem opening_absent {s : List Char} (unbracketed : '[' ∉ s) : ¬opening <:+: s := fun inside =>
  unbracketed (inside.subset List.mem_cons_self)

/-- A text in the current spelling without blanks around it is its own normal form. -/
theorem normalize_of_isCurrent {s : List Char} (current : IsCurrent s) (trimmed : trim s = s) :
    normalize (String.ofList s) = .ok s :=
  normalize_of_absent (opening_absent current.unbracketed)
    (fun _ member => absent_of_isCurrent current member) trimmed

end LegacyForm

namespace SelectorTree

open PlainText

theorem printList_cons (value : String) (rest others : List SelectorTree) :
    printList false (.node .selector (.leaf (.regular value) :: rest) :: others) =
      value.toList ++ (printParts true rest ++ printList true others) := by
  rw [← List.append_assoc]
  rfl

theorem printList_continued {selectors : List SelectorTree} (filled : selectors ≠ []) :
    printList true selectors = ',' :: ' ' :: printList false selectors := by
  obtain ⟨selector, rest, rfl⟩ := List.exists_cons_of_ne_nil filled
  rfl

theorem printParts_regular (value : String) (rest : List SelectorTree) :
    printParts true (.leaf (.regular value) :: rest) = ' ' :: (value.toList ++ printParts true rest) := rfl

theorem printParts_absolute (pseudo : PseudoClass) (argument : String) (rest : List SelectorTree) :
    printParts true (.node .extended [.leaf (.absolute pseudo argument)] :: rest) =
      (':' :: pseudo.name.toList ++ '(' :: argument.toList ++ [')']) ++ printParts true rest := by
  simp [printParts, print, leaf, isRegular, toClass, kind, NodeKind.toClass]

theorem printParts_relative (pseudo : PseudoClass) (selectors rest : List SelectorTree) :
    printParts true (.node .extended [.node (.relative pseudo) [.node .selectorList selectors]] :: rest) =
      (':' :: pseudo.name.toList ++ '(' :: printList false selectors ++ [')']) ++ printParts true rest := by
  simp [printParts, print, isRegular, toClass, kind, NodeKind.toClass]

end SelectorTree

namespace PlainText

/-- A printed text so far. -/
structure IsPrinted (s : List Char) : Prop where
  current : IsCurrent s
  last : ∀ c, s.getLast? = some c → isEnd c = true

theorem IsPrinted.nil : IsPrinted [] := ⟨trivial, by simp⟩

theorem IsPrinted.append {s t : List Char} (first : IsPrinted s) (second : IsPrinted t) :
    IsPrinted (s ++ t) where
  current := first.current.append second.current <| Or.inr fun opening =>
    absurd (first.last _ opening) (by decide)
  last := by
    intro c last
    rcases List.eq_nil_or_concat t with rfl | ⟨init, d, rfl⟩
    · exact first.last c (by simpa using last)
    · exact second.last c (by simpa [← List.append_assoc] using last)

theorem ne_of_isTextChar {c : Char} (plain : isTextChar c = true) : c ≠ '[' ∧ c ≠ '(' ∧ c ≠ ':' := by
  refine ⟨?_, ?_, ?_⟩ <;> rintro rfl <;> exact absurd plain (by decide)

theorem IsText.printed {s : List Char} (text : IsText s) : IsPrinted s where
  current := isCurrent_of_plain fun c member => ne_of_isTextChar (text.chars c member)
  last := text.last

theorem IsPrinted.pseudo {pseudo : PseudoClass} (member : pseudo ∈ printedPseudos) {s : List Char}
    (current : IsCurrent s) (start : s.head? ≠ some ':') :
    IsPrinted (':' :: pseudo.name.toList ++ '(' :: s ++ [')']) where
  current := current.pseudo member start
  last := by
    intro c last
    rw [List.getLast?_concat] at last
    obtain rfl := Option.some.inj last
    decide

theorem IsPrinted.cons {s : List Char} (printed : IsPrinted s) (filled : s ≠ []) {c : Char}
    (plain : c ≠ '[' ∧ c ≠ '(' ∧ c ≠ ':') : IsPrinted (c :: s) where
  current := ⟨plain.1, fun opening => absurd opening plain.2.1, fun colon => absurd colon plain.2.2,
    printed.current⟩
  last := by
    intro d last
    rw [List.getLast?_cons_of_ne_nil filled] at last
    exact printed.last d last

theorem isCurrent_of_isArgument {s : List Char} (argument : IsArgument s) :
    IsCurrent s ∧ s.head? ≠ some ':' := by
  have plain : ∀ c ∈ s, c ≠ '[' ∧ c ≠ '(' ∧ c ≠ ':' := by
    intro c member
    rcases argument c member with named | rfl | rfl
    · exact ne_of_isTextChar (isTextChar_of_isPlainChar named)
    · decide
    · decide
  refine ⟨isCurrent_of_plain plain, fun colon => ?_⟩
  exact (plain ':' (List.mem_of_head? colon)).2.2 rfl

end PlainText

namespace SelectorTree

open PlainText

theorem IsPlainRow.exists_cons {isArgument : Bool} {selectors : List SelectorTree}
    (plain : IsPlainRow (.selectors isArgument) selectors) :
    ∃ value rest others, IsRegular isArgument value.toList ∧
      selectors = .node .selector (.leaf (.regular value) :: rest) :: others := by
  cases plain with
  | last text => exact ⟨_, _, _, text, rfl⟩
  | next text => exact ⟨_, _, _, text, rfl⟩

theorem IsPlainRow.head_printList {isArgument : Bool} {selectors : List SelectorTree}
    (plain : IsPlainRow (.selectors isArgument) selectors) :
    ∃ c rest, printList false selectors = c :: rest ∧ isTextChar c = true := by
  obtain ⟨value, rest, others, text, rfl⟩ := plain.exists_cons
  obtain ⟨c, more, same⟩ := List.exists_cons_of_ne_nil text.text.filled
  refine ⟨c, more ++ (printParts true rest ++ printList true others), ?_, ?_⟩
  · rw [printList_cons, same]
    rfl
  · exact text.text.chars c (same ▸ List.mem_cons_self)

/-- What is printed for a row of selectors, without a comma before them, or for a row of parts. -/
def printRow : Row → List SelectorTree → List Char
  | .selectors _, row => printList false row
  | .parts _, row => printParts true row

theorem isPrinted_printRow {row : Row} {trees : List SelectorTree} (plain : IsPlainRow row trees) :
    IsPrinted (printRow row trees) := by
  induction plain with
  | last text _ parts =>
    rw [printRow, printList_cons]
    exact text.text.printed.append (parts.append .nil)
  | next text _ others parts selectors =>
    obtain ⟨c, rest, same, _⟩ := others.head_printList
    have filled : printList false _ ≠ [] := same ▸ List.cons_ne_nil c rest
    have continued := (selectors.cons filled (c := ' ') (by decide)).cons (List.cons_ne_nil _ _)
      (c := ',') (by decide)
    obtain ⟨_, _, _, _, rfl⟩ := others.exists_cons
    rw [printRow, printList_cons, printList_continued (List.cons_ne_nil _ _)]
    exact text.text.printed.append (parts.append continued)
  | nothing => exact .nil
  | regular text _ parts =>
    rw [printRow, printParts_regular]
    exact (text.text.printed.append parts).cons (List.append_ne_nil_of_left_ne_nil text.text.filled _)
      (by decide)
  | absolute named text _ parts =>
    obtain ⟨current, start⟩ := isCurrent_of_isArgument text
    rw [printRow, printParts_absolute]
    exact (IsPrinted.pseudo (by simp [printedPseudos, named]) current start).append parts
  | @relative _ pseudo selectors _ named inside _ printed parts =>
    have member : pseudo ∈ printedPseudos := by
      revert named
      cases pseudo <;> decide
    have start : (printList false selectors).head? ≠ some ':' := by
      obtain ⟨c, rest, same, plain⟩ := inside.head_printList
      rw [same]
      exact fun colon => (ne_of_isTextChar plain).2.2 (Option.some.inj colon)
    rw [printRow, printParts_relative]
    exact (IsPrinted.pseudo member printed.current start).append parts

/-- What is printed for a tree that can be read again is in the current spelling already. -/
theorem normalize_print {selectors : List SelectorTree} (plain : IsPlainRow (.selectors false) selectors) :
    LegacyForm.normalize (String.ofList (printList false selectors)) = .ok (printList false selectors) := by
  have printed : IsPrinted (printList false selectors) := isPrinted_printRow plain
  refine LegacyForm.normalize_of_isCurrent printed.current (Text.trim_of_ends ?_ ?_)
  · intro c first
    obtain ⟨value, rest, others, text, rfl⟩ := plain.exists_cons
    cases text with
    | plain complex =>
      obtain ⟨d, more, same, starts⟩ := complex.start (printParts true rest ++ printList true others)
      rw [printList_cons, same] at first
      obtain rfl := Option.some.inj first
      exact isBlank_of_isStart starts
  · exact fun c last => isBlank_of_isEnd (printed.last c last)

end SelectorTree

end CosmeticRules
