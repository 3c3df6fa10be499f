import CosmeticRules.Proofs.Css.Printing
import CosmeticRules.Proofs.Selector.PrintedText

/-!
Texts in which everything that is opened is closed. The splits at the top level and the search for a closing
parenthesis go over such a text without a change of state, and every printed selector is such a text.
-/

namespace CosmeticRules.Css

open Text PlainText

/-- Characters that neither open nor close anything. -/
def isOrdinary (c : Char) : Bool := !(['\\', '"', '\'', '[', ']', '(', ')'].contains c)

/-- Texts in which everything that is opened is closed, with characters of one kind outside brackets,
parentheses and quotes. -/
inductive Nested : (Char → Bool) → List Char → Prop
  | nil {p} : Nested p []
  | plain {p c} (ordinary : isOrdinary c = true) (outside : p c = true) : Nested p [c]
  | quoted {p} (value : List Char) : Nested p (quoted value [])
  | bracketed {p q inner} (inside : Nested q inner) : Nested p ('[' :: (inner ++ [']']))
  | parenthesized {p q inner} (inside : Nested q inner) : Nested p ('(' :: (inner ++ [')']))
  | append {p s t} (first : Nested p s) (second : Nested p t) : Nested p (s ++ t)

variable {p q : Char → Bool} {s t text rest : List Char} {brackets parentheses : Nat}

theorem Nested.mono (nested : Nested p text) (weaker : ∀ c, p c = true → q c = true) : Nested q text := by
  induction nested with
  | nil => exact .nil
  | plain ordinary outside => exact .plain ordinary (weaker _ outside)
  | quoted value => exact .quoted value
  | bracketed inside => exact .bracketed inside
  | parenthesized inside => exact .parenthesized inside
  | append _ _ first second => exact .append (first weaker) (second weaker)

theorem Nested.of_plain (plain : ∀ c ∈ text, isOrdinary c = true ∧ p c = true) : Nested p text := by
  induction text with
  | nil => exact .nil
  | cons c rest ih =>
    obtain ⟨⟨ordinary, outside⟩, others⟩ := List.forall_mem_cons.mp plain
    exact .append (.plain ordinary outside) (ih others)

theorem ne_of_isOrdinary {c : Char} (ordinary : isOrdinary c = true) :
    c ≠ '\\' ∧ c ≠ '"' ∧ c ≠ '\'' ∧ c ≠ '[' ∧ c ≠ ']' ∧ c ≠ '(' ∧ c ≠ ')' := by
  simpa [isOrdinary] using ordinary

/-- What opens or closes something is told apart from a character by any test that none of it passes. -/
theorem isOrdinary_of_apart {c : Char} (apart : ∀ d ∈ ['\\', '"', '\'', '[', ']', '(', ')'], p d = false)
    (passes : p c = true) : isOrdinary c = true := by
  by_contra special
  rw [isOrdinary, Bool.not_eq_true', Bool.not_eq_false, List.contains_iff_mem] at special
  simp [apart c special] at passes

/-! Splits at the top level. -/

/-- Going over a text leads from one state to another, with no separator at the top level. -/
inductive Passes (separates : Char → Bool) : Nesting → List Char → Nesting → Prop
  | nil {s : Nesting} : Passes separates s [] s
  | cons {s between later : Nesting} {c : Char} {top : Bool} {rest : List Char} (fed : s.feed c = some (top, between))
      (joins : (top && separates c) = false) (more : Passes separates between rest later) :
      Passes separates s (c :: rest) later

section passes

variable {separates : Char → Bool} {a b c : Nesting}

theorem Passes.append (first : Passes separates a s b) (second : Passes separates b t c) :
    Passes separates a (s ++ t) c := by
  induction first with
  | nil => exact second
  | cons fed joins _ ih => exact .cons fed joins (ih second)

theorem Passes.single {d : Char} (fed : a.feed d = some (false, b)) : Passes separates a [d] b :=
  .cons fed (Bool.false_and _) .nil

/-- Inside quotes everything but the closing one is text. -/
theorem passes_escaped (value : List Char) :
    Passes separates ⟨brackets, parentheses, some '"', false⟩ (escaped value)
      ⟨brackets, parentheses, some '"', false⟩ := by
  induction value with
  | nil => exact .nil
  | cons c rest ih =>
    rw [escaped]
    split
    · have back : Passes separates ⟨brackets, parentheses, some '"', true⟩ (c :: escaped rest)
          ⟨brackets, parentheses, some '"', false⟩ := .cons (by simp [Nesting.feed]) (Bool.false_and _) ih
      exact .cons (by simp [Nesting.feed]) (Bool.false_and _) back
    · rename_i other
      obtain ⟨noEscape, noQuote⟩ := not_or.mp other
      exact .cons (by simp [Nesting.feed, noEscape, noQuote]) (Bool.false_and _) ih

theorem passes_quoted (value : List Char) :
    Passes separates ⟨brackets, parentheses, none, false⟩ (quoted value []) ⟨brackets, parentheses, none, false⟩ := by
  have opened : (⟨brackets, parentheses, none, false⟩ : Nesting).feed '"' =
      some (false, ⟨brackets, parentheses, some '"', false⟩) := rfl
  exact .cons opened (Bool.false_and _) ((passes_escaped value).append (.single rfl))

/-- A nested text leads back to the state before it. What may stand outside matters at the top level only. -/
theorem Nested.passes (nested : Nested p text)
    (joins : brackets = 0 ∧ parentheses = 0 → ∀ c, p c = true → separates c = false) :
    Passes separates ⟨brackets, parentheses, none, false⟩ text ⟨brackets, parentheses, none, false⟩ := by
  induction nested generalizing brackets parentheses with
  | nil => exact .nil
  | plain ordinary outside =>
    obtain ⟨h1, h2, h3, h4, h5, h6, h7⟩ := ne_of_isOrdinary ordinary
    refine .cons (by simp [Nesting.feed, h1, h2, h3, h4, h5, h6, h7]; rfl) ?_ .nil
    by_cases top : brackets = 0 ∧ parentheses = 0
    · rw [joins top _ outside, Bool.and_false]
    · rw [Bool.and_eq_false_iff, Bool.and_eq_false_iff, beq_eq_false_iff_ne, beq_eq_false_iff_ne]
      exact .inl (not_and_or.mp top)
  | quoted value => exact passes_quoted value
  | bracketed _ ih =>
    have opened : (⟨brackets, parentheses, none, false⟩ : Nesting).feed '[' =
        some (false, ⟨brackets + 1, parentheses, none, false⟩) := rfl
    exact .cons opened (Bool.false_and _) ((ih (by simp)).append (.single rfl))
  | parenthesized _ ih =>
    have opened : (⟨brackets, parentheses, none, false⟩ : Nesting).feed '(' =
        some (false, ⟨brackets, parentheses + 1, none, false⟩) := rfl
    exact .cons opened (Bool.false_and _) ((ih (by simp)).append (.single rfl))
  | append _ _ first second => exact (first joins).append (second joins)

theorem Nested.passes_top (nested : Nested p text) (joins : ∀ c, p c = true → separates c = false) :
    Passes separates {} text {} := nested.passes fun _ => joins

end passes

theorem groupsFrom_append {a b : Nesting} (passes : Passes (· == ',') a text b) (rest : List Char) :
    groupsFrom a (text ++ rest) = (groupsFrom b rest).map fun (first, more) => (text ++ first, more) := by
  induction passes with
  | nil => simp
  | cons fed joins _ ih =>
    simp only [List.cons_append, groupsFrom, fed, joins, ih, Option.map_map, Bool.false_eq_true, if_false]
    rfl

/-- Characters that end a part of a chain. -/
def endsPart (c : Char) : Bool := c == '>' || c == '+' || c == '~' || isBlank c

theorem partsFrom_append {a b : Nesting} (passes : Passes endsPart a text b) (rest : List Char) :
    partsFrom a (text ++ rest) = (partsFrom b rest).map fun (first, more) => (text ++ first, more) := by
  induction passes with
  | nil => simp
  | @cons _ _ _ c top _ fed joins _ ih =>
    rw [endsPart, Bool.and_or_distrib_left, Bool.or_eq_false_iff] at joins
    simp only [List.cons_append, partsFrom, fed, joins, ih, Option.map_map, Bool.false_eq_true, if_false]
    rfl

/-! The closing parenthesis of an argument. -/

/-- The search for the closing parenthesis goes over a text, from one state to another. -/
def Skips (a : Nesting) (text : List Char) (b : Nesting) : Prop :=
  ∀ rest, argumentFrom a (text ++ rest) = (argumentFrom b rest).map fun (body, after) => (text ++ body, after)

section skips

variable {a b c : Nesting}

theorem Skips.nil : Skips a [] a := fun rest => by simp

theorem Skips.append (first : Skips a s b) (second : Skips b t c) : Skips a (s ++ t) c := by
  intro rest
  rw [List.append_assoc, first, second, Option.map_map]
  refine congrArg (Option.map · (argumentFrom c rest)) ?_
  funext ⟨body, after⟩
  simp

theorem Skips.cons {d : Char} (kept : Skips a [d] b) (more : Skips b s c) : Skips a (d :: s) c := kept.append more

theorem skips_escaped (value : List Char) :
    Skips ⟨brackets, parentheses, some '"', false⟩ (escaped value) ⟨brackets, parentheses, some '"', false⟩ := by
  induction value with
  | nil => exact .nil
  | cons c rest ih =>
    rw [escaped]
    split
    · have back : Skips ⟨brackets, parentheses, some '"', true⟩ [c] ⟨brackets, parentheses, some '"', false⟩ :=
        fun _ => rfl
      have escape : Skips ⟨brackets, parentheses, some '"', false⟩ ['\\']
          ⟨brackets, parentheses, some '"', true⟩ := fun _ => rfl
      exact .cons escape (.cons back ih)
    · rename_i other
      obtain ⟨noEscape, noQuote⟩ := not_or.mp other
      refine .cons (fun more => ?_) ih
      rw [List.singleton_append, argumentFrom]
      simp [noEscape, noQuote]

theorem skips_quoted (value : List Char) :
    Skips ⟨brackets, parentheses, none, false⟩ (quoted value []) ⟨brackets, parentheses, none, false⟩ := by
  have opened : Skips ⟨brackets, parentheses, none, false⟩ ['"'] ⟨brackets, parentheses, some '"', false⟩ :=
    fun _ => rfl
  exact .cons opened ((skips_escaped value).append fun _ => rfl)

/-- Parentheses within brackets leave the state as it is. -/
theorem Nested.skips (nested : Nested p text) :
    Skips ⟨brackets, parentheses, none, false⟩ text ⟨brackets, parentheses, none, false⟩ := by
  induction nested generalizing brackets parentheses with
  | nil => exact .nil
  | plain ordinary _ =>
    intro rest
    obtain ⟨h1, h2, h3, h4, h5, h6, h7⟩ := ne_of_isOrdinary ordinary
    rw [List.singleton_append, argumentFrom]
    simp [h1, h2, h3, h4, h5, h6, h7]
  | quoted value => exact skips_quoted value
  | bracketed _ ih =>
    have opened : Skips ⟨brackets, parentheses, none, false⟩ ['['] ⟨brackets + 1, parentheses, none, false⟩ :=
      fun _ => rfl
    exact .cons opened (ih.append fun _ => rfl)
  | parenthesized _ ih =>
    cases brackets with
    | zero =>
      have opened : Skips ⟨0, parentheses, none, false⟩ ['('] ⟨0, parentheses + 1, none, false⟩ := fun _ => rfl
      exact .cons opened (ih.append fun _ => rfl)
    | succ brackets =>
      have same (c : Char) (listed : c = '(' ∨ c = ')') :
          Skips ⟨brackets + 1, parentheses, none, false⟩ [c] ⟨brackets + 1, parentheses, none, false⟩ := by
        rcases listed with rfl | rfl <;> exact fun _ => rfl
      exact .cons (same '(' (.inl rfl)) (ih.append (same ')' (.inr rfl)))
  | append _ _ first second => exact first.append second

end skips

/-- A nested text up to the parenthesis that closes it. -/
theorem Nested.argumentFrom_eq (nested : Nested p text) (rest : List Char) :
    argumentFrom {} (text ++ ')' :: rest) = some (text, rest) := by
  rw [nested.skips]
  simp [argumentFrom]

/-! Printed selectors. -/

/-- Characters that stand in a compound selector outside brackets and parentheses. -/
def isCompoundChar (c : Char) : Bool := !endsPart c && c != ','

/-- Characters that stand in a chain outside brackets and parentheses. -/
def isChainChar (c : Char) : Bool := c != ','

theorem isOrdinary_of_isPlainChar {c : Char} (plain : isPlainChar c = true) :
    isOrdinary c = true ∧ isCompoundChar c = true := by
  have both := forall_isPlainChar (p := fun c => isOrdinary c && isCompoundChar c) (by decide +kernel) plain
  simpa using both

theorem nested_plain (plain : ∀ c ∈ text, isPlainChar c = true) : Nested isCompoundChar text :=
  .of_plain fun c member => isOrdinary_of_isPlainChar (plain c member)

theorem isPlainChar_of_isDigit {c : Char} (digit : c.isDigit = true) : isPlainChar c = true := by
  simp [isPlainChar, Char.isAlphanum, digit]

theorem isDigit_of_mem_digits {n : Nat} {c : Char} (member : c ∈ Nat.toDigits 10 n) : c.isDigit = true :=
  Nat.isDigit_of_mem_toDigits (by decide) (by decide) member

theorem nested_digits (n : Nat) : Nested isCompoundChar (Nat.toDigits 10 n) :=
  nested_plain fun _ member => isPlainChar_of_isDigit (isDigit_of_mem_digits member)

theorem isIdentifier_iff {name : String} : isIdentifier name = true ↔
    ∃ c rest, name.toList = c :: rest ∧ c.isDigit = false ∧ ∀ d ∈ c :: rest, isPlainChar d = true := by
  unfold isIdentifier
  split
  · rename_i empty
    simp [empty]
  · rename_i c rest split
    simp only [split, Bool.and_eq_true, Bool.not_eq_true', List.all_eq_true, List.cons.injEq]
    exact ⟨fun named => ⟨c, rest, ⟨rfl, rfl⟩, named⟩, by rintro ⟨_, _, ⟨rfl, rfl⟩, named⟩; exact named⟩

theorem nested_identifier {name : String} (named : isIdentifier name = true) :
    Nested isCompoundChar name.toList := by
  obtain ⟨c, rest, split, _, plain⟩ := isIdentifier_iff.mp named
  exact split ▸ nested_plain plain

theorem nested_sign (operator : AttributeOperator) : Nested (fun _ => true) operator.sign := by
  cases operator <;> exact .of_plain (by decide)

theorem quoted_append (value rest : List Char) : quoted value rest = quoted value [] ++ rest := by
  simp [quoted]

theorem isOrdinary_of_isKeyChar {c : Char} (key : isKeyChar c = true) : isOrdinary c = true :=
  isOrdinary_of_apart (by decide) key

theorem isKeyChar_of_isLowerKeyChar {c : Char} (lower : isLowerKeyChar c = true) :
    isKeyChar c = true ∧ c.toLower = c := by
  rw [isLowerKeyChar, Bool.or_eq_true, beq_iff_eq, Bool.and_eq_true, Bool.not_eq_true'] at lower
  rcases lower with rfl | ⟨plain, lower⟩
  · decide
  · have all := forall_isPlainChar (p := fun c => c.isUpper || (isKeyChar c && c.toLower == c))
      (by decide +kernel) plain
    simpa [lower] using all

/-- The name of an attribute is read as such. -/
structure IsKey (key : String) : Prop where
  filled : key.toList ≠ []
  chars : ∀ c ∈ key.toList, isKeyChar c = true
  lower : asciiLower key.toList = key.toList

def AttributeTest.key : AttributeTest → String
  | has key => key
  | compare key _ _ _ => key

theorem AttributeTest.isKey {test : AttributeTest} (printable : test.isPrintable = true) : IsKey test.key := by
  have named {key : String} (printable : (!key.toList.isEmpty && key.toList.all isLowerKeyChar) = true) :
      IsKey key := by
    obtain ⟨filled, lower⟩ : key.toList ≠ [] ∧ ∀ c ∈ key.toList, isLowerKeyChar c = true := by
      simpa using printable
    refine ⟨filled, fun c member => (isKeyChar_of_isLowerKeyChar (lower c member)).1, ?_⟩
    exact (List.map_congr_left fun c member => (isKeyChar_of_isLowerKeyChar (lower c member)).2).trans (List.map_id _)
  cases test <;> exact named printable

theorem nested_inner {test : AttributeTest} (named : IsKey test.key) : Nested (fun _ => true) test.inner := by
  have key : Nested (fun _ => true) test.key.toList :=
    .of_plain fun c member => ⟨isOrdinary_of_isKeyChar (named.chars c member), rfl⟩
  cases test with
  | has name => exact key
  | compare name operator value ignoreCase =>
    have flagged : Nested (fun _ => true) (flag ignoreCase) := by
      cases ignoreCase <;> exact .of_plain (by decide)
    rw [AttributeTest.inner, quoted_append]
    exact (key.append (nested_sign operator)).append ((Nested.quoted _).append flagged)

theorem nested_applied {name : String} {argument : List Char} (plain : ∀ c ∈ name.toList, isPlainChar c = true)
    (nested : Nested p argument) : Nested isCompoundChar (applied name argument) := by
  have colon : Nested isCompoundChar [':'] := .of_plain (by decide)
  exact colon.append ((nested_plain plain).append (.parenthesized nested))

theorem isPlainChar_structuralName (pseudo : Structural) : ∀ c ∈ pseudo.name.toList, isPlainChar c = true := by
  cases pseudo <;> decide +kernel

theorem isPlainChar_countingName (counting : Counting) : ∀ c ∈ counting.name.toList, isPlainChar c = true := by
  cases counting <;> decide +kernel

theorem nested_signed (i : Int) : Nested (fun _ => true) (signed i) := by
  have digits := (nested_digits i.natAbs).mono (q := fun _ => true) fun _ _ => rfl
  have minus : Nested (fun _ => true) ['-'] := .of_plain (by decide)
  unfold signed
  split
  · exact minus.append digits
  · exact digits

theorem nested_formula (formula : Nth) : Nested (fun _ => true) formula.print := by
  have digits (n : Nat) : Nested (fun _ => true) (Nat.toDigits 10 n) :=
    (nested_digits n).mono fun _ _ => rfl
  cases formula with
  | exact position => exact digits position
  | odd => exact .of_plain (by decide)
  | even => exact .of_plain (by decide)
  | linear a b =>
    have middle : Nested (fun _ => true) ['n', if b.toInt < 0 then '-' else '+'] := by
      split <;> exact .of_plain (by decide)
    exact (nested_signed a.toInt).append (middle.append (digits b.toInt.natAbs))

theorem nested_combinator (combinator : Combinator) : Nested isChainChar combinator.print := by
  cases combinator <;> exact .of_plain (by decide)

theorem isChainChar_of_isCompoundChar (c : Char) (inside : isCompoundChar c = true) : isChainChar c = true :=
  (Bool.and_eq_true_iff.mp inside).2

mutual

theorem nested_simple (simple : Simple) (printable : simple.isPrintable = true) :
    Nested isCompoundChar simple.print := by
  match simple with
  | .universal => exact .of_plain (by decide)
  | .tag name => exact nested_identifier (Bool.and_eq_true_iff.mp printable).1
  | .id name =>
    have mark : Nested isCompoundChar ['#'] := .of_plain (by decide)
    exact mark.append (nested_identifier printable)
  | .className name =>
    have mark : Nested isCompoundChar ['.'] := .of_plain (by decide)
    exact mark.append (nested_identifier printable)
  | .attribute test => exact .bracketed (nested_inner (AttributeTest.isKey printable))
  | .structural pseudo =>
    have mark : Nested isCompoundChar [':'] := .of_plain (by decide)
    exact mark.append (nested_plain (isPlainChar_structuralName pseudo))
  | .nth counting formula => exact nested_applied (isPlainChar_countingName counting) (nested_formula formula)
  | .isAny alternatives =>
    exact nested_applied (by decide +kernel) (nested_printList alternatives (Bool.and_eq_true_iff.mp printable).2)
  | .whereAny alternatives =>
    exact nested_applied (by decide +kernel) (nested_printList alternatives (Bool.and_eq_true_iff.mp printable).2)
  | .notAny alternatives =>
    exact nested_applied (by decide +kernel) (nested_printList alternatives (Bool.and_eq_true_iff.mp printable).2)

theorem nested_compound (compound : List Simple) (printable : areSimplesPrintable compound = true) :
    Nested isCompoundChar (printCompound compound) := by
  match compound with
  | [] => exact .nil
  | simple :: rest =>
    obtain ⟨first, others⟩ := Bool.and_eq_true_iff.mp printable
    exact (nested_simple simple first).append (nested_compound rest others)

theorem nested_chain (chain : Chain) (printable : chain.isPrintable = true) :
    Nested isChainChar chain.print := by
  match chain with
  | .single compound =>
    obtain ⟨_, simples⟩ := Bool.and_eq_true_iff.mp printable
    exact (nested_compound compound simples).mono isChainChar_of_isCompoundChar
  | .link before combinator compound =>
    obtain ⟨earlier, last⟩ := Bool.and_eq_true_iff.mp printable
    obtain ⟨_, simples⟩ := Bool.and_eq_true_iff.mp last
    have last := (nested_compound compound simples).mono isChainChar_of_isCompoundChar
    exact (nested_chain before earlier).append ((nested_combinator combinator).append last)

theorem nested_printList (chains : List Chain) (printable : areChainsPrintable chains = true) :
    Nested (fun _ => true) (printList chains) := by
  match chains with
  | [] => exact .nil
  | chain :: rest =>
    obtain ⟨first, others⟩ := Bool.and_eq_true_iff.mp printable
    exact ((nested_chain chain first).mono fun _ _ => rfl).append (nested_printMore rest others)

theorem nested_printMore (chains : List Chain) (printable : areChainsPrintable chains = true) :
    Nested (fun _ => true) (printMore chains) := by
  match chains with
  | [] => exact .nil
  | chain :: rest =>
    obtain ⟨first, others⟩ := Bool.and_eq_true_iff.mp printable
    have separator : Nested (fun _ => true) [',', ' '] := .of_plain (by decide)
    have more := ((nested_chain chain first).mono (q := fun _ => true) fun _ _ => rfl).append
      (nested_printMore rest others)
    exact separator.append more

end

end CosmeticRules.Css
