import CosmeticRules.Proofs.Css.ReadFormula

/-!
Every printed simple selector is read again, also with others after it, as long as the arguments of its
pseudo-class are.
-/

namespace CosmeticRules.Css

open Text PlainText

variable {readGroups : List Char → Except Unsupported (List Chain)} {whole rest : List Char}

/-! Names. -/

/-- No name goes on with the text. -/
def EndsName (rest : List Char) : Prop := ∀ c, rest.head? = some c → isNameChar c = false ∧ c ≠ '\\'

theorem nameFrom_cons {c : Char} (noEscape : c ≠ '\\') (s : List Char) : nameFrom (c :: s) =
    if isNameChar c then (nameFrom s).map fun (name, after) => (c :: name, after) else some ([], c :: s) := by
  rw [nameFrom.eq_3 _ _ fun _ _ first => absurd first noEscape, if_neg noEscape]

theorem isNameChar_of_isPlainChar {c : Char} (plain : isPlainChar c = true) : isNameChar c = true :=
  forall_isPlainChar (p := isNameChar) (by decide +kernel) plain

theorem ne_of_isNameChar {c d : Char} (named : isNameChar c = true) (other : isNameChar d = false) : c ≠ d := by
  rintro rfl
  simp [named] at other

theorem nameFrom_append {name : List Char} (named : ∀ c ∈ name, isNameChar c = true) (ends : EndsName rest) :
    nameFrom (name ++ rest) = some (name, rest) := by
  induction name with
  | nil =>
    cases rest with
    | nil => rfl
    | cons c rest =>
      obtain ⟨other, noEscape⟩ := ends c rfl
      rw [List.nil_append, nameFrom_cons noEscape, other]
      rfl
  | cons c name ih =>
    obtain ⟨first, others⟩ := List.forall_mem_cons.mp named
    rw [List.cons_append, nameFrom_cons (ne_of_isNameChar first (by decide)), if_pos first, ih others]
    rfl

/-- A word that is read as a name. -/
def IsName (name : String) : Prop :=
  ∃ c rest, name.toList = c :: rest ∧ c.isDigit = false ∧ ∀ d ∈ c :: rest, isNameChar d = true

theorem isName_of_isIdentifier {name : String} (identifier : isIdentifier name = true) : IsName name := by
  obtain ⟨c, tail, split, letter, plain⟩ := isIdentifier_iff.mp identifier
  exact ⟨c, tail, split, letter, fun d member => isNameChar_of_isPlainChar (plain d member)⟩

theorem name?_append {name : String} (named : IsName name) (ends : EndsName rest) :
    name? (name.toList ++ rest) = some (name.toList, rest) := by
  obtain ⟨c, tail, split, letter, named⟩ := named
  rw [split, name?, nameFrom_append named ends]
  simp [letter]

theorem name?_identifier {name : String} (named : isIdentifier name = true) (ends : EndsName rest) :
    name? (name.toList ++ rest) = some (name.toList, rest) := name?_append (isName_of_isIdentifier named) ends

/-! Tests of attributes. -/

theorem valueFrom_cons {quote : Option Char} {c : Char} (noEscape : c ≠ '\\') (s : List Char) :
    valueFrom quote (c :: s) =
      if quote = some c then some ([], s)
      else if quote = none ∧ (isBlank c ∨ c = ']') then some ([], c :: s)
      else (valueFrom quote s).map fun (value, after) => (c :: value, after) := by
  rw [valueFrom.eq_3 _ _ _ fun _ _ first => absurd first noEscape, if_neg noEscape]

theorem valueFrom_escaped (value rest : List Char) :
    valueFrom (some '"') (escaped value ++ '"' :: rest) = some (value, rest) := by
  induction value with
  | nil => rfl
  | cons c value ih =>
    rw [escaped]
    split
    · rw [List.cons_append, List.cons_append, valueFrom, ih]
      rfl
    · rename_i other
      obtain ⟨noEscape, noQuote⟩ := not_or.mp other
      rw [List.cons_append, valueFrom_cons noEscape, ih]
      simp [Ne.symm noQuote]

theorem skipBlanks_cons {c : Char} (dark : isAsciiBlank c = false) (s : List Char) : skipBlanks (c :: s) = c :: s := by
  simp [skipBlanks, dark]

/-- The operator, the value and the flag of a test. -/
theorem comparison?_print (rest : List Char) (key : String) (operator : AttributeOperator) (value : String)
    (ignoreCase : Bool) :
    comparison? key (operator.sign ++ quoted value.toList (flag ignoreCase ++ ']' :: rest)) =
      some (.compare key operator value ignoreCase, rest) := by
  have read : operator? (operator.sign ++ quoted value.toList (flag ignoreCase ++ ']' :: rest)) =
      some (operator, quoted value.toList (flag ignoreCase ++ ']' :: rest)) := by
    cases operator <;> rfl
  have quotes : value? (skipBlanks (quoted value.toList (flag ignoreCase ++ ']' :: rest))) =
      some (value.toList, flag ignoreCase ++ ']' :: rest) := by
    rw [quoted, skipBlanks_cons (by decide), value?, if_pos (.inl rfl), valueFrom_escaped]
  simp only [comparison?, read, quotes, String.ofList_toList]
  cases ignoreCase <;> rfl

theorem isAsciiBlank_of_isKeyChar {c : Char} (key : isKeyChar c = true) : isAsciiBlank c = false := by
  by_contra blank
  rw [Bool.not_eq_false] at blank
  have all : ∀ d ∈ [' ', '\t', '\n', '\r', '\x0c'], isKeyChar d = false := by decide
  have listed : c ∈ [' ', '\t', '\n', '\r', '\x0c'] := by
    simpa [isAsciiBlank, or_assoc] using blank
  simp [all c listed] at key

/-- A key and the text after it, which does not go on with the key. -/
theorem attributeTest?_append {key : String} (named : IsKey key) {c : Char} (other : isKeyChar c = false)
    (dark : isAsciiBlank c = false) (s : List Char) :
    attributeTest? (key.toList ++ c :: s) =
      if c = ']' then some (.has key, s) else comparison? key (c :: s) := by
  have unskipped : skipBlanks (key.toList ++ c :: s) = key.toList ++ c :: s := by
    obtain ⟨d, tail, split⟩ := List.exists_cons_of_ne_nil named.filled
    rw [split]
    exact skipBlanks_cons (isAsciiBlank_of_isKeyChar (named.chars d (split ▸ List.mem_cons_self))) _
  have taken : (key.toList ++ c :: s).takeWhile isKeyChar = key.toList := by
    rw [List.takeWhile_append_of_pos named.chars]
    simp [other]
  have dropped : (key.toList ++ c :: s).dropWhile isKeyChar = c :: s := by
    rw [List.dropWhile_append_of_pos named.chars]
    simp [other]
  have filled : key.isEmpty = false := by
    simpa using named.filled
  simp only [attributeTest?, unskipped, taken, dropped, named.lower, String.ofList_toList, filled, Bool.false_eq_true,
    if_false, skipBlanks_cons dark]
  split
  · rename_i first
    obtain ⟨rfl, rfl⟩ := List.cons.inj first
    rw [if_pos rfl]
  · rename_i first
    rw [if_neg fun same => first s (congrArg (· :: s) same)]

theorem attributeTest?_print {test : AttributeTest} (named : IsKey test.key) :
    attributeTest? (test.inner ++ ']' :: rest) = some (test, rest) := by
  cases test with
  | has name =>
    have named : IsKey name := named
    rw [AttributeTest.inner, attributeTest?_append named (by decide) (by decide), if_pos rfl]
  | compare name operator value ignoreCase =>
    have named : IsKey name := named
    have text : AttributeTest.inner (.compare name operator value ignoreCase) ++ ']' :: rest =
        name.toList ++ (operator.sign ++ quoted value.toList (flag ignoreCase ++ ']' :: rest)) := by
      simp [AttributeTest.inner, quoted]
    obtain ⟨c, sign, split, other, dark, noEnd⟩ : ∃ c sign, operator.sign = c :: sign ∧ isKeyChar c = false ∧
        isAsciiBlank c = false ∧ c ≠ ']' := by
      cases operator <;> exact ⟨_, _, rfl, by decide, by decide, by decide⟩
    have compared := comparison?_print rest name operator value ignoreCase
    rw [text]
    rw [split] at compared ⊢
    rw [List.cons_append, attributeTest?_append named other dark, if_neg noEnd, ← List.cons_append, compared]

/-! Texts that trimming leaves as they are. -/

/-- A text that neither begins nor ends with a blank, and is not empty. -/
structure Solid (s : List Char) : Prop where
  first : ∃ c rest, s = c :: rest ∧ isBlank c = false
  last : ∃ init c, s = init ++ [c] ∧ isBlank c = false

namespace Solid

variable {s t : List Char}

theorem ne_nil (solid : Solid s) : s ≠ [] := by
  obtain ⟨c, rest, rfl, _⟩ := solid.first
  exact List.cons_ne_nil c rest

theorem trim_eq (solid : Solid s) : trim s = s := by
  obtain ⟨c, rest, begins, first⟩ := solid.first
  obtain ⟨init, d, ends, last⟩ := solid.last
  refine trim_of_ends (fun e is => ?_) fun e is => ?_
  · rw [begins, List.head?_cons] at is
    exact Option.some.inj is ▸ first
  · rw [ends, List.getLast?_concat] at is
    exact Option.some.inj is ▸ last

theorem append (first : Solid s) (second : Solid t) (middle : List Char) : Solid (s ++ (middle ++ t)) where
  first := by
    obtain ⟨c, rest, rfl, dark⟩ := first.first
    exact ⟨c, _, rfl, dark⟩
  last := by
    obtain ⟨init, c, rfl, dark⟩ := second.last
    exact ⟨s ++ (middle ++ init), c, by simp, dark⟩

theorem single {c : Char} (dark : isBlank c = false) : Solid [c] := ⟨⟨c, [], rfl, dark⟩, ⟨[], c, rfl, dark⟩⟩

theorem enclosed {c d : Char} (first : isBlank c = false) (last : isBlank d = false) (middle : List Char) :
    Solid (c :: (middle ++ [d])) := (single first).append (single last) middle

theorem of_dark (filled : s ≠ []) (dark : ∀ c ∈ s, isBlank c = false) : Solid s where
  first := by
    obtain ⟨c, rest, rfl⟩ := List.exists_cons_of_ne_nil filled
    exact ⟨c, rest, rfl, dark c List.mem_cons_self⟩
  last := by
    obtain ⟨init, c, rfl⟩ := List.eq_nil_or_concat' s |>.resolve_left filled
    exact ⟨init, c, rfl, dark c (by simp)⟩

theorem of_plain (filled : s ≠ []) (plain : ∀ c ∈ s, isPlainChar c = true) : Solid s :=
  of_dark filled fun c member => isBlank_of_isPlainChar (plain c member)

theorem identifier {name : String} (named : isIdentifier name = true) : Solid name.toList := by
  obtain ⟨c, rest, split, _, plain⟩ := isIdentifier_iff.mp named
  exact split ▸ of_plain (List.cons_ne_nil c rest) plain

theorem applied (name : String) (argument : List Char) : Solid (applied name argument) := by
  have text : Css.applied name argument = ':' :: ((name.toList ++ '(' :: argument) ++ [')']) := by simp [Css.applied]
  exact text ▸ enclosed (by decide) (by decide) _

end Solid

theorem isIdentifier_structuralName (pseudo : Structural) : isIdentifier pseudo.name = true := by
  cases pseudo <;> decide +kernel

theorem solid_simple {simple : Simple} (printable : simple.isPrintable = true) : Solid simple.print := by
  cases simple with
  | universal => exact .single (by decide)
  | tag name => exact .identifier (Bool.and_eq_true_iff.mp printable).1
  | id name => exact (Solid.single (c := '#') (by decide)).append (.identifier printable) []
  | className name => exact (Solid.single (c := '.') (by decide)).append (.identifier printable) []
  | «attribute» test => exact .enclosed (by decide) (by decide) _
  | structural pseudo =>
    exact (Solid.single (c := ':') (by decide)).append (.identifier (isIdentifier_structuralName pseudo)) []
  | nth | isAny | whereAny | notAny => exact .applied _ _

theorem solid_compound {compound : List Simple} (filled : compound ≠ [])
    (printable : areSimplesPrintable compound = true) : Solid (printCompound compound) := by
  induction compound with
  | nil => exact absurd rfl filled
  | cons simple rest ih =>
    obtain ⟨first, others⟩ := Bool.and_eq_true_iff.mp printable
    have solid := solid_simple first
    cases rest with
    | nil => simpa [printCompound] using solid
    | cons next rest => exact solid.append (ih (List.cons_ne_nil _ _) others) []

theorem solid_chain (chain : Chain) (printable : chain.isPrintable = true) : Solid chain.print := by
  have compound {simples : List Simple} (printable : (isCompound simples && areSimplesPrintable simples) = true) :
      Solid (printCompound simples) := by
    obtain ⟨shape, simples⟩ := Bool.and_eq_true_iff.mp printable
    refine solid_compound ?_ simples
    rintro rfl
    simp [isCompound] at shape
  induction chain using Chain.induct with
  | single simples => exact compound printable
  | link before combinator simples ih =>
    obtain ⟨earlier, last⟩ := Bool.and_eq_true_iff.mp printable
    exact (ih earlier).append (compound last) _

theorem solid_printMore {s : List Char} (solid : Solid s) {chains : List Chain}
    (printable : areChainsPrintable chains = true) : Solid (s ++ printMore chains) := by
  induction chains generalizing s with
  | nil => simpa [printMore] using solid
  | cons chain rest ih =>
    obtain ⟨first, others⟩ := Bool.and_eq_true_iff.mp printable
    have text : s ++ printMore (chain :: rest) = s ++ ([',', ' '] ++ chain.print) ++ printMore rest := by
      simp [printMore]
    exact text ▸ ih (solid.append (solid_chain chain first) _) others

theorem solid_printList {chains : List Chain} (filled : chains ≠ []) (printable : areChainsPrintable chains = true) :
    Solid (printList chains) := by
  obtain ⟨chain, rest, rfl⟩ := List.exists_cons_of_ne_nil filled
  obtain ⟨first, others⟩ := Bool.and_eq_true_iff.mp printable
  exact solid_printMore (solid_chain chain first) others

theorem solid_digits (n : Nat) : Solid (Nat.toDigits 10 n) :=
  .of_plain Nat.toDigits_ne_nil fun _ member => isPlainChar_of_isDigit (isDigit_of_mem_digits member)

theorem solid_formula (formula : Nth) : Solid formula.print := by
  cases formula with
  | exact position => exact solid_digits position
  | odd => exact .of_plain (by decide) (by decide)
  | even => exact .of_plain (by decide) (by decide)
  | linear a b =>
    have factor : Solid (signed a.toInt) := by
      unfold signed
      split
      · exact (Solid.single (c := '-') (by decide)).append (solid_digits _) []
      · exact solid_digits _
    exact factor.append (solid_digits _) ['n', if b.toInt < 0 then '-' else '+']

/-! Simple selectors. -/

/-- The text begins a further simple selector, or is at its end. -/
def StartsSimple (rest : List Char) : Prop := ∀ c, rest.head? = some c → c ∈ ['#', '.', '[', ':']

theorem StartsSimple.endsName (starts : StartsSimple rest) : EndsName rest := by
  intro c is
  have all : ∀ c ∈ ['#', '.', '[', ':'], isNameChar c = false ∧ c ≠ '\\' := by decide
  exact all c (starts c is)

theorem StartsSimple.head?_ne (starts : StartsSimple rest) : rest.head? ≠ some '(' :=
  fun is => absurd (starts '(' is) (by decide)

/-- Lists of chains whose print is shorter than the bound are read. -/
def Reads (readGroups : List Char → Except Unsupported (List Chain)) (bound : Nat) : Prop :=
  ∀ chains, chains ≠ [] → areChainsPrintable chains = true → (printList chains).length < bound →
    readGroups (printList chains) = .ok chains

theorem pseudo_structural (pseudo : Structural) (starts : StartsSimple rest) :
    Css.pseudo readGroups whole (pseudo.name.toList ++ rest) = .ok (.structural pseudo, rest) := by
  have lower : asciiLower pseudo.name.toList = pseudo.name.toList := by cases pseudo <;> decide +kernel
  have found : Structural.all.find? (·.name == pseudo.name) = some pseudo := by cases pseudo <;> decide +kernel
  rw [Css.pseudo, name?_identifier (isIdentifier_structuralName pseudo) starts.endsName]
  simp only [lower, String.ofList_toList, if_neg starts.head?_ne, found]

theorem pseudo_applied {name : String} {argument : List Char} {p : Char → Bool} (named : isIdentifier name = true)
    (lower : asciiLower name.toList = name.toList) (nested : Nested p argument) (solid : Solid argument) :
    pseudo readGroups whole (name.toList ++ '(' :: (argument ++ ')' :: rest)) =
      (functional readGroups whole name argument).map fun simple => (simple, rest) := by
  have ends : EndsName ('(' :: (argument ++ ')' :: rest)) := by
    rintro c is
    obtain rfl := Option.some.inj is
    decide
  have filled : argument.isEmpty = false := List.isEmpty_eq_false_iff.mpr solid.ne_nil
  rw [pseudo, name?_identifier named ends]
  simp only [lower, String.ofList_toList, List.head?_cons, if_true, List.drop_one, List.tail_cons,
    nested.argumentFrom_eq, solid.trim_eq, filled, Bool.false_eq_true, if_false]

theorem functional_nth (counting : Counting) {formula : Nth} (printable : formula.isPrintable = true) :
    functional readGroups whole counting.name formula.print = .ok (.nth counting formula) := by
  have found : Counting.all.find? (·.name == counting.name) = some counting := by cases counting <;> decide +kernel
  have other : (counting.name == "not") = false ∧ (counting.name == "is" || counting.name == "matches") = false ∧
      (counting.name == "where") = false := by cases counting <;> decide +kernel
  simp only [functional, other, Bool.false_eq_true, if_false, found, Nth.read?_print printable]

theorem lower_of_not_isUpper {name : String} (upper : name.toList.any Char.isUpper = false) :
    asciiLower name.toList = name.toList := by
  refine (List.map_congr_left fun c member => ?_).trans (List.map_id _)
  have small : c.isUpper = false := (Bool.not_eq_true _).mp (List.any_eq_false.mp upper c member)
  exact dif_neg (of_decide_eq_false small)

theorem simple_tag {name : String} (named : IsName name) (lower : asciiLower name.toList = name.toList)
    (starts : StartsSimple rest) :
    ∃ c tail, name.toList ++ rest = c :: tail ∧ simple readGroups whole [] c tail = .ok (.tag name, rest) := by
  have read := name?_append named starts.endsName
  obtain ⟨c, tail, split, _, chars⟩ := named
  refine ⟨c, tail ++ rest, by rw [split, List.cons_append], ?_⟩
  have mark {d : Char} (other : isNameChar d = false) : c ≠ d := ne_of_isNameChar (chars c List.mem_cons_self) other
  have marks : c ≠ '*' ∧ c ≠ '#' ∧ c ≠ '.' ∧ c ≠ '[' ∧ c ≠ ':' :=
    ⟨mark (by decide), mark (by decide), mark (by decide), mark (by decide), mark (by decide)⟩
  rw [split, List.cons_append] at read
  simp only [simple, marks, if_false, List.isEmpty_nil, Bool.not_true, Bool.false_eq_true, read, Option.map_some,
    ← split, lower, String.ofList_toList]

theorem simple_test {test : AttributeTest} {done : List Simple} (named : IsKey test.key) :
    ∃ tail, (Simple.attribute test).print ++ rest = '[' :: tail ∧
      simple readGroups whole done '[' tail = .ok (.attribute test, rest) := by
  refine ⟨test.inner ++ ']' :: rest, by simp [Simple.print], ?_⟩
  simp [simple, attributeTest?_print named]

/-- A pseudo-class whose argument is a list of chains. -/
theorem pseudo_alternatives {name : String} {make : List Chain → Simple} {alternatives : List Chain} {bound : Nat}
    (named : isIdentifier name = true) (lower : asciiLower name.toList = name.toList)
    (does : ∀ argument, functional readGroups whole name argument = (readGroups argument).map make)
    (printable : (!alternatives.isEmpty && areChainsPrintable alternatives) = true) (reads : Reads readGroups bound)
    (short : (applied name (printList alternatives)).length ≤ bound) :
    pseudo readGroups whole (name.toList ++ '(' :: (printList alternatives ++ ')' :: rest)) =
      .ok (make alternatives, rest) := by
  obtain ⟨filled, printable⟩ := Bool.and_eq_true_iff.mp printable
  have filled : alternatives ≠ [] := by simpa using filled
  have shorter : (printList alternatives).length < bound := by
    refine Nat.lt_of_lt_of_le ?_ short
    simp [applied]
    omega
  rw [pseudo_applied named lower (nested_printList alternatives printable) (solid_printList filled printable), does,
    reads alternatives filled printable shorter]
  rfl

theorem applied_append (name : String) (argument rest : List Char) :
    applied name argument ++ rest = ':' :: (name.toList ++ '(' :: (argument ++ ')' :: rest)) := by
  simp [applied]

/-- The print of a simple selector is read as that selector. -/
theorem simple_print {next : Simple} {done : List Simple} {bound : Nat} (printable : next.isPrintable = true)
    (leads : next.isLeading = true → done = []) (only : isId next = true → done.any isId = false)
    (starts : StartsSimple rest) (reads : Reads readGroups bound) (short : next.print.length ≤ bound) :
    ∃ c tail, next.print ++ rest = c :: tail ∧ simple readGroups whole done c tail = .ok (next, rest) := by
  cases next with
  | universal => exact ⟨'*', rest, rfl, by rw [leads rfl]; rfl⟩
  | tag name =>
    obtain ⟨named, lower⟩ := Bool.and_eq_true_iff.mp printable
    rw [leads rfl]
    exact simple_tag (isName_of_isIdentifier named) (lower_of_not_isUpper (by simpa using lower)) starts
  | id name =>
    refine ⟨'#', name.toList ++ rest, rfl, ?_⟩
    simp [simple, only rfl, name?_identifier printable starts.endsName]
  | className name =>
    refine ⟨'.', name.toList ++ rest, rfl, ?_⟩
    simp [simple, name?_identifier printable starts.endsName]
  | «attribute» test => exact ⟨'[', simple_test (AttributeTest.isKey printable)⟩
  | structural pseudo => exact ⟨':', pseudo.name.toList ++ rest, rfl, pseudo_structural pseudo starts⟩
  | nth counting formula =>
    have named : isIdentifier counting.name = true := by cases counting <;> decide +kernel
    have lower : asciiLower counting.name.toList = counting.name.toList := by cases counting <;> decide +kernel
    refine ⟨':', _, applied_append _ _ _, ?_⟩
    refine (pseudo_applied named lower (nested_formula formula) (solid_formula formula)).trans ?_
    rw [functional_nth counting printable]
    rfl
  | isAny alternatives =>
    exact ⟨':', _, applied_append _ _ _, pseudo_alternatives (by decide +kernel) (by decide +kernel) (fun _ => rfl)
      printable reads short⟩
  | whereAny alternatives =>
    exact ⟨':', _, applied_append _ _ _, pseudo_alternatives (by decide +kernel) (by decide +kernel) (fun _ => rfl)
      printable reads short⟩
  | notAny alternatives =>
    exact ⟨':', _, applied_append _ _ _, pseudo_alternatives (by decide +kernel) (by decide +kernel) (fun _ => rfl)
      printable reads short⟩

/-! Compound selectors. -/

theorem startsSimple_printCompound {compound : List Simple} (following : compound.any Simple.isLeading = false) :
    StartsSimple (printCompound compound) := by
  cases compound with
  | nil => exact fun c is => absurd is (by simp [printCompound])
  | cons simple rest =>
    have other : simple.isLeading = false := (Bool.or_eq_false_iff.mp following).1
    obtain ⟨mark, tail, split, member⟩ : ∃ mark tail, simple.print = mark :: tail ∧ mark ∈ ['#', '.', '[', ':'] := by
      cases simple with
      | universal | tag => exact absurd other (by simp [Simple.isLeading])
      | _ => exact ⟨_, _, rfl, by decide⟩
    intro c is
    rw [printCompound, split] at is
    exact Option.some.inj is ▸ member

/-- What a simple selector may be after those before it, and what may come after it. -/
theorem isCompound_append_cons {done rest : List Simple} {next : Simple}
    (shape : isCompound (done ++ next :: rest) = true) :
    (next.isLeading = true → done = []) ∧ (isId next = true → done.any isId = false) ∧
      rest.any Simple.isLeading = false := by
  simp only [isCompound, Bool.and_eq_true, Bool.not_eq_true', decide_eq_true_eq] at shape
  obtain ⟨⟨_, later⟩, ids⟩ := shape
  refine ⟨fun leading => ?_, fun id => ?_, ?_⟩
  · cases done with
    | nil => rfl
    | cons d more => simp [leading] at later
  · rw [List.countP_append, List.countP_cons_of_pos id] at ids
    have none : done.countP isId = 0 := by omega
    simpa using List.countP_eq_zero.mp none
  · cases done with
    | nil => simpa using later
    | cons d more => simp_all

/-- What has been read so far and what is still to come make up a compound selector. -/
theorem simplesFrom_print {bound : Nat} (reads : Reads readGroups bound) (compound : List Simple) {done : List Simple}
    {count : Nat} (shape : isCompound (done ++ compound) = true) (printable : areSimplesPrintable compound = true)
    (enough : (printCompound compound).length ≤ count) (short : (printCompound compound).length ≤ bound) :
    simplesFrom readGroups whole count done (printCompound compound) = .ok (done ++ compound) := by
  induction compound generalizing done count with
  | nil =>
    rw [List.append_nil, printCompound]
    cases count <;> rfl
  | cons next rest ih =>
    obtain ⟨first, others⟩ := Bool.and_eq_true_iff.mp printable
    have parts : isCompound (done ++ [next] ++ rest) = true := by rwa [List.append_assoc, List.singleton_append]
    obtain ⟨leads, only, following⟩ := isCompound_append_cons shape
    rw [printCompound, List.length_append] at enough short
    obtain ⟨c, tail, split, read⟩ := simple_print first leads only
      (startsSimple_printCompound following) reads (by omega)
    have length := List.length_pos_iff.mpr (solid_simple first).ne_nil
    -- The simple selector takes a character at least, so the count lasts for what comes after it.
    obtain ⟨count, rfl⟩ := Nat.exists_eq_succ_of_ne_zero (show count ≠ 0 by omega)
    rw [printCompound, split, simplesFrom, read]
    have rests : simplesFrom readGroups whole count (done ++ [next]) (printCompound rest) =
        .ok (done ++ [next] ++ rest) := ih parts others (by omega) (by omega)
    rw [List.append_assoc, List.singleton_append] at rests
    exact rests

theorem compound_print {bound : Nat} (reads : Reads readGroups bound) {compound : List Simple}
    (shape : isCompound compound = true) (printable : areSimplesPrintable compound = true)
    (short : (printCompound compound).length ≤ bound) :
    Css.compound readGroups (printCompound compound) = .ok compound :=
  simplesFrom_print reads compound shape printable (Nat.le_refl _) short

end CosmeticRules.Css
