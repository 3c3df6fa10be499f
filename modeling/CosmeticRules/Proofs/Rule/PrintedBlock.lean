import CosmeticRules.Proofs.Rule.Composition
import CosmeticRules.Proofs.Selector.SplitText

/-!
Printed blocks of declarations. The two readers of blocks, that of a single rule and that of a style sheet, find
the declarations again as they were, whatever marks stand between the quotes of the values.
-/

namespace CosmeticRules

open Text PlainText

/-- The values that can be printed: blanks and plain characters, and quoted texts in which neither the quote nor a
backslash stands. -/
inductive IsValueText : List Char → Prop
  | nil : IsValueText []
  | plain {c : Char} {s : List Char} (unmarked : c ∉ [':', ';', '\'', '"', '\\', '\x7d']) (rest : IsValueText s) :
      IsValueText (c :: s)
  | quoted {q : Char} {inside s : List Char} (quote : q = '\'' ∨ q = '"') (other : q ∉ inside)
      (unescaped : '\\' ∉ inside) (rest : IsValueText s) : IsValueText (q :: inside ++ q :: s)

theorem IsValueText.of_plain {s : List Char} (unmarked : ∀ c ∈ s, c ∉ [':', ';', '\'', '"', '\\', '\x7d']) :
    IsValueText s := by
  induction s with
  | nil => exact .nil
  | cons c rest ih =>
    obtain ⟨here, others⟩ := List.forall_mem_cons.mp unmarked
    exact .plain here (ih others)

namespace Declaration

/-- A declaration that can be printed in a block. -/
structure Printable (d : Declaration) : Prop where
  named : d.property ≠ ""
  property : ∀ c ∈ d.property.toList, c.isAlphanum = true ∨ c = '-'
  filled : d.value ≠ ""
  trimmed : trim d.value.toList = d.value.toList
  value : IsValueText d.value.toList

def text (d : Declaration) : String := s!"{d.property}: {d.value}"

namespace Printable

variable {d : Declaration} (printable : d.Printable)

include printable

theorem isPlainChar_of_mem {c : Char} (member : c ∈ d.property.toList) : isPlainChar c = true := by
  rcases printable.property c member with letter | rfl
  · simp [isPlainChar, letter]
  · rfl

/-- No character of the property means anything to a reader of blocks. -/
theorem unmarked {c : Char} (member : c ∈ d.property.toList) :
    isBlank c = false ∧ isStyleMark c = false ∧ Sheet.isDivider c = false := by
  have all := forall_isPlainChar (p := fun c => !isBlank c && !isStyleMark c && !Sheet.isDivider c)
    (by decide +kernel) (printable.isPlainChar_of_mem member)
  simpa [and_assoc] using all

theorem property_ne_nil : d.property.toList ≠ [] := by simpa using printable.named

theorem value_ne_nil : d.value.toList ≠ [] := by simpa using printable.filled

theorem trim_property : trim d.property.toList = d.property.toList :=
  trim_of_ends (fun _ first => (printable.unmarked (List.mem_of_head? first)).1)
    fun _ last => (printable.unmarked (List.mem_of_getLast? last)).1

/-- A value begins and ends with characters that are not blank. -/
theorem exists_value_eq : ∃ c rest, d.value.toList = c :: rest ∧ isBlank c = false ∧ trimEnd rest = rest :=
  (eq_nil_or_dark_of_trim printable.trimmed).resolve_left printable.value_ne_nil

end Printable

end Declaration

namespace Block

/-- A block of declarations as it is printed, with or without a semicolon at the end. -/
def text (declarations : List Declaration) (closed : Bool) : String :=
  String.intercalate "; " (declarations.map Declaration.text) ++ if closed then ";" else ""

theorem toList_text_singleton (d : Declaration) (closed : Bool) :
    (text [d] closed).toList =
      d.property.toList ++ ':' :: ' ' :: (d.value.toList ++ if closed then [';'] else []) := by
  cases closed <;> simp [text, Declaration.text, ToString.toString]

theorem toList_text_cons (d e : Declaration) (rest : List Declaration) (closed : Bool) :
    (text (d :: e :: rest) closed).toList =
      d.property.toList ++ ':' :: ' ' :: (d.value.toList ++ ';' :: ' ' :: (text (e :: rest) closed).toList) := by
  simp [text, Declaration.text, ToString.toString]

/-! The reader of the block of a rule. -/

/-- Reads the tokens of a text. -/
def readFrom (block : String) (s : State) (chars : List Char) : Except StyleError State :=
  (Token.split isStyleMark chars).foldlM (readToken block) s

/-- The state with more text of the value read. -/
def State.take (s : State) (chars : List Char) : State := { s with value := s.value ++ chars }

@[simp] theorem State.take_nil (s : State) : s.take [] = s := by simp [take]

@[simp] theorem State.take_take (s : State) (first second : List Char) :
    (s.take first).take second = s.take (first ++ second) := by simp [take]

@[simp] theorem State.inValue_take (s : State) (chars : List Char) : (s.take chars).inValue = s.inValue := rfl

@[simp] theorem State.quote_take (s : State) (chars : List Char) : (s.take chars).quote = s.quote := rfl

@[simp] theorem State.value_take (s : State) (chars : List Char) : (s.take chars).value = s.value ++ chars := rfl

variable {block : String} {s : State} {c : Char}

theorem readFrom_mark (marked : isStyleMark c = true) (rest : List Char) :
    readFrom block s (c :: rest) = readToken block s (.mark c) >>= (readFrom block · rest) := by
  rw [readFrom, Token.split_cons_of_mark marked]
  rfl

theorem readToken_word (inValue : s.inValue = true) (chars : List Char) :
    readToken block s (.word chars) = .ok (s.take chars) := by
  rw [readToken, if_pos inValue]
  rfl

/-- A character of a value counts by itself, also inside a word. -/
theorem readFrom_value_char (inValue : s.inValue = true) (unmarked : isStyleMark c = false) (rest : List Char) :
    readFrom block s (c :: rest) = readFrom block (s.take [c]) rest := by
  have alone : readToken block s (.word [c]) = .ok (s.take [c]) := readToken_word inValue [c]
  rw [readFrom, readFrom, Token.split, unmarked, if_neg Bool.false_ne_true]
  generalize Token.split isStyleMark rest = tokens
  cases tokens with
  | nil => rw [Token.consWord, List.foldlM_cons, alone] <;> first | rfl | simp
  | cons token more =>
    cases token with
    | mark d => rw [Token.consWord, List.foldlM_cons, alone] <;> first | rfl | simp
    | word chars =>
      have later : readToken block (s.take [c]) (.word chars) = .ok ((s.take [c]).take chars) :=
        readToken_word (s := s.take [c]) inValue chars
      rw [Token.consWord, List.foldlM_cons, List.foldlM_cons, readToken_word inValue, later, State.take_take]
      rfl

/-- A quote in a value. -/
theorem readFrom_quote (inValue : s.inValue = true) (quote : c = '\'' ∨ c = '"') (rest : List Char) :
    readFrom block s (c :: rest) = readFrom block { s.take [c] with quote := quoteAfter c s } rest := by
  have marked : isStyleMark c = true := by rcases quote with rfl | rfl <;> rfl
  have read : readToken block s (.mark c) = .ok { s.take [c] with quote := quoteAfter c s } := by
    rw [readToken, if_pos inValue]
    rcases quote with rfl | rfl <;> rfl
  rw [readFrom_mark marked, read]
  rfl

/-- A character that belongs to the value: one that is no mark of a block, a blank inside, or anything between
quotes. -/
theorem readFrom_kept (inValue : s.inValue = true) (quote : ¬(c = '\'' ∨ c = '"'))
    (inside : ¬(c = ':' ∨ c = '\\') ∧ c ≠ ';' ∨ s.quote.isNone = false)
    (begun : s.value ≠ [] ∨ isAsciiBlank c = false) (rest : List Char) :
    readFrom block s (c :: rest) = readFrom block (s.take [c]) rest := by
  by_cases marked : isStyleMark c = true
  · have read : readToken block s (.mark c) = .ok (s.take [c]) := by
      have filled (divider : ¬(c = ':' ∨ c = '\\')) (semicolon : c ≠ ';') : s.value.isEmpty = false := by
        rcases begun with begun | dark
        · simpa using begun
        · simp [isStyleMark, dark] at marked
          tauto
      rw [readToken, if_pos inValue, readValue]
      rcases inside with ⟨divider, semicolon⟩ | opened
      · rw [if_neg divider, if_neg semicolon, if_neg quote, filled divider semicolon]
        rfl
      · rw [opened]
        simp only [Bool.false_eq_true, if_false, if_neg quote]
        split
        · rfl
        · split
          · rfl
          · rename_i divider semicolon
            rw [filled divider semicolon]
            rfl
    rw [readFrom_mark marked, read]
    rfl
  · exact readFrom_value_char inValue (by simpa using marked) rest

/-- What stands between quotes belongs to the value. -/
theorem readFrom_inside {q : Char} {inside : List Char} (inValue : s.inValue = true) (opened : s.quote = some q)
    (other : q ∉ inside) (unescaped : '\\' ∉ inside) (begun : s.value ≠ []) (rest : List Char) :
    readFrom block s (inside ++ rest) = readFrom block (s.take inside) rest := by
  induction inside generalizing s with
  | nil => simp
  | cons c more ih =>
    obtain ⟨here, other⟩ := not_or.mp (mt List.mem_cons.mpr other)
    obtain ⟨_, unescaped⟩ := not_or.mp (mt List.mem_cons.mpr unescaped)
    have step : readFrom block s (c :: (more ++ rest)) = readFrom block (s.take [c]) (more ++ rest) := by
      by_cases quote : c = '\'' ∨ c = '"'
      · have kept : quoteAfter c s = some q := by simp [quoteAfter, opened, here]
        rw [readFrom_quote inValue quote, kept, ← opened]
        rfl
      · exact readFrom_kept inValue quote (.inr (by simp [opened])) (.inl begun) _
    rw [List.cons_append, step, ih (s := s.take [c]) inValue opened other unescaped (by simp), State.take_take]
    rfl

/-- A printed value is read as it is. -/
theorem readFrom_value {value : List Char} (printed : IsValueText value) (inValue : s.inValue = true)
    (closed : s.quote = none) (begun : s.value ≠ [] ∨ ∀ c, value.head? = some c → isAsciiBlank c = false)
    (rest : List Char) : readFrom block s (value ++ rest) = readFrom block (s.take value) rest := by
  induction printed generalizing s with
  | nil => simp
  | @plain c more unmarked _ ih =>
    simp only [List.mem_cons, List.not_mem_nil, or_false, not_or] at unmarked
    obtain ⟨colon, semicolon, single, double, backslash, _⟩ := unmarked
    have start : s.value ≠ [] ∨ isAsciiBlank c = false := begun.imp_right fun dark => dark c rfl
    have step : readFrom block s (c :: (more ++ rest)) = readFrom block (s.take [c]) (more ++ rest) :=
      readFrom_kept inValue (not_or.mpr ⟨single, double⟩)
        (.inl ⟨not_or.mpr ⟨colon, backslash⟩, semicolon⟩) start (more ++ rest)
    rw [List.cons_append, step, ih (s := s.take [c]) inValue closed (.inl (by simp)), State.take_take]
    rfl
  | @quoted q inside more quote other unescaped _ ih =>
    let opened : State := { s.take [q] with quote := some q }
    have opens : quoteAfter q s = some q := by rw [quoteAfter, closed]
    have ends : quoteAfter q (opened.take inside) = none := by
      have last : (opened.take inside).value.getLast? ≠ some '\\' := by
        intro last
        have member : '\\' ∈ q :: inside := by
          have whole : (opened.take inside).value = s.value ++ q :: inside := by simp [opened, State.take]
          rw [whole, List.getLast?_append_of_ne_nil _ (List.cons_ne_nil q inside)] at last
          exact List.mem_of_getLast? last
        rcases List.mem_cons.mp member with rfl | member
        · exact absurd quote (by decide)
        · exact unescaped member
      have here : (opened.take inside).quote = some q := rfl
      rw [quoteAfter, here]
      exact if_pos ⟨rfl, last⟩
    have step : readFrom block s (q :: (inside ++ q :: (more ++ rest))) =
        readFrom block (s.take (q :: inside ++ [q])) (more ++ rest) := by
      rw [readFrom_quote inValue quote, opens,
        readFrom_inside (s := opened) inValue rfl other unescaped (by simp [opened]),
        readFrom_quote (s := opened.take inside) inValue quote, ends]
      simp [opened, State.take, closed]
    have whole : q :: inside ++ q :: more ++ rest = q :: (inside ++ q :: (more ++ rest)) := by simp
    rw [whole, step, ih (s := s.take (q :: inside ++ [q])) inValue closed (.inl (by simp)), State.take_take]
    simp

theorem readFrom_blank (outside : s.inValue = false) (rest : List Char) :
    readFrom block s (' ' :: rest) = readFrom block s rest := by
  have read : readToken block s (.mark ' ') = .ok s := by
    rw [readToken, outside]
    rfl
  rw [readFrom_mark rfl, read]
  rfl

variable {d : Declaration} (printable : d.Printable) (done : List Declaration)

include printable

/-- A declaration is read up to the end of its value. -/
theorem readFrom_declaration (rest : List Char) :
    readFrom block { done } (d.property.toList ++ ':' :: ' ' :: (d.value.toList ++ rest)) =
      readFrom block ⟨true, done, d.property.toList, d.value.toList, none⟩ rest := by
  let named : State := { done, property := d.property.toList }
  let begun : State := ⟨true, done, d.property.toList, [], none⟩
  have property (rest : List Char) : readFrom block { done } (d.property.toList ++ ':' :: rest) =
      readFrom block named (':' :: rest) := by
    have word := Token.split_word printable.property_ne_nil fun c member => (printable.unmarked member).2.1
    rw [readFrom, readFrom, Token.split_append _ (.cons (show isStyleMark ':' = true from rfl) rest), word]
    rfl
  have colon (rest : List Char) : readFrom block named (':' :: rest) = readFrom block begun rest := by
    have filled : d.property.toList.isEmpty = false := by simpa using printable.named
    have read : readToken block named (.mark ':') = .ok begun := by
      simp [readToken, readProperty, named, begun, printable.trim_property, filled]
    rw [readFrom_mark rfl, read]
    rfl
  have blank (rest : List Char) : readFrom block begun (' ' :: rest) = readFrom block begun rest := by
    rw [readFrom_mark rfl]
    rfl
  obtain ⟨c, more, whole, dark, _⟩ := printable.exists_value_eq
  have first : ∀ b, d.value.toList.head? = some b → isAsciiBlank b = false := by
    rw [whole]
    rintro b ⟨⟩
    exact isAsciiBlank_of_dark dark
  rw [property, colon, blank, readFrom_value (s := begun) printable.value rfl rfl (.inr first)]
  rfl

theorem readFrom_semicolon (rest : List Char) :
    readFrom block ⟨true, done, d.property.toList, d.value.toList, none⟩ (';' :: rest) =
      readFrom block { done := done ++ [d] } rest := by
  have read : readToken block ⟨true, done, d.property.toList, d.value.toList, none⟩ (.mark ';') =
      .ok { done := done ++ [d] } := by
    simp [readToken, readValue, State.collect, printable.trim_property, printable.trimmed]
  rw [readFrom_mark rfl, read]
  rfl

theorem finish_declaration :
    finish block ⟨true, done, d.property.toList, d.value.toList, none⟩ = .ok (done ++ [d]) := by
  have property : d.property.toList.isEmpty = false := by simpa using printable.named
  have value : d.value.toList.isEmpty = false := by simpa using printable.filled
  simp [finish, property, value, State.collect, printable.trim_property, printable.trimmed]

omit printable

theorem finish_readFrom_text {declarations : List Declaration} (some : declarations ≠ [])
    (printable : ∀ d ∈ declarations, d.Printable) (done : List Declaration) (closed : Bool) :
    readFrom block { done } (text declarations closed).toList >>= finish block = .ok (done ++ declarations) := by
  induction declarations generalizing done with
  | nil => exact absurd rfl some
  | cons d rest ih =>
    obtain ⟨first, others⟩ := List.forall_mem_cons.mp printable
    cases rest with
    | nil =>
      rw [toList_text_singleton, readFrom_declaration first]
      cases closed with
      | false => exact finish_declaration first done
      | true =>
        rw [if_pos rfl, readFrom_semicolon first]
        show finish block { done := done ++ [d] } = _
        simp [finish]
    | cons e more =>
      rw [toList_text_cons, readFrom_declaration first, readFrom_semicolon first, readFrom_blank rfl,
        ih (List.cons_ne_nil e more) others, List.append_assoc]
      rfl

theorem dark_of_getLast?_text {declarations : List Declaration} (some : declarations ≠ [])
    (printable : ∀ d ∈ declarations, d.Printable) (closed : Bool) :
    ∀ c, (text declarations closed).toList.getLast? = .some c → isBlank c = false := by
  induction declarations with
  | nil => exact absurd rfl some
  | cons d rest ih =>
    obtain ⟨first, others⟩ := List.forall_mem_cons.mp printable
    intro c last
    cases rest with
    | cons e more =>
      have filled : (text (e :: more) closed).toList ≠ [] := by
        cases more <;> simp [toList_text_singleton, toList_text_cons]
      have whole : (text (d :: e :: more) closed).toList =
          d.property.toList ++ ':' :: ' ' :: (d.value.toList ++ [';', ' ']) ++ (text (e :: more) closed).toList := by
        simp [toList_text_cons]
      rw [whole, List.getLast?_append_of_ne_nil _ filled] at last
      exact ih (List.cons_ne_nil e more) others c last
    | nil =>
      have whole : (text [d] closed).toList = d.property.toList ++ [':', ' '] ++
          (d.value.toList ++ if closed then [';'] else []) := by
        simp [toList_text_singleton]
      rw [whole] at last
      cases closed with
      | true =>
        rw [if_pos rfl, ← List.append_assoc, List.getLast?_concat] at last
        obtain rfl := Option.some.inj last
        rfl
      | false =>
        rw [if_neg Bool.false_ne_true, List.append_nil, List.getLast?_append_of_ne_nil _ first.value_ne_nil,
          ← first.trimmed] at last
        exact dark_of_getLast?_trim last

/-- Nothing around a printed block is trimmed. -/
theorem trim_text {declarations : List Declaration} (some : declarations ≠ [])
    (printable : ∀ d ∈ declarations, d.Printable) (closed : Bool) :
    trim (text declarations closed).toList = (text declarations closed).toList := by
  refine trim_of_ends ?_ (dark_of_getLast?_text some printable closed)
  obtain ⟨d, rest, rfl⟩ := List.exists_cons_of_ne_nil some
  have first := printable d List.mem_cons_self
  have starts : ∃ tail, (text (d :: rest) closed).toList = d.property.toList ++ tail := by
    cases rest with
    | nil => exact ⟨_, toList_text_singleton d closed⟩
    | cons e more => exact ⟨_, toList_text_cons d e more closed⟩
  obtain ⟨tail, whole⟩ := starts
  obtain ⟨c, more, property⟩ := List.exists_cons_of_ne_nil first.property_ne_nil
  rw [whole, property]
  rintro b ⟨⟩
  exact (first.unmarked (property ▸ List.mem_cons_self)).1

theorem declarations_text {declarations : List Declaration} (some : declarations ≠ [])
    (printable : ∀ d ∈ declarations, d.Printable) (closed : Bool) :
    Block.declarations (text declarations closed) = .ok declarations := by
  rw [Block.declarations, trim_text some printable]
  exact finish_readFrom_text some printable [] closed

end Block

/-! The reader of the blocks of a style sheet. -/

namespace Sheet

theorem valueEnd?_cons {quote : Option Char} {c : Char} (goes : ¬((c = ';' ∨ c = '\x7d') ∧ quote = none))
    (unescaped : c ≠ '\\') (rest : List Char) :
    valueEnd? quote false (c :: rest) =
      (valueEnd? (quoteAfter quote false c) false rest).map fun e => { e with value := c :: e.value } := by
  have plain : (c == '\\' && !false) = false := by simp [unescaped]
  rw [valueEnd?, if_neg goes, plain]

/-- What stands between quotes does not end a value. -/
theorem valueEnd?_inside {q : Char} {inside : List Char} (other : q ∉ inside) (unescaped : '\\' ∉ inside)
    (rest : List Char) :
    valueEnd? (some q) false (inside ++ rest) =
      (valueEnd? (some q) false rest).map fun e => { e with value := inside ++ e.value } := by
  induction inside with
  | nil => simp
  | cons c more ih =>
    obtain ⟨here, other⟩ := not_or.mp (mt List.mem_cons.mpr other)
    obtain ⟨plain, unescaped⟩ := not_or.mp (mt List.mem_cons.mpr unescaped)
    have kept : quoteAfter (some q) false c = some q := by simp [quoteAfter, here]
    rw [List.cons_append, valueEnd?_cons (by simp) (Ne.symm plain), kept, ih other unescaped, Option.map_map]
    rfl

theorem valueEnd?_value {value : List Char} (printed : IsValueText value) (rest : List Char) :
    valueEnd? none false (value ++ rest) =
      (valueEnd? none false rest).map fun e => { e with value := value ++ e.value } := by
  induction printed with
  | nil => simp
  | @plain c more unmarked _ ih =>
    simp only [List.mem_cons, List.not_mem_nil, or_false, not_or] at unmarked
    obtain ⟨_, semicolon, single, double, backslash, brace⟩ := unmarked
    have kept : quoteAfter none false c = none := by simp [quoteAfter, single, double]
    rw [List.cons_append, valueEnd?_cons (by simp [semicolon, brace]) backslash, kept, ih, Option.map_map]
    rfl
  | @quoted q inside more quote other unescaped _ ih =>
    have opens : quoteAfter none false q = some q := by simp [quoteAfter, quote]
    have ends : quoteAfter (some q) false q = none := by simp [quoteAfter, quote]
    have unlike (c : Char) (apart : c ≠ '\'' ∧ c ≠ '"') : q ≠ c := by
      rintro rfl
      exact quote.elim apart.1 apart.2
    have plain : q ≠ '\\' := unlike _ (by decide)
    have goes : ¬((q = ';' ∨ q = '\x7d') ∧ (none : Option Char) = none) := by
      simp [unlike ';' (by decide), unlike '\x7d' (by decide)]
    have whole : q :: inside ++ q :: more ++ rest = q :: (inside ++ q :: (more ++ rest)) := by simp
    rw [whole, valueEnd?_cons goes plain, opens, valueEnd?_inside other unescaped, valueEnd?_cons (by simp) plain,
      ends, ih]
    simp [Function.comp_def]

variable {d : Declaration} (printable : d.Printable)

include printable

theorem readDeclaration_printed {before : List Char} (named : trim before = d.property.toList) {c : Char}
    (ends : c = ';' ∨ c = '\x7d') (s rest : List Char) :
    readDeclaration s before (' ' :: (d.value.toList ++ c :: rest)) =
      .ok (d, ⟨' ' :: d.value.toList, c == '\x7d', rest⟩) := by
  have last : valueEnd? none false (c :: rest) = some ⟨[], c == '\x7d', rest⟩ := by
    rw [valueEnd?, if_pos ⟨ends, rfl⟩]
  have found : valueEnd? none false (' ' :: (d.value.toList ++ c :: rest)) =
      some ⟨' ' :: d.value.toList, c == '\x7d', rest⟩ := by
    rw [valueEnd?_cons (by simp) (by decide)]
    have kept : quoteAfter none false ' ' = none := rfl
    rw [kept, valueEnd?_value printable.value, last]
    simp
  have value : trim (' ' :: d.value.toList) = d.value.toList := by
    rw [trim_blank_cons rfl, printable.trimmed]
  have someProperty : d.property.toList.isEmpty = false := by simpa using printable.named
  have someValue : d.value.toList.isEmpty = false := by simpa using printable.filled
  simp only [readDeclaration, found, named, value, someProperty, someValue]
  simp

/-- A declaration is read up to the mark that ends its value. -/
theorem readBlock_declaration {before : List Char} (named : trim before = d.property.toList)
    (fresh : ∀ c ∈ before, isDivider c = false) {c : Char} (ends : c = ';' ∨ c = '\x7d')
    (done : List Declaration) (rest : List Char) :
    readBlock done (before ++ ':' :: ' ' :: (d.value.toList ++ c :: rest)) =
      if c = '\x7d' then .ok (done ++ [d], trimStart rest) else readBlock (done ++ [d]) rest := by
  rw [readBlock_of_cut (splitWhere?_append rfl fresh _), if_neg (by decide), if_pos rfl,
    readDeclaration_printed printable named ends]
  simp [bind, Except.bind]

omit printable

/-- A printed block ends with the brace behind it, and what follows the brace is left without the blanks in
front. -/
theorem readBlock_text {declarations : List Declaration} (some : declarations ≠ [])
    (printable : ∀ d ∈ declarations, d.Printable) {front : List Char} (blank : front = [] ∨ front = [' '])
    (done : List Declaration) (closed : Bool) (rest : List Char) :
    readBlock done (front ++ (Block.text declarations closed).toList ++ '\x7d' :: rest) =
      .ok (done ++ declarations, trimStart rest) := by
  induction declarations generalizing done front with
  | nil => exact absurd rfl some
  | cons d others ih =>
    obtain ⟨first, later⟩ := List.forall_mem_cons.mp printable
    have named : trim (front ++ d.property.toList) = d.property.toList := by
      rcases blank with rfl | rfl
      · exact first.trim_property
      · exact (trim_blank_cons rfl _).trans first.trim_property
    have fresh : ∀ c ∈ front ++ d.property.toList, isDivider c = false := by
      refine List.forall_mem_append.mpr ⟨?_, fun c member => (first.unmarked member).2.2⟩
      rcases blank with rfl | rfl <;> decide
    cases others with
    | nil =>
      cases closed with
      | false =>
        have whole : front ++ (Block.text [d] false).toList ++ '\x7d' :: rest =
            front ++ d.property.toList ++ ':' :: ' ' :: (d.value.toList ++ '\x7d' :: rest) := by
          simp [Block.toList_text_singleton]
        rw [whole, readBlock_declaration first named fresh (.inr rfl), if_pos rfl]
      | true =>
        have whole : front ++ (Block.text [d] true).toList ++ '\x7d' :: rest =
            front ++ d.property.toList ++ ':' :: ' ' :: (d.value.toList ++ ';' :: '\x7d' :: rest) := by
          simp [Block.toList_text_singleton]
        have brace : splitWhere? isDivider ('\x7d' :: rest) = .some ([], '\x7d', rest) :=
          splitWhere?_append rfl (List.forall_mem_nil _) rest
        rw [whole, readBlock_declaration first named fresh (.inl rfl), if_neg (by decide),
          readBlock_of_cut brace, if_neg (by decide), if_neg (by decide)]
        simp [trim, trimStart, trimEnd, dropEndWhile]
    | cons e more =>
      have whole : front ++ (Block.text (d :: e :: more) closed).toList ++ '\x7d' :: rest =
          front ++ d.property.toList ++ ':' :: ' ' :: (d.value.toList ++ ';' ::
            ([' '] ++ (Block.text (e :: more) closed).toList ++ '\x7d' :: rest)) := by
        simp [Block.toList_text_cons]
      rw [whole, readBlock_declaration first named fresh (.inl rfl), if_neg (by decide),
        ih (List.cons_ne_nil e more) later (.inr rfl), List.append_assoc]
      rfl

end Sheet

/-- A printed block is read as its declarations by the reader of rules, and behind a selector of a style sheet it
is read as them as well, with what follows it left over. -/
theorem Block.read_text {declarations : List Declaration} (some : declarations ≠ [])
    (printable : ∀ d ∈ declarations, d.Printable) (closed : Bool) (rest : List Char) :
    Block.declarations (text declarations closed) = .ok declarations ∧
      Sheet.readBlock [] ((text declarations closed).toList ++ '\x7d' :: rest) =
        .ok (declarations, trimStart rest) :=
  ⟨declarations_text some printable closed, Sheet.readBlock_text some printable (.inl rfl) [] closed rest⟩

/-- Marks between quotes, another quote among them, and the last semicolon left out. -/
theorem Block.read_text_quoted :
    let declarations : List Declaration := [⟨"content", "\"it's \x7b;:\x7d\" x"⟩, ⟨"color", "red"⟩]
    text declarations false = "content: \"it's \x7b;:\x7d\" x; color: red" ∧
      Block.declarations (text declarations false) = .ok declarations ∧
      Sheet.readBlock [] ((text declarations false).toList ++ '\x7d' :: [' ', ' ', 'p']) =
        .ok (declarations, ['p']) := by
  intro declarations
  refine ⟨by decide +kernel, read_text (List.cons_ne_nil _ _) ?_ false [' ', ' ', 'p']⟩
  have quoted : IsValueText ('"' :: "it's \x7b;:\x7d".toList ++ '"' :: [' ', 'x']) :=
    .quoted (.inr rfl) (by decide) (by decide) (.of_plain (by decide))
  refine List.forall_mem_cons.mpr ⟨⟨by decide, by decide, by decide, by decide, quoted⟩, ?_⟩
  exact List.forall_mem_singleton.mpr ⟨by decide, by decide, by decide, by decide, .of_plain (by decide)⟩

end CosmeticRules
