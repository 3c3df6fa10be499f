import CosmeticRules.Proofs.Selector.ReadPart

/-!
Attribute conditions with a quoted value. The reader does not know where a quoted value begins and ends: a
closing bracket in it is text as long as what comes before it does not look like a whole condition, and a colon
is text as long as no name of an extended pseudo-class comes after it.
-/

namespace CosmeticRules

namespace PlainText

open SelectorReader

/-- Whether a closing bracket after so much of a quoted value is text. -/
def bracketStays (before : List Char) : Bool :=
  let text := before.filter (· != ' ')
  !text.isEmpty && text != ['i'] && text != ['I'] && text.getLast? != some '='

/-- Whether a colon between these parts of a quoted value is text. -/
def colonStays (before after : List Char) : Bool :=
  let tokens := textTokens after
  before.getLast?.all (fun c => !isCombinator c && c != ',') &&
    tokens.head?.all (fun next => !isPseudoName next && !isRemoveName next) &&
    !(isBlank tokens.head? && (namedPseudo? tokens.tail.head?).isSome)

/-- Whether every closing bracket and every colon in the rest of a quoted value is text. -/
def staysQuoted (before : List Char) : List Char → Bool
  | [] => true
  | c :: rest =>
    (c != ']' || bracketStays before) && (c != ':' || colonStays before rest) &&
      staysQuoted (before ++ [c]) rest

theorem staysQuoted_append {before s t : List Char} (stays : staysQuoted before (s ++ t) = true) :
    staysQuoted (before ++ s) t = true := by
  induction s generalizing before with
  | nil => simpa using stays
  | cons c rest ih =>
    rw [List.cons_append, staysQuoted, Bool.and_eq_true] at stays
    simpa using ih stays.2

/-- What no quoted value has. -/
def quoteBreaks : List Char := ['"', '\\', '\n', '\r', '\x0c']

end PlainText

namespace AttributeText

open Token PlainText

variable {name : List Char}

/-- The tokens of a condition with an opened value. -/
theorem tokens_opened (filled : name ≠ []) (word : ∀ c ∈ name, isAttributeMark c = false) (value : List Char) :
    tokens (String.ofList (name ++ '=' :: '"' :: value)) =
      .word name :: .mark '=' :: .mark '"' :: split isAttributeMark (value.filter (· != ' ')) := by
  have spaced : isAttributeMark ' ' = true := by decide
  have kept : name.filter (· != ' ') = name := by
    refine List.filter_eq_self.mpr fun c member => bne_iff_ne.mpr ?_
    rintro rfl
    exact absurd spaced (by rw [word ' ' member]; decide)
  have equal : isAttributeMark '=' = true := by decide
  have quote : isAttributeMark '"' = true := by decide
  rw [tokens, String.toList_ofList, List.filter_append, kept, List.filter_cons_of_pos (by decide),
    List.filter_cons_of_pos (by decide), split_append _ (.cons equal _), split_word filled word,
    split_cons_of_mark equal, split_cons_of_mark quote]
  rfl

/-- Whether a condition with an opened value is closed, by the last tokens of the value. -/
theorem closes_opened (filled : name ≠ []) (word : ∀ c ∈ name, isAttributeMark c = false) {value : List Char}
    {before : List Token} {last : Token}
    (same : split isAttributeMark (value.filter (· != ' ')) = before ++ [last]) (apart : last ≠ .mark '=') :
    closes (String.ofList (name ++ '=' :: '"' :: value)) =
      .ok (if isCaseFlag (some last) then (Token.mark '"' :: before).getLast? == some (.mark '"')
        else last == .mark '"') := by
  have read := tokens_opened filled word value
  rw [same] at read
  have final : (tokens (String.ofList (name ++ '=' :: '"' :: value))).getLast? = some last := by
    rw [read]
    simp [List.getLast?_cons]
  have unequal : (some last == some (Token.mark '=')) = false := beq_false_of_ne fun other =>
    apart (Option.some.inj other)
  have initial : (tokens (String.ofList (name ++ '=' :: '"' :: value))).dropLast =
      .word name :: .mark '=' :: .mark '"' :: before := by
    rw [read]
    show (Token.word name :: .mark '=' :: .mark '"' :: before ++ [last]).dropLast = _
    exact List.dropLast_concat
  have opened : afterEqual? (tokens (String.ofList (name ++ '=' :: '"' :: value))) = some (some (.mark '"')) := by
    rw [read]
    rfl
  have first : (tokens (String.ofList (name ++ '=' :: '"' :: value))).head? = some (.word name) := by
    rw [read]
    rfl
  have quote : isQuote (some (.mark '"')) = true := rfl
  rw [closes]
  simp only [first, closes.closesAfter, final, unequal, opened, quote, initial, if_true, Bool.false_eq_true,
    if_false, List.getLast?_cons_cons]
  rfl

theorem letter_of_toLower {c : Char} (same : c.toLower = 'i') : c = 'i' ∨ c = 'I' := by
  by_cases upper : c.val ≥ 'A'.val ∧ c.val ≤ 'Z'.val
  · have shifted : c.val + 32 = 'I'.val + 32 := congrArg Char.val ((dif_pos upper).symm.trans same)
    exact .inr (Char.ext ((UInt32.add_left_inj _).mp shifted))
  · exact .inl ((dif_neg upper).symm.trans same)

theorem chars_of_isCaseFlag {cs : List Char} (flag : isCaseFlag (some (.word cs)) = true) :
    cs = ['i'] ∨ cs = ['I'] := by
  have same : cs.map Char.toLower = ['i'] := eq_of_beq flag
  obtain ⟨c, rfl, letter⟩ := List.map_eq_singleton_iff.mp same
  rcases letter_of_toLower letter with rfl | rfl
  · exact .inl rfl
  · exact .inr rfl

theorem closes_inside (filled : name ≠ []) (word : ∀ c ∈ name, isAttributeMark c = false) {value : List Char}
    (unquoted : '"' ∉ value) (stays : bracketStays value = true) :
    closes (String.ofList (name ++ '=' :: '"' :: value)) = .ok false := by
  obtain ⟨⟨⟨something, small⟩, capital⟩, unequal⟩ :
      ((value.filter (· != ' ') ≠ [] ∧ value.filter (· != ' ') ≠ ['i']) ∧ value.filter (· != ' ') ≠ ['I']) ∧
        (value.filter (· != ' ')).getLast? ≠ some '=' := by
    simpa [bracketStays] using stays
  obtain ⟨before, last, same⟩ : ∃ before last,
      split isAttributeMark (value.filter (· != ' ')) = before ++ [last] :=
    (List.eq_nil_or_concat' _).resolve_left (split_ne_nil something)
  have noQuote (member : Token.mark '"' ∈ before ++ [last]) : False :=
    unquoted (List.mem_of_mem_filter (mem_of_mark_mem_split (same ▸ member)))
  have apart : last ≠ .mark '=' := by
    rintro rfl
    exact unequal (getLast?_of_mark_split (same ▸ List.getLast?_concat))
  rw [closes_opened filled word same apart]
  -- A flag at the end is passed over, and there is no quote before it either.
  by_cases flag : isCaseFlag (some last) = true
  · rw [if_pos flag]
    rcases List.eq_nil_or_concat' before with rfl | ⟨init, token, rfl⟩
    · cases last with
      | mark c => exact absurd flag Bool.false_ne_true
      | word cs =>
        have whole := flatMap_chars_split isAttributeMark (value.filter (· != ' '))
        rw [same, List.nil_append, List.flatMap_singleton] at whole
        exact ((chars_of_isCaseFlag flag).elim (small <| whole.symm.trans ·) (capital <| whole.symm.trans ·)).elim
    · refine congrArg Except.ok (beq_false_of_ne fun found => noQuote ?_)
      rw [← List.cons_append, List.getLast?_concat] at found
      obtain rfl := Option.some.inj found
      simp
  · rw [if_neg flag]
    refine congrArg Except.ok (beq_false_of_ne ?_)
    rintro rfl
    exact noQuote (List.mem_append_right _ (List.mem_singleton_self _))

theorem closes_end (filled : name ≠ []) (word : ∀ c ∈ name, isAttributeMark c = false) (value : List Char) :
    closes (String.ofList (name ++ '=' :: '"' :: (value ++ ['"']))) = .ok true := by
  have quote : isAttributeMark '"' = true := by decide
  have same : split isAttributeMark ((value ++ ['"']).filter (· != ' ')) =
      split isAttributeMark (value.filter (· != ' ')) ++ [.mark '"'] := by
    rw [List.filter_append, List.filter_cons_of_pos (by decide), List.filter_nil,
      split_append _ (.cons quote []), split_cons_of_mark quote]
    rfl
  rw [closes_opened filled word same (by decide)]
  rfl

end AttributeText

namespace Draft

/-- Open at a regular part inside an attribute condition with this text. -/
def inCondition (value text : String) : Draft :=
  { inRegular [] [] [] value with inAttribute := true, attributeText := text }

variable (value text : String)

theorem openClass?_inCondition : (inCondition value text).openClass? = some .regular := rfl

theorem write_inCondition (more : String) :
    (inCondition value text).write more = .ok (inCondition (value ++ more) (text ++ more)) := rfl

theorem resume_inCondition : (inCondition value text).resume = .ok (inCondition value text) := rfl

end Draft

namespace SelectorReader

open PlainText Draft Token

variable {selector : String} {around : Surroundings} {value text : String}

theorem readWord_inCondition (cs : List Char) :
    readToken selector (.word cs) around (inCondition value text) =
      .ok (inCondition (value ++ String.ofList cs) (text ++ String.ofList cs)) := rfl

/-- The marks other than the comma, the space, the parentheses, the colon and the closing bracket. -/
theorem readMark_inCondition (c : Char) :
    readMark selector c around (inCondition value text) =
      .ok (inCondition (value ++ String.singleton c) (text ++ String.singleton c)) := by
  have unbraced : (c == '\x7b' && !((inCondition value text).inAttribute || (inCondition value text).inPattern)) =
      false := Bool.and_false _
  rw [readMark]
  simp only [openClass?_inCondition, Option.isNone_some, Bool.false_eq_true, if_false, resume_inCondition,
    ok_bind, unbraced, write_inCondition, ite_self]
  rfl

theorem readColon_inCondition {before after : List Char} (stays : colonStays before after = true)
    (last : ∀ c, around.last = some (.mark c) → c = '"' ∨ before.getLast? = some c) {rest : List Token}
    (next : around.next = (textTokens after ++ .mark '"' :: rest).head?)
    (afterNext : around.afterNext = (textTokens after ++ .mark '"' :: rest).tail.head?) :
    readToken selector (.mark ':') around (inCondition value text) =
      .ok (inCondition (value ++ ":") (text ++ ":")) := by
  obtain ⟨⟨free, unnamed⟩, apart⟩ : (_ ∧ _) ∧ _ := by
    simpa only [colonStays, Bool.and_eq_true] using stays
  have outside : isCombinatorToken around.last = false ∧ isMark around.last ',' = false := by
    cases found : around.last with
    | none => exact ⟨rfl, rfl⟩
    | some token =>
      cases token with
      | word cs => exact ⟨rfl, rfl⟩
      | mark c =>
        have other : isCombinator c = false ∧ c ≠ ',' := by
          rcases last c found with rfl | ends
          · decide
          · rw [ends] at free
            simpa using free
        exact ⟨other.1, beq_false_of_ne fun same => other.2 (Token.mark.inj (Option.some.inj same))⟩
  obtain ⟨token, taken, named, removed, blank⟩ : ∃ token, around.next = some token ∧
      isPseudoName token = false ∧ isRemoveName token = false ∧
      (isBlank (some token) && (namedPseudo? around.afterNext).isSome) = false := by
    have quote : isPseudoName (.mark '"') = false ∧ isRemoveName (.mark '"') = false ∧
        namedPseudo? (some (.mark '"')) = none := by decide +kernel
    cases tokens : textTokens after with
    | nil =>
      rw [tokens] at next
      exact ⟨.mark '"', next, quote.1, quote.2.1, rfl⟩
    | cons token more =>
      rw [tokens] at next afterNext unnamed apart
      obtain ⟨named, removed⟩ : isPseudoName token = false ∧ isRemoveName token = false := by
        simpa using unnamed
      refine ⟨token, next, named, removed, ?_⟩
      rw [afterNext]
      cases more with
      | nil => simp [quote.2.2]
      | cons second others => exact (Bool.not_eq_true' _).mp apart
  have first : readFirstColon around (inCondition value text) = .ok (inCondition value text) := rfl
  have inside : (isMark around.afterNext '(' && !(inCondition (value ++ ":") (text ++ ":")).inAttribute) = false :=
    Bool.and_false _
  have unnested : (inCondition value text).nativeNames = [] := rfl
  show readColon selector around (inCondition value text) = _
  rw [readColon, taken, blank, if_neg Bool.false_ne_true, first]
  simp only [ok_bind, openClass?_inCondition, outside, Bool.or_false, Bool.false_eq_true, if_false]
  rw [readPseudo, taken]
  simp only [named, removed, Bool.false_eq_true, if_false, write_inCondition, ok_bind, inside]
  rfl

/-- A closing bracket ends the condition or is text of it, as its text so far says. -/
theorem readClosing_inCondition {ended : Bool} (closes : AttributeText.closes text = .ok ended) :
    readToken selector (.mark ']') around (inCondition value text) =
      .ok (if ended then inRegular [] [] [] (value ++ "]") else inCondition (value ++ "]") (text ++ "]")) := by
  show readClosingBracket selector around (inCondition value text) = _
  have inside : (inCondition value text).inAttribute = true := rfl
  have said : (inCondition value text).attributeText = text := rfl
  rw [readClosingBracket]
  simp only [openClass?_inCondition, inside, said, closes, ok_bind, Bool.not_true, Bool.false_and,
    Bool.false_eq_true, if_false, if_true]
  cases ended <;> rfl

theorem readToken_of_unlisted {c : Char}
    (other : c ∉ [',', ' ', ']', ':', '(', ')', '\t', '\n', '\r', '\x0c']) (d : Draft) :
    readToken selector (.mark c) around d = readMark selector c around d := by
  unfold readToken
  split <;> simp_all

/-- A mark of a quoted value is written, if the conditions on closing brackets and colons hold for it. -/
theorem readMark_inValue {name before after : List Char} (filled : name ≠ [])
    (word : ∀ c ∈ name, isAttributeMark c = false) (unquoted : '"' ∉ before) {c : Char}
    (plain : c ∉ quoteBreaks) (bracket : c = ']' → bracketStays before = true)
    (colon : c = ':' → colonStays before after = true)
    (last : ∀ c, around.last = some (.mark c) → c = '"' ∨ before.getLast? = some c) {rest : List Token}
    (next : around.next = (textTokens after ++ .mark '"' :: rest).head?)
    (afterNext : around.afterNext = (textTokens after ++ .mark '"' :: rest).tail.head?) :
    readToken selector (.mark c) around (inCondition value (String.ofList (name ++ '=' :: '"' :: before))) =
      .ok (inCondition (value ++ String.singleton c)
        (String.ofList (name ++ '=' :: '"' :: before) ++ String.singleton c)) := by
  have broken : ∀ c ∈ ['\n', '\r', '\x0c'], c ∈ quoteBreaks := by decide
  by_cases listed : c ∈ [',', ' ', ']', ':', '(', ')', '\t', '\n', '\r', '\x0c']
  · simp only [List.mem_cons, List.not_mem_nil, or_false] at listed
    rcases listed with rfl | rfl | rfl | rfl | rfl | rfl | rfl | breaks
    · have goesOn : around.next.isNone = false := by
        rw [next]
        cases textTokens after <;> rfl
      show readComma selector around (inCondition value _) = _
      rw [readComma, goesOn]
      rfl
    · rfl
    · exact readClosing_inCondition (AttributeText.closes_inside filled word unquoted (bracket rfl))
    · exact readColon_inCondition (colon rfl) last next afterNext
    · rfl
    · rfl
    · rfl
    · exact absurd (broken c (by simpa using breaks)) plain
  · rw [readToken_of_unlisted listed]
    exact readMark_inCondition c

variable (selector) in
/-- A quoted value is written token by token, up to the quote after it. -/
theorem readTokens_value {name : List Char} (filled : name ≠ []) (word : ∀ c ∈ name, isAttributeMark c = false)
    {value : List Char} (plain : ∀ c ∈ value, c ∉ quoteBreaks) {before : List Char} (unquoted : '"' ∉ before)
    (stays : staysQuoted before value = true) {last : Option Token}
    (lastIs : ∀ c, last = some (.mark c) → c = '"' ∨ before.getLast? = some c) (text : String)
    (beforeLast : Option Token) (others : List Token) :
    ∃ beforeLast' last',
      readTokens selector beforeLast last (textTokens value ++ .mark '"' :: others)
          (inCondition text (String.ofList (name ++ '=' :: '"' :: before))) =
        readTokens selector beforeLast' last' (.mark '"' :: others) (inCondition (text ++ String.ofList value)
          (String.ofList (name ++ '=' :: '"' :: (before ++ value)))) := by
  -- The induction is on the tokens of the value; `before` holds those that have been written.
  induction tokens : textTokens value generalizing value before last text beforeLast with
  | nil =>
    obtain rfl : value = [] := by
      by_contra something
      exact split_ne_nil something tokens
    exact ⟨beforeLast, last, by simp⟩
  | cons token more ih =>
    obtain ⟨after, rfl, same⟩ := split_eq_cons tokens
    have written (staysAfter : staysQuoted (before ++ token.chars) after = true)
        (lastIs' : ∀ c, some token = some (.mark c) → c = '"' ∨ (before ++ token.chars).getLast? = some c)
        (step : readToken selector token
            ⟨beforeLast, last, (more ++ .mark '"' :: others).head?, (more ++ .mark '"' :: others).tail.head?⟩
            (inCondition text (String.ofList (name ++ '=' :: '"' :: before))) =
          .ok (inCondition (text ++ token.text)
            (String.ofList (name ++ '=' :: '"' :: before) ++ token.text))) :
        ∃ beforeLast' last',
          readTokens selector beforeLast last (token :: more ++ .mark '"' :: others)
              (inCondition text (String.ofList (name ++ '=' :: '"' :: before))) =
            readTokens selector beforeLast' last' (.mark '"' :: others)
              (inCondition (text ++ String.ofList (token.chars ++ after))
                (String.ofList (name ++ '=' :: '"' :: (before ++ (token.chars ++ after))))) := by
      have plainToken : '"' ∉ token.chars := fun member =>
        plain '"' (List.mem_append_left _ member) (by decide)
      have unquoted' : '"' ∉ before ++ token.chars := by simp [unquoted, plainToken]
      have further : String.ofList (name ++ '=' :: '"' :: before) ++ token.text =
          String.ofList (name ++ '=' :: '"' :: (before ++ token.chars)) := by
        rw [Token.text, ← String.ofList_append]
        simp
      obtain ⟨beforeLast', last', run⟩ := ih (fun c member => plain c (List.mem_append_right _ member))
        unquoted' staysAfter lastIs' (text ++ token.text) last same
      refine ⟨beforeLast', last', ?_⟩
      rw [List.cons_append, readTokens_step step, further, run, String.append_assoc, Token.text,
        ← String.ofList_append, List.append_assoc]
    refine written (staysQuoted_append stays) ?_ ?_
    · rintro c found
      obtain rfl := Option.some.inj found
      exact .inr List.getLast?_concat
    · cases token with
      | word cs => exact readWord_inCondition cs
      | mark c =>
        obtain ⟨⟨bracket, colon⟩, _⟩ :
            ((c = ']' → bracketStays before = true) ∧ (c = ':' → colonStays before after = true)) ∧ _ := by
          simpa [staysQuoted, chars, imp_iff_not_or] using stays
        exact readMark_inValue filled word unquoted (plain c (by simp [chars])) bracket colon lastIs
          (by rw [← same]) (by rw [← same])

end SelectorReader

namespace SelectorTree

open PlainText Draft SelectorReader LegacyForm Text Token

/-- A tag with an attribute condition whose value is quoted. -/
def conditionText (tag name value : String) : String := tag ++ "[" ++ name ++ "=\"" ++ value ++ "\"]"

/-- The tree of a selector that is one regular part. -/
def regularTree (text : String) : SelectorTree :=
  .node .selectorList [.node .selector [.leaf (.regular text)]]

theorem toList_conditionText (tag name value : String) :
    (conditionText tag name value).toList =
      tag.toList ++ '[' :: (name.toList ++ ['='] ++ '"' :: (value.toList ++ ['"', ']'])) := by
  simp [conditionText]

variable {tag name value : String}

theorem tokens_conditionText (tagFilled : tag.toList ≠ [])
    (tagWord : ∀ c ∈ tag.toList, isSelectorMark c = false)
    (nameWord : ∀ c ∈ name.toList, isAttributeMark c = false) :
    textTokens (conditionText tag name value).toList =
      .word tag.toList :: .mark '[' :: .word (name.toList ++ ['=']) :: .mark '"' ::
        (textTokens value.toList ++ [.mark '"', .mark ']']) := by
  have marks : isSelectorMark '[' = true ∧ isSelectorMark '"' = true ∧ isSelectorMark ']' = true := by decide
  obtain ⟨opening, quote, closing⟩ := marks
  have equal : ∀ c ∈ name.toList ++ ['='], isSelectorMark c = false := by
    have sign : ∀ c ∈ ['='], isSelectorMark c = false := by decide
    exact List.forall_mem_append.mpr ⟨fun c member => (Bool.or_eq_false_iff.mp (nameWord c member)).2, sign⟩
  rw [toList_conditionText, textTokens, split_append _ (.cons opening _), split_word tagFilled tagWord,
    split_cons_of_mark opening, split_append _ (.cons quote _), split_word (by simp) equal,
    split_cons_of_mark quote, split_append _ (.cons quote _), split_cons_of_mark quote,
    split_cons_of_mark closing]
  rfl

theorem readTokens_conditionText (selector : String) (tagFilled : tag.toList ≠ [])
    (tagWord : ∀ c ∈ tag.toList, isSelectorMark c = false) (nameFilled : name.toList ≠ [])
    (nameWord : ∀ c ∈ name.toList, isAttributeMark c = false)
    (plain : ∀ c ∈ value.toList, c ∉ quoteBreaks) (stays : staysQuoted [] value.toList = true) :
    readTokens selector none none (textTokens (conditionText tag name value).toList) {} =
      .ok (inRegular [] [] [] (conditionText tag name value)) := by
  let opened := tag ++ "[" ++ String.ofList (name.toList ++ ['=']) ++ "\""
  have opens (around : Surroundings) (last : around.last = some (.word tag.toList)) :
      readToken selector (.mark '[') around (inRegular [] [] [] tag) = .ok (inCondition (tag ++ "[") "") := by
    obtain ⟨beforeLast, _, next, afterNext⟩ := around
    obtain rfl := last
    rfl
  have begins (around : Surroundings) :
      readToken selector (.word tag.toList) around {} = .ok (inRegular [] [] [] tag) := by
    show start (String.ofList tag.toList) {} = _
    rw [String.ofList_toList]
    exact start_empty tag
  have quote (around : Surroundings) (value text : String) :
      readToken selector (.mark '"') around (inCondition value text) =
        .ok (inCondition (value ++ "\"") (text ++ "\"")) := by
    rw [readToken_of_unlisted (by decide)]
    exact readMark_inCondition '"'
  have named : "" ++ String.ofList (name.toList ++ ['=']) ++ "\"" = String.ofList (name.toList ++ ['=', '"']) :=
    String.toList_inj.mp (by simp)
  rw [tokens_conditionText tagFilled tagWord nameWord, readTokens_step (begins _), readTokens_step (opens _ rfl),
    readTokens_step (readWord_inCondition _), readTokens_step (quote _ _ _), named]
  obtain ⟨beforeLast, last, run⟩ := readTokens_value selector nameFilled nameWord plain
    List.not_mem_nil stays (fun c found => .inl (Token.mark.inj (Option.some.inj found)).symm) opened
    (some (.word (name.toList ++ ['=']))) [.mark ']']
  refine run.trans ?_
  have closed : AttributeText.closes (String.ofList (name.toList ++ '=' :: '"' :: ([] ++ value.toList)) ++ "\"") =
      .ok true := by
    have same : String.ofList (name.toList ++ '=' :: '"' :: ([] ++ value.toList)) ++ "\"" =
        String.ofList (name.toList ++ '=' :: '"' :: (value.toList ++ ['"'])) := String.toList_inj.mp (by simp)
    rw [same]
    exact AttributeText.closes_end nameFilled nameWord value.toList
  rw [readTokens_step (quote _ _ _), readTokens_step (readClosing_inCondition closed)]
  simp only [if_true]
  have whole : opened ++ String.ofList value.toList ++ "\"" ++ "]" = conditionText tag name value :=
    String.toList_inj.mp (by simp [opened, conditionText])
  rw [whole]
  rfl

/-- The value of an attribute condition is kept as it is, with whatever brackets, parentheses, commas, colons
and combinators it has, as long as the closing brackets and the colons in it are not taken for more than text. -/
theorem parse_conditionText (tagFilled : tag.toList ≠ []) (tagWord : ∀ c ∈ tag.toList, isSelectorMark c = false)
    (start : ∀ c, tag.toList.head? = some c → isBlank c = false) (nameFilled : name.toList ≠ [])
    (nameWord : ∀ c ∈ name.toList, isAttributeMark c = false) (plain : ∀ c ∈ value.toList, c ∉ quoteBreaks)
    (conditions : ¬opening <:+: (conditionText tag name value).toList)
    (longer : ∀ pair ∈ shorthands, ¬pair.1.toList <:+: (conditionText tag name value).toList)
    (stays : staysQuoted [] value.toList = true) :
    parse (conditionText tag name value) = .ok (regularTree (conditionText tag name value)) := by
  have trimmed : trim (conditionText tag name value).toList = (conditionText tag name value).toList := by
    rw [toList_conditionText]
    refine trim_of_ends (fun c first => start c ?_) fun c last => ?_
    · obtain ⟨d, rest, same⟩ := List.exists_cons_of_ne_nil tagFilled
      rw [same] at first ⊢
      exact first
    · obtain rfl : ']' = c := by simpa [List.getLast?_append, List.getLast?_cons] using last
      decide
  have normal := normalize_of_absent conditions longer trimmed
  rw [String.ofList_toList] at normal
  exact parse_of_run normal (.regular [] _)
    (readTokens_conditionText _ tagFilled tagWord nameFilled nameWord plain stays)

theorem parse_conditionText_marks :
    parse "a[t=\"x]y:(b) > c, d+e]\"]" = .ok (regularTree "a[t=\"x]y:(b) > c, d+e]\"]") := by
  have text : conditionText "a" "t" "x]y:(b) > c, d+e]" = "a[t=\"x]y:(b) > c, d+e]\"]" := by decide +kernel
  rw [← text]
  refine parse_conditionText (by decide) (by decide) (by simp +decide) (by decide) (by decide) (by decide) ?_ ?_
    (by decide +kernel)
  · rw [← occursIn_iff]
    decide +kernel
  · simp only [← occursIn_iff]
    decide +kernel

/-- A closing bracket right after the quote or after an equals sign, the name of an extended pseudo-class after a
colon, and a colon after a space are not taken as text. -/
theorem conditionText_not_kept :
    parse (conditionText "a" "t" "]") ≠ .ok (regularTree (conditionText "a" "t" "]")) ∧
    parse (conditionText "a" "t" "x=]") ≠ .ok (regularTree (conditionText "a" "t" "x=]")) ∧
    parse (conditionText "a" "t" ":has(b)") ≠ .ok (regularTree (conditionText "a" "t" ":has(b)")) ∧
    parse (conditionText "a" "t" "x :y") ≠ .ok (regularTree (conditionText "a" "t" "x :y")) := by
  decide +kernel

end SelectorTree

end CosmeticRules
