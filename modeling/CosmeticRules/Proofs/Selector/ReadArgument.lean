import CosmeticRules.Proofs.Selector.ReadPart

/-!
Reading the argument of an absolute pseudo-class. Parentheses in it are text as long as more of them are open
than pseudo-classes; but a closing one also closes a name, so that a combinator after it leaves the argument.
-/

namespace CosmeticRules

namespace PlainText

/-- The marks in arguments that are neither parentheses nor have a meaning there. -/
def argumentMarks : List Char := [' ', ',', '>', '+', '~']

def isArgumentChar (c : Char) : Bool := !isSelectorMark c || argumentMarks.contains c

/-- Words, spaces, commas, combinators and parentheses, with so many parentheses open before them and none
after them. -/
def isBalanced (depth : Nat) : List Char → Bool
  | [] => depth == 0
  | c :: rest =>
    if c = '(' then isBalanced (depth + 1) rest
    else if c = ')' then depth != 0 && isBalanced (depth - 1) rest
    else isArgumentChar c && isBalanced depth rest

/-- No combinator but the space comes after a closing parenthesis. -/
def SignsLead (s : List Char) : Prop :=
  ∀ before after, s = before ++ ')' :: after → ∀ c ∈ signs, c ∉ after

theorem SignsLead.append {s t : List Char} (unclosed : ')' ∉ s) (lead : SignsLead t) : SignsLead (s ++ t) := by
  intro before after split
  rcases List.append_eq_append_iff.mp split with ⟨middle, _, same⟩ | ⟨middle, same, rest⟩
  · exact lead middle after same
  · cases middle with
    | nil => exact lead [] after rest.symm
    | cons c middle =>
      obtain rfl : ')' = c := (List.cons.inj rest).1
      exact absurd (same ▸ List.mem_append_right before List.mem_cons_self) unclosed

theorem SignsLead.of_unsigned {s : List Char} (unsigned : ∀ c ∈ signs, c ∉ s) : SignsLead s := by
  rintro before after rfl c sign later
  exact unsigned c sign (List.mem_append_right before (List.mem_cons_of_mem _ later))

theorem SignsLead.of_unclosed {s : List Char} (unclosed : ')' ∉ s) : SignsLead s := by
  have nothing : SignsLead [] := .of_unsigned (by simp)
  simpa using nothing.append unclosed

theorem IsArgument.unclosed {s : List Char} (argument : IsArgument s) : ')' ∉ s := by
  intro member
  rcases argument ')' member with named | space | comma
  · exact absurd named (by decide)
  · exact absurd space (by decide)
  · exact absurd comma (by decide)

/-- Plain words do not change the balance. -/
theorem IsArgument.isBalanced_append {s : List Char} (argument : IsArgument s) (depth : Nat) (t : List Char) :
    isBalanced depth (s ++ t) = isBalanced depth t := by
  induction s with
  | nil => rfl
  | cons c rest ih =>
    obtain ⟨here, others⟩ := List.forall_mem_cons.mp argument
    have text : c ≠ '(' ∧ c ≠ ')' ∧ isArgumentChar c = true := by
      rcases here with named | rfl | rfl
      · refine ⟨?_, ?_, by rw [isArgumentChar, isSelectorMark_of_isPlainChar named]; rfl⟩ <;>
          rintro rfl <;> exact absurd named (by decide)
      · decide
      · decide
    rw [List.cons_append, isBalanced, if_neg text.1, if_neg text.2.1, text.2.2, Bool.true_and]
    exact ih others

theorem IsArgument.balanced {s : List Char} (argument : IsArgument s) : isBalanced 0 s = true := by
  simpa [isBalanced] using argument.isBalanced_append 0 []

/-- `isBalanced` for tokens. -/
def AreBalanced (depth : Nat) : List Token → Prop
  | [] => depth = 0
  | .word _ :: rest => AreBalanced depth rest
  | .mark c :: rest =>
    if c = '(' then AreBalanced (depth + 1) rest
    else if c = ')' then depth ≠ 0 ∧ AreBalanced (depth - 1) rest
    else c ∈ argumentMarks ∧ AreBalanced depth rest

theorem areBalanced_consWord {depth : Nat} {c : Char} {tokens : List Token}
    (balanced : AreBalanced depth tokens) : AreBalanced depth (Token.consWord c tokens) := by
  cases tokens with
  | nil => exact balanced
  | cons token rest => cases token <;> exact balanced

theorem areBalanced_textTokens {depth : Nat} {s : List Char} (balanced : isBalanced depth s = true) :
    AreBalanced depth (textTokens s) := by
  induction s generalizing depth with
  | nil => exact eq_of_beq balanced
  | cons c rest ih =>
    have parentheses : isSelectorMark '(' = true ∧ isSelectorMark ')' = true := by decide
    rw [isBalanced] at balanced
    rw [textTokens, Token.split]
    split at balanced
    · rename_i opening
      subst opening
      rw [if_pos parentheses.1, AreBalanced, if_pos rfl]
      exact ih balanced
    · rename_i notOpening
      split at balanced
      · rename_i closing
        subst closing
        obtain ⟨inside, more⟩ := Bool.and_eq_true_iff.mp balanced
        rw [if_pos parentheses.2, AreBalanced, if_neg notOpening, if_pos rfl]
        exact ⟨bne_iff_ne.mp inside, ih more⟩
      · rename_i notClosing
        obtain ⟨text, more⟩ := Bool.and_eq_true_iff.mp balanced
        split
        · rename_i marked
          rw [AreBalanced, if_neg notOpening, if_neg notClosing]
          rw [isArgumentChar, marked, Bool.not_true, Bool.false_or, List.contains_iff_mem] at text
          exact ⟨text, ih more⟩
        · exact areBalanced_consWord (ih more)

/-- `SignsLead` for tokens. -/
def SignTokensLead (tokens : List Token) : Prop :=
  ∀ before after, tokens = before ++ .mark ')' :: after → ∀ c ∈ signs, .mark c ∉ after

theorem SignsLead.tokens {s : List Char} (lead : SignsLead s) : SignTokensLead (textTokens s) := by
  intro before after split c sign member
  have whole : s = before.flatMap Token.chars ++ ')' :: after.flatMap Token.chars := by
    have same := Token.flatMap_chars_split isSelectorMark s
    rw [← textTokens, split, List.flatMap_append, List.flatMap_cons] at same
    exact same.symm
  exact lead _ _ whole c sign (List.mem_flatMap_of_mem member (List.mem_singleton_self c))

theorem SignTokensLead.tail {token : Token} {rest : List Token} (lead : SignTokensLead (token :: rest)) :
    SignTokensLead rest := fun before after split =>
  lead (token :: before) after (by rw [split]; rfl)

end PlainText

namespace Draft

open PlainText SelectorTree

/-- Open at the argument of the pseudo-class of the last part, with these names and brackets still to be
closed. -/
def inArgument (frames : List Frame) (names : List String) (brackets : Nat)
    (before parts : List SelectorTree) (pseudo : PseudoClass) (argument : String) : Draft :=
  within frames names brackets
    (openList before (parts ++ [.node .extended [.leaf (.absolute pseudo argument)]]))
    [before.length, parts.length, 0]

variable {frames : List Frame} {names : List String} {brackets : Nat} {before parts : List SelectorTree}
  {pseudo : PseudoClass} {argument : String}

theorem open?_inArgument :
    (inArgument frames names brackets before parts pseudo argument).open? =
      some (.leaf (.absolute pseudo argument)) := by
  rw [inArgument, open?_within, at?_openList_last]
  rfl

theorem openClass?_inArgument :
    (inArgument frames names brackets before parts pseudo argument).openClass? = some .absolute := by
  rw [openClass?, open?_inArgument]
  rfl

variable (brackets) in
theorem write_inArgument (text : String) :
    (inArgument frames names brackets before parts pseudo argument).write text =
      .ok (inArgument frames names brackets before parts pseudo (argument ++ text)) := by
  rw [inArgument, write_within _ _ _ (at?_openList_last before parts _ [0]) rfl, modifyAt_openList_last]
  rfl

/-- A combinator stays in an argument while the name of its pseudo-class is the innermost. -/
theorem resume_inArgument (absolute : pseudo.isAbsolute = true) (innermost : names.head? = some pseudo.name) :
    (inArgument frames names brackets before parts pseudo argument).resume =
      .ok (inArgument frames names brackets before parts pseudo argument) := by
  refine resume_within frames before parts rfl ?_
  simp [isUnclosed, within, absolute, innermost]

end Draft

namespace SelectorReader

open PlainText Draft

variable {selector : String} {around : Surroundings} {frames : List Frame} {names : List String}
  {brackets : Nat} {before parts : List SelectorTree} {pseudo : PseudoClass} {argument : String}

theorem readWord_inArgument (cs : List Char) :
    readToken selector (.word cs) around (inArgument frames names brackets before parts pseudo argument) =
      .ok (inArgument frames names brackets before parts pseudo (argument ++ String.ofList cs)) := by
  show readWord selector (.word cs) around _ = _
  rw [readWord, openClass?_inArgument]
  exact write_inArgument _ _

/-- The marks without a meaning in arguments are written. A combinator has to be led by the name. -/
theorem readMark_inArgument (absolute : pseudo.isAbsolute = true) {c : Char} (free : c ∈ argumentMarks)
    (innermost : c ∈ signs → names.head? = some pseudo.name) (next : around.next.isNone = false) :
    readToken selector (.mark c) around (inArgument frames names brackets before parts pseudo argument) =
      .ok (inArgument frames names brackets before parts pseudo (argument ++ String.singleton c)) := by
  by_cases sign : c ∈ signs
  · have combines : ∀ c ∈ signs, isCombinator c = true ∧ (c == '/') = false := by decide
    rw [readToken_of_plainMark selector around (Or.inr sign), readMark]
    simp only [combines c sign, if_true, openClass?_inArgument, Option.isNone_some, Bool.false_eq_true,
      if_false, resume_inArgument absolute (innermost sign), ok_bind, write_inArgument, Bool.false_and]
  · simp only [argumentMarks, List.mem_cons, List.not_mem_nil, or_false] at free
    rcases free with rfl | rfl | others
    · show readSpace selector around _ = _
      rw [readSpace, openClass?_inArgument, if_neg (by simp)]
      simp only [ok_bind, openClass?_inArgument]
      exact write_inArgument _ " "
    · show readComma selector around _ = _
      rw [readComma, next, if_neg Bool.false_ne_true, openClass?_inArgument]
      exact write_inArgument _ ","
    · exact absurd (by simpa [signs] using others) sign

/-- A parenthesis that opens no argument is text. -/
theorem readOpening_inArgument (room : names.length ≤ brackets) :
    readToken selector (.mark '(') around (inArgument frames names brackets before parts pseudo argument) =
      .ok (inArgument frames names (brackets + 1) before parts pseudo (argument ++ "(")) := by
  have plain : (inArgument frames names brackets before parts pseudo argument).inPattern = false := rfl
  have more : brackets + 1 > names.length := Nat.lt_succ_of_le room
  show readOpeningParenthesis _ = _
  rw [readOpeningParenthesis, openClass?_inArgument]
  simp only [plain, Bool.and_false, Bool.false_eq_true, if_false]
  exact (if_pos more).trans (write_inArgument (brackets + 1) "(")

theorem closeArgument_inArgument (other : pseudo ≠ .xpath) :
    closeArgument (inArgument frames names (brackets + 1) before parts pseudo argument) =
      if brackets > names.tail.length then
        .ok (inArgument frames names.tail brackets before parts pseudo (argument ++ ")"))
      else .ok ((inArgument frames names.tail brackets before parts pseudo argument).ascend .selector) := by
  have path : ((inArgument frames names (brackets + 1) before parts pseudo argument).openPseudo? ==
      some .xpath) = false := by
    rw [openPseudo?, open?_inArgument]
    exact beq_false_of_ne fun same => other (Option.some.inj same)
  have plain : (inArgument frames names (brackets + 1) before parts pseudo argument).inPattern = false := rfl
  rw [closeArgument, path]
  simp only [plain, Bool.and_false, Bool.false_eq_true, if_false]
  exact if_congr Iff.rfl (write_inArgument brackets ")") rfl

/-- A parenthesis that closes one in the argument is text, but closes a name as well. -/
theorem readInnerClosing_inArgument (other : pseudo ≠ .xpath) (room : names.tail.length < brackets) :
    readToken selector (.mark ')') around
        (inArgument frames names (brackets + 1) before parts pseudo argument) =
      .ok (inArgument frames names.tail brackets before parts pseudo (argument ++ ")")) := by
  show readClosingParenthesis around _ = _
  rw [readClosingParenthesis, openClass?_inArgument]
  exact (closeArgument_inArgument other).trans (if_pos room)

/-- The parenthesis after the argument. -/
theorem readClosing_inArgument (other : pseudo ≠ .xpath) (outer : names.tail = openNames frames) :
    readToken selector (.mark ')') around
        (inArgument frames names (frames.length + 1) before parts pseudo argument) =
      .ok (inSelector frames before (parts ++ [.node .extended [.leaf (.absolute pseudo argument)]])) := by
  have left : ¬(frames.length > names.tail.length) := by simp [outer, openNames]
  have closed : (inArgument frames (openNames frames) frames.length before parts pseudo argument).ascend
      .selector =
      inSelector frames before (parts ++ [.node .extended [.leaf (.absolute pseudo argument)]]) :=
    ascend_within _ _ _ (closest?_selector_openList before parts _ [0] rfl)
  show readClosingParenthesis around _ = _
  rw [readClosingParenthesis, openClass?_inArgument]
  refine (closeArgument_inArgument other).trans ((if_neg left).trans ?_)
  rw [outer, closed]

/-! The tokens of an argument. -/

open Token

variable (selector frames before parts) in
/-- The tokens of an argument are written one after the other. Each closing parenthesis takes a name away. -/
theorem readTokens_argument (absolute : pseudo.isAbsolute = true) (other : pseudo ≠ .xpath) {depth : Nat}
    {texts : List Token} (balanced : AreBalanced depth texts) {names : List String}
    (room : names.length ≤ brackets) (filled : 0 < brackets)
    (led : names.head? = some pseudo.name ∧ SignTokensLead texts ∨ ∀ c ∈ signs, .mark c ∉ texts)
    {others : List Token} (continued : others ≠ []) (argument : String) (beforeLast last : Option Token) :
    ∃ beforeLast' last', readTokens selector beforeLast last (texts ++ others)
        (inArgument frames names (brackets + depth) before parts pseudo argument) =
      readTokens selector beforeLast' last' others (inArgument frames
        (names.drop (texts.count (.mark ')'))) brackets before parts pseudo
        (argument ++ String.ofList (texts.flatMap chars))) := by
  induction texts generalizing depth names argument beforeLast last with
  | nil =>
    obtain rfl : depth = 0 := balanced
    exact ⟨beforeLast, last, by simp⟩
  | cons token rest ih =>
    have next : (rest ++ others).head?.isNone = false := by
      obtain ⟨other, more, rfl⟩ := List.exists_cons_of_ne_nil continued
      cases rest <;> rfl
    have ledRest : names.head? = some pseudo.name ∧ SignTokensLead rest ∨ ∀ c ∈ signs, .mark c ∉ rest :=
      led.imp (And.imp_right SignTokensLead.tail) fun none c sign later =>
        none c sign (List.mem_cons_of_mem _ later)
    have written (depth' : Nat) (names' : List String) (balanced' : AreBalanced depth' rest)
        (room' : names'.length ≤ brackets)
        (led' : names'.head? = some pseudo.name ∧ SignTokensLead rest ∨ ∀ c ∈ signs, .mark c ∉ rest)
        (kept : names'.drop (rest.count (.mark ')')) = names.drop ((token :: rest).count (.mark ')')))
        (step : readToken selector token
            ⟨beforeLast, last, (rest ++ others).head?, (rest ++ others).tail.head?⟩
            (inArgument frames names (brackets + depth) before parts pseudo argument) =
          .ok (inArgument frames names' (brackets + depth') before parts pseudo (argument ++ token.text))) :
        ∃ beforeLast' last', readTokens selector beforeLast last (token :: rest ++ others)
            (inArgument frames names (brackets + depth) before parts pseudo argument) =
          readTokens selector beforeLast' last' others (inArgument frames
            (names.drop ((token :: rest).count (.mark ')'))) brackets before parts pseudo
            (argument ++ String.ofList ((token :: rest).flatMap chars))) := by
      obtain ⟨beforeLast', last', run⟩ := ih balanced' room' led' (argument ++ token.text) last (some token)
      refine ⟨beforeLast', last', ?_⟩
      rw [List.cons_append, readTokens_step step, run, kept, String.append_assoc, Token.text,
        ← String.ofList_append]
      rfl
    cases token with
    | word cs => exact written depth names balanced room ledRest (by simp) (readWord_inArgument cs)
    | mark c =>
      rw [AreBalanced] at balanced
      split at balanced
      · rename_i opening
        subst opening
        exact written (depth + 1) names balanced room ledRest (by simp)
          (readOpening_inArgument (room.trans (Nat.le_add_right _ _)))
      · split at balanced
        · rename_i closing
          subst closing
          obtain ⟨inside, more⟩ := balanced
          obtain ⟨depth, rfl⟩ := Nat.exists_eq_succ_of_ne_zero inside
          have shorter : names.tail.length < brackets := by
            rw [List.length_tail]
            omega
          -- From here on no combinator follows, so the name may go.
          have unsigned : ∀ c ∈ signs, .mark c ∉ rest := by
            rcases led with ⟨_, lead⟩ | none
            · exact lead [] rest rfl
            · exact fun c sign later => none c sign (List.mem_cons_of_mem _ later)
          exact written depth names.tail more shorter.le (.inr unsigned) (by simp)
            (readInnerClosing_inArgument other (shorter.trans_le (Nat.le_add_right _ _)))
        · rename_i notClosing
          obtain ⟨free, more⟩ := balanced
          have innermost : c ∈ signs → names.head? = some pseudo.name := by
            intro sign
            rcases led with ⟨innermost, _⟩ | none
            · exact innermost
            · exact absurd List.mem_cons_self (none c sign)
          exact written depth names more room ledRest (by simp [notClosing])
            (readMark_inArgument absolute free innermost next)

variable (selector) in
/-- The colon, the name and the parenthesis before an argument. -/
theorem readTokens_pseudo {pseudo : PseudoClass} (printed : pseudo ∈ printedPseudos) {d : Draft}
    (after : IsAfter frames before parts d) (beforeLast : Option Token) {last : Option Token}
    (settled : Settled last d) (s : List Char) :
    readTokens selector beforeLast last (textTokens (':' :: pseudo.name.toList ++ '(' :: s)) d =
      readTokens selector (some (nameToken pseudo)) (some (.mark '(')) (textTokens s)
        (inPseudo frames before parts pseudo (emptyKind pseudo) 1) := by
  have named : pseudo.name.toList ≠ [] ∧ ∀ c ∈ pseudo.name.toList, isSelectorMark c = false := by
    cases pseudo <;> decide
  have tokens : textTokens (':' :: pseudo.name.toList ++ '(' :: s) =
      [.mark ':', nameToken pseudo, .mark '('] ++ textTokens s := by
    have opening : isSelectorMark '(' = true := by decide
    rw [List.cons_append, textTokens, split_cons_of_mark (by decide),
      split_append _ (EndsWord.cons opening s), split_word named.1 named.2, split_cons_of_mark opening]
    rfl
  rw [tokens]
  show readTokens selector beforeLast last (.mark ':' :: nameToken pseudo :: .mark '(' :: textTokens s) d = _
  rw [readTokens_step (after.readColon printed rfl settled), readTokens_step (readName_inExtended printed rfl),
    readTokens_step (readOpening_inPseudo pseudo)]

/-- A pseudo-class with an argument. At the top level the argument may hold parentheses. -/
theorem leads_argument {pseudo : PseudoClass} (known : pseudo ∈ SelectorTree.wordPseudos) {argument : String}
    (balanced : isBalanced 0 argument.toList = true) (lead : SignsLead argument.toList)
    (outside : frames = [] ∨ ')' ∉ argument.toList) {d : Draft} (after : IsAfter frames before parts d) :
    Leads selector (':' :: pseudo.name.toList ++ '(' :: argument.toList ++ [')']) d
      (inSelector frames before (parts ++ [.node .extended [.leaf (.absolute pseudo argument)]])) := by
  intro beforeLast last rest settled _
  have printed : pseudo ∈ printedPseudos := by simp [printedPseudos, known]
  obtain ⟨absolute, other, empty⟩ : pseudo.isAbsolute = true ∧ pseudo ≠ .xpath ∧
      emptyKind pseudo = .absolute pseudo "" := by
    revert pseudo
    decide
  have closing : isSelectorMark ')' = true := by decide
  have tokens : textTokens (argument.toList ++ ')' :: rest) =
      textTokens argument.toList ++ .mark ')' :: textTokens rest := by
    rw [textTokens, split_append _ (EndsWord.cons closing rest), split_cons_of_mark closing]
  have room : (pseudo.name :: openNames frames).length ≤ frames.length + 1 := by simp [openNames]
  obtain ⟨beforeLast', last', run⟩ := readTokens_argument selector frames before parts absolute other
    (areBalanced_textTokens balanced) room (Nat.succ_pos _) (.inl ⟨rfl, lead.tokens⟩)
    (List.cons_ne_nil (.mark ')') (textTokens rest)) "" (some (nameToken pseudo)) (some (.mark '('))
  rw [flatMap_chars_split, String.ofList_toList, String.empty_append] at run
  have outer : ((pseudo.name :: openNames frames).drop ((textTokens argument.toList).count (.mark ')'))).tail =
      openNames frames := by
    rcases outside with rfl | none
    · cases (textTokens argument.toList).count (.mark ')') <;> simp [openNames]
    · rw [List.count_eq_zero_of_not_mem fun member => none (mem_of_mark_mem_split member)]
      rfl
  refine ⟨last', some (.mark ')'),
    settled_of_openClass? (openClass?_inSelector frames before _) (by decide), ?_⟩
  have start := readTokens_pseudo selector printed after beforeLast settled
    (argument.toList ++ ')' :: rest)
  rw [empty, tokens] at start
  refine Eq.trans ?_ (start.trans (run.trans (readTokens_step (readClosing_inArgument other outer))))
  simp

end SelectorReader

end CosmeticRules
