import CosmeticRules.Proofs.Selector.Inversion

/-!
Arguments with parentheses in them, inside any number of `:has()`. At the top level the reader takes such an
argument as it is; inside other pseudo-classes it does so when the argument has no parentheses of its own.
-/

namespace CosmeticRules

namespace SelectorTree

open PlainText Draft SelectorReader LegacyForm Text

/-- A paragraph with this pseudo-class, in so many divisions that have the next one inside. -/
def enclosed (inner : NodeKind) : Nat → SelectorTree
  | 0 => .node .selectorList [.node .selector [.leaf (.regular "p"), .node .extended [.leaf inner]]]
  | depth + 1 => .node .selectorList [.node .selector [.leaf (.regular "div"),
      .node .extended [.node (.relative .has) [enclosed inner depth]]]]

/-- What a pseudo-class with an argument stands for: two of them are shorter ways to write a third one. -/
def currentKind (pseudo : PseudoClass) (argument : String) : NodeKind :=
  match pseudo with
  | .matchesCssBefore => .absolute .matchesCss ("before," ++ argument)
  | .matchesCssAfter => .absolute .matchesCss ("after," ++ argument)
  | _ => .absolute pseudo argument

/-! The print. -/

/-- What is printed before the innermost pseudo-class. -/
def enclosing : Nat → List Char
  | 0 => ['p']
  | depth + 1 => ['d', 'i', 'v', ':', 'h', 'a', 's', '('] ++ enclosing depth

theorem print_enclosed_succ (inner : NodeKind) (depth : Nat) :
    (enclosed inner (depth + 1)).print = "div".toList ++
      (':' :: PseudoClass.has.name.toList ++ '(' :: (enclosed inner depth).print ++ [')']) := by
  have inside : ∃ selectors, enclosed inner depth = .node .selectorList selectors := by
    cases depth <;> exact ⟨_, rfl⟩
  obtain ⟨selectors, same⟩ := inside
  rw [enclosed, same, print, print, printList_cons, printParts_relative]
  simp [printParts, printList]

theorem print_enclosed (pseudo : PseudoClass) (argument : String) (depth : Nat) :
    (enclosed (.absolute pseudo argument) depth).print = enclosing depth ++
      (':' :: pseudo.name.toList ++ '(' :: (argument.toList ++ List.replicate (depth + 1) ')')) := by
  induction depth with
  | zero =>
    rw [enclosed, print, printList_cons, printParts_absolute]
    simp [enclosing, printParts, printList]
  | succ depth ih =>
    rw [print_enclosed_succ, ih, enclosing, List.replicate_succ' (n := depth + 1)]
    simp [PseudoClass.name]

theorem enclosing_cons (depth : Nat) : ∃ c rest, enclosing depth = c :: rest ∧ (c = 'p' ∨ c = 'd') := by
  cases depth with
  | zero => exact ⟨'p', [], rfl, .inl rfl⟩
  | succ depth => exact ⟨'d', _, rfl, .inr rfl⟩

theorem getLast?_enclosing (depth : Nat) : (enclosing depth).getLast? = some 'p' := by
  induction depth with
  | zero => rfl
  | succ depth ih =>
    obtain ⟨c, rest, same, _⟩ := enclosing_cons depth
    have filled : enclosing depth ≠ [] := same ▸ List.cons_ne_nil c rest
    rw [enclosing, List.getLast?_append_of_ne_nil _ filled, ih]

theorem isCurrent_enclosing (depth : Nat) : IsCurrent (enclosing depth) := by
  induction depth with
  | zero => exact isCurrent_of_plain (by decide)
  | succ depth ih =>
    obtain ⟨c, rest, same, letter⟩ := enclosing_cons depth
    have start : (enclosing depth).head? ≠ some ':' := by
      rw [same, List.head?_cons]
      rcases letter with rfl | rfl <;> decide
    have has : PseudoClass.has ∈ printedPseudos := by decide
    have div : IsCurrent ['d', 'i', 'v'] := isCurrent_of_plain (by decide)
    exact div.append (IsCurrent.named has ih start) (Or.inr (by decide))

theorem isCurrent_of_balanced {depth : Nat} {s : List Char} (balanced : isBalanced depth s = true) :
    IsCurrent s ∧ s.head? ≠ some ':' := by
  have bracket : isArgumentChar '[' = false := by decide
  have colon : isArgumentChar ':' = false := by decide
  induction s generalizing depth with
  | nil => exact ⟨trivial, by decide⟩
  | cons c rest ih =>
    have here : ∃ depth, isBalanced depth rest = true ∧ c ≠ '[' ∧ c ≠ ':' := by
      rw [isBalanced] at balanced
      split at balanced
      · rename_i opening
        exact ⟨_, balanced, by rw [opening]; decide⟩
      · split at balanced
        · rename_i closing
          exact ⟨_, (Bool.and_eq_true_iff.mp balanced).2, by rw [closing]; decide⟩
        · obtain ⟨text, more⟩ := Bool.and_eq_true_iff.mp balanced
          refine ⟨_, more, ?_, ?_⟩
          · rintro rfl
            exact absurd text (by rw [bracket]; decide)
          · rintro rfl
            exact absurd text (by rw [colon]; decide)
    obtain ⟨depth, more, unbracketed, notColon⟩ := here
    obtain ⟨current, start⟩ := ih more
    exact ⟨⟨unbracketed, fun _ => start, fun same => absurd same notColon, current⟩, by simpa using notColon⟩

/-! The current spelling. -/

/-- The pseudo-classes with a text as argument. -/
theorem mem_wordPseudos_or {pseudo : PseudoClass} (absolute : pseudo.isAbsolute = true)
    (other : pseudo ≠ .xpath) :
    pseudo ∈ wordPseudos ∨ pseudo = .matchesCssBefore ∨ pseudo = .matchesCssAfter := by
  cases pseudo with
  | xpath => exact absurd rfl other
  | has => exact absurd absolute (by decide)
  | abpHas => exact absurd absolute (by decide)
  | is => exact absurd absolute (by decide)
  | not => exact absurd absolute (by decide)
  | _ => decide

/-- A style pseudo-class for a pseudo-element, as it was written and as it is written now. -/
structure IsStyled (pair : String × String) : Prop where
  member : pair ∈ shorthands.tail
  longer : ∃ name, pair.1.toList = ':' :: name ++ ['('] ∧ ∀ c ∈ name, c ≠ '[' ∧ c ≠ '(' ∧ c ≠ ':'
  shorter : ∃ element, pair.2.toList = ':' :: PseudoClass.matchesCss.name.toList ++ '(' :: element ∧
    element ≠ [] ∧ ∀ c ∈ element, c ≠ '[' ∧ c ≠ '(' ∧ c ≠ ':'
  apart : ∀ first ∈ shorthands, first ≠ pair →
    ¬first.1.toList <+: pair.1.toList ∧ ¬pair.1.toList <+: first.1.toList

theorem IsStyled.of_mem {pair : String × String} (member : pair ∈ shorthands.tail) : IsStyled pair := by
  obtain rfl | rfl : pair = (":matches-css-before(", ":matches-css(before,") ∨
      pair = (":matches-css-after(", ":matches-css(after,") := by simpa [shorthands] using member
  · exact ⟨by decide, ⟨"matches-css-before".toList, by decide, by decide⟩,
      ⟨"before,".toList, by decide, by decide, by decide⟩, by decide⟩
  · exact ⟨by decide, ⟨"matches-css-after".toList, by decide, by decide⟩,
      ⟨"after,".toList, by decide, by decide, by decide⟩, by decide⟩

section styled

variable {s t : List Char} {pair : String × String} (styled : IsStyled pair)

include styled in
/-- The spelling now, between texts in the current spelling. -/
theorem IsStyled.isCurrent (before : IsCurrent s) (apart : s.getLast? ≠ some '(') (after : IsCurrent t) :
    IsCurrent (s ++ (pair.2.toList ++ t)) := by
  obtain ⟨element, same, filled, plain⟩ := styled.shorter
  obtain ⟨c, rest, rfl⟩ := List.exists_cons_of_ne_nil filled
  have named : PseudoClass.matchesCss ∈ printedPseudos := by decide
  have argument : IsCurrent (c :: rest ++ t) := (isCurrent_of_plain plain).append after <|
    Or.inr fun last => (plain '(' (List.mem_of_getLast? last)).2.1 rfl
  have start : (c :: rest ++ t).head? ≠ some ':' := fun first =>
    (plain c List.mem_cons_self).2.2 (Option.some.inj first)
  have whole := IsCurrent.named named argument start
  rw [same, List.append_assoc]
  exact before.append whole (Or.inr apart)

include styled in
/-- Another spelling does not begin with the colon of a style pseudo-class, and none begins after it. -/
theorem IsStyled.not_infix (after : IsCurrent t) (start : t.head? ≠ some ':') {first : String × String}
    (member : first ∈ shorthands) (other : first ≠ pair) : ¬first.1.toList <:+: pair.1.toList ++ t := by
  obtain ⟨shorter, longer⟩ := styled.apart first member other
  obtain ⟨name, same, plain⟩ := styled.longer
  have opened : IsCurrent ('(' :: t) :=
    ⟨by decide, fun _ => start, fun colon => absurd colon (by decide), after⟩
  have rest : IsCurrent (name ++ '(' :: t) := (isCurrent_of_plain plain).append opened (Or.inl (by simp))
  intro inside
  rw [same, List.append_assoc, List.cons_append, List.infix_cons_iff] at inside
  rcases inside with here | later
  · have both : first.1.toList <+: pair.1.toList ++ t := by rwa [same, List.append_assoc, List.cons_append]
    rcases List.prefix_or_prefix_of_prefix both (List.prefix_append pair.1.toList t) with inner | outer
    · exact shorter inner
    · exact longer outer
  · exact absent_of_isCurrent rest member later

include styled in
/-- A style pseudo-class for a pseudo-element becomes the one that names the pseudo-element in its argument. -/
theorem IsStyled.replaceShorthands (before : IsCurrent s) (apart : s.getLast? ≠ some '(')
    (after : IsCurrent t) (start : t.head? ≠ some ':') :
    replaceShorthands (s ++ (pair.1.toList ++ t)) = s ++ (pair.2.toList ++ t) := by
  have current := styled.isCurrent before apart after
  have known : pair ∈ shorthands := List.mem_of_mem_tail styled.member
  have others (first : String × String) (member : first ∈ shorthands) (other : first ≠ pair) :
      replaceAll first.1.toList first.2.toList (s ++ (pair.1.toList ++ t)) = s ++ (pair.1.toList ++ t) := by
    rw [replaceAll_append_of_isCurrent before member (Or.inr apart),
      replaceAll_of_absent _ (styled.not_infix after start member other)]
  have replaced : replaceAll pair.1.toList pair.2.toList (s ++ (pair.1.toList ++ t)) =
      s ++ (pair.2.toList ++ t) := by
    have filled : ∀ pair ∈ shorthands, pair.1.toList ≠ [] := by decide
    rw [replaceAll_append_of_isCurrent before known (Or.inr apart),
      replaceAll_needle_append _ (filled pair known), replaceAll_of_absent _ (absent_of_isCurrent after known)]
  have run : ∀ pairs : List (String × String), (∀ first ∈ pairs, first ∈ shorthands) → pair ∈ pairs →
      pairs.foldl (fun text pair => replaceAll pair.1.toList pair.2.toList text)
        (s ++ (pair.1.toList ++ t)) = s ++ (pair.2.toList ++ t) := by
    intro pairs
    induction pairs with
    | nil => exact fun _ member => absurd member List.not_mem_nil
    | cons first rest ih =>
      intro listed member
      obtain ⟨here, more⟩ := List.forall_mem_cons.mp listed
      rw [List.foldl_cons]
      by_cases same : first = pair
      · rw [same, replaced]
        exact foldl_replaceAll_of_absent fun later inRest => absent_of_isCurrent current (more later inRest)
      · rw [others first here same]
        exact ih more ((List.mem_cons.mp member).resolve_left (Ne.symm same))
  exact run shorthands (fun _ listed => listed) known

include styled in
theorem IsStyled.normalize (before : IsCurrent s) (apart : s.getLast? ≠ some '(') (after : IsCurrent t)
    (start : t.head? ≠ some ':') (trimmed : trim (s ++ (pair.1.toList ++ t)) = s ++ (pair.1.toList ++ t)) :
    normalize (String.ofList (s ++ (pair.1.toList ++ t))) = .ok (s ++ (pair.2.toList ++ t)) := by
  have plain : ∀ pair ∈ shorthands.tail, '[' ∉ pair.1.toList := by decide
  have unbracketed : '[' ∉ s ++ (pair.1.toList ++ t) := by
    simp [before.unbracketed, after.unbracketed, plain pair styled.member]
  have none : occursIn opening (s ++ (pair.2.toList ++ t)) = false := Bool.eq_false_iff.mpr fun found =>
    opening_absent (styled.isCurrent before apart after).unbracketed (occursIn_iff.mp found)
  rw [LegacyForm.normalize, String.toList_ofList, trimmed,
    replaceConditions_of_absent (opening_absent unbracketed), styled.replaceShorthands before apart after start]
  simp only [none, Bool.false_eq_true, if_false]

end styled

/-- The argument with the parentheses that close it and what is around it. -/
theorem isCurrent_closing {argument : List Char} (balanced : isBalanced 0 argument = true) (depth : Nat) :
    IsCurrent (argument ++ List.replicate depth ')') ∧ (argument ++ List.replicate depth ')').head? ≠ some ':' := by
  have closing : ∀ c ∈ List.replicate depth ')', c ≠ '[' ∧ c ≠ '(' ∧ c ≠ ':' := by
    intro c member
    rw [List.eq_of_mem_replicate member]
    decide
  have start : (List.replicate depth ')').head? ≠ some ':' := fun first =>
    (closing ':' (List.mem_of_head? first)).2.2 rfl
  obtain ⟨current, first⟩ := isCurrent_of_balanced balanced
  refine ⟨current.append (isCurrent_of_plain closing) (Or.inl start), ?_⟩
  cases argument with
  | nil => exact start
  | cons c rest => exact first

theorem trim_print_enclosed (pseudo : PseudoClass) (argument : String) (depth : Nat) :
    trim (enclosed (.absolute pseudo argument) depth).print =
      (enclosed (.absolute pseudo argument) depth).print := by
  rw [print_enclosed]
  refine trim_of_ends (fun c first => ?_) fun c last => ?_
  · obtain ⟨d, rest, same, letter⟩ := enclosing_cons depth
    rw [same] at first
    obtain rfl : d = c := Option.some.inj first
    rcases letter with rfl | rfl <;> decide
  · rw [List.replicate_succ'] at last
    obtain rfl : ')' = c := by simpa [List.getLast?_append, List.getLast?_cons] using last
    decide

theorem print_styled {pseudo : PseudoClass} (style : pseudo = .matchesCssBefore ∨ pseudo = .matchesCssAfter)
    (argument : String) (depth : Nat) :
    ∃ pair, IsStyled pair ∧
      (enclosed (.absolute pseudo argument) depth).print =
        enclosing depth ++ (pair.1.toList ++ (argument.toList ++ List.replicate (depth + 1) ')')) ∧
      (enclosed (currentKind pseudo argument) depth).print =
        enclosing depth ++ (pair.2.toList ++ (argument.toList ++ List.replicate (depth + 1) ')')) := by
  rcases style with rfl | rfl
  · refine ⟨(":matches-css-before(", ":matches-css(before,"), .of_mem (by decide), ?_, ?_⟩ <;>
      simp [currentKind, print_enclosed, PseudoClass.name]
  · refine ⟨(":matches-css-after(", ":matches-css(after,"), .of_mem (by decide), ?_, ?_⟩ <;>
      simp [currentKind, print_enclosed, PseudoClass.name]

theorem currentKind_of_mem {pseudo : PseudoClass} (known : pseudo ∈ wordPseudos) (argument : String) :
    currentKind pseudo argument = .absolute pseudo argument := by
  cases pseudo with
  | matchesCssBefore => exact absurd known (by decide)
  | matchesCssAfter => exact absurd known (by decide)
  | _ => rfl

theorem normalize_enclosed {pseudo : PseudoClass} (absolute : pseudo.isAbsolute = true)
    (other : pseudo ≠ .xpath) {argument : String} (balanced : isBalanced 0 argument.toList = true)
    (depth : Nat) :
    normalize (String.ofList (enclosed (.absolute pseudo argument) depth).print) =
      .ok (enclosed (currentKind pseudo argument) depth).print := by
  have before := isCurrent_enclosing depth
  have outside : (enclosing depth).getLast? ≠ some '(' := by rw [getLast?_enclosing]; decide
  obtain ⟨after, start⟩ := isCurrent_closing balanced (depth + 1)
  have trimmed := trim_print_enclosed pseudo argument depth
  rcases mem_wordPseudos_or absolute other with known | style
  · have printed : pseudo ∈ printedPseudos := List.mem_cons_of_mem _ (List.mem_cons_of_mem _ known)
    rw [currentKind_of_mem known]
    refine normalize_of_isCurrent ?_ trimmed
    rw [print_enclosed]
    exact before.append (IsCurrent.named printed after start) (Or.inr outside)
  · obtain ⟨pair, styled, long, short⟩ := print_styled style argument depth
    rw [long] at trimmed ⊢
    rw [short]
    exact styled.normalize before outside after start trimmed

/-! Reading. -/

/-- The pseudo-class that is read in the current spelling, with what is known of its argument. -/
theorem currentKind_cases {pseudo : PseudoClass} (absolute : pseudo.isAbsolute = true)
    (other : pseudo ≠ .xpath) {argument : String} (balanced : isBalanced 0 argument.toList = true)
    (lead : SignsLead argument.toList) :
    ∃ current ∈ wordPseudos, ∃ text : String, currentKind pseudo argument = .absolute current text ∧
      isBalanced 0 text.toList = true ∧ SignsLead text.toList ∧
      (')' ∉ argument.toList → ')' ∉ text.toList) := by
  have led (element : String) (plain : IsArgument element.toList) :
      isBalanced 0 (element ++ argument).toList = true ∧ SignsLead (element ++ argument).toList ∧
        (')' ∉ argument.toList → ')' ∉ (element ++ argument).toList) := by
    rw [String.toList_append]
    exact ⟨(plain.isBalanced_append 0 _).trans balanced, lead.append plain.unclosed, fun unclosed => by
      simp [plain.unclosed, unclosed]⟩
  rcases mem_wordPseudos_or absolute other with known | rfl | rfl
  · exact ⟨pseudo, known, argument, currentKind_of_mem known argument, balanced, lead, id⟩
  · exact ⟨.matchesCss, by decide, _, rfl, led "before," (by rw [IsArgument]; decide)⟩
  · exact ⟨.matchesCss, by decide, _, rfl, led "after," (by rw [IsArgument]; decide)⟩

theorem reads_enclosed (selector : String) {pseudo : PseudoClass} (known : pseudo ∈ wordPseudos)
    {argument : String} (balanced : isBalanced 0 argument.toList = true) (lead : SignsLead argument.toList)
    {depth : Nat} {frames : List Frame} (outside : depth = 0 ∧ frames = [] ∨ ')' ∉ argument.toList)
    {led : Bool} {d : Draft} (opens : Opens led d (inRegular frames [] [])) :
    ∃ parts ahead, enclosed (.absolute pseudo argument) depth = openList [] parts ∧
      IsAfter frames [] parts ahead ∧
      Leads selector (enclosed (.absolute pseudo argument) depth).print d ahead := by
  have named (s : List Char) (word : IsWord s) (led : Bool) : IsRegular led s :=
    .plain (.single (by simpa using IsCompound.tag word .none))
  induction depth generalizing frames led d with
  | zero =>
    have text : IsRegular led "p".toList := named _ ⟨by decide, by decide⟩ led
    have outside : frames = [] ∨ ')' ∉ argument.toList := outside.imp_left And.right
    have read : Leads selector _ (inRegular frames [] [] "p") _ :=
      leads_argument known balanced lead outside (.regular [] "p")
    refine ⟨_, _, rfl, .extended _, ?_⟩
    rw [enclosed, print, printList_cons, printParts_absolute]
    simpa [printParts, printList] using (leads_regular text opens).append read (.cons (by decide) _)
  | succ depth ih =>
    have text : IsRegular led "div".toList := named _ ⟨by decide, by decide⟩ led
    have unclosed : ')' ∉ argument.toList := outside.resolve_left fun both => absurd both.1 (by omega)
    have relative : PseudoClass.has.isRelative = true := rfl
    obtain ⟨parts, inside, same, after, leads⟩ := ih (.inr unclosed)
      (opens_inPseudo frames [] [.leaf (.regular "div")] false relative)
    have read := leads_relative rfl (.regular [] "div") leads after
    rw [← same] at read
    refine ⟨_, _, rfl, .extended _, ?_⟩
    rw [print_enclosed_succ]
    exact (leads_regular text opens).append read (.cons (by decide) _)

/-- A pseudo-class with a text is read with that text as its argument, whatever words, spaces, combinators and
balanced parentheses the text has: at the top level if no combinator but the space comes after a closing
parenthesis, and in other pseudo-classes if there are no parentheses. -/
theorem parse_enclosed {pseudo : PseudoClass} (absolute : pseudo.isAbsolute = true) (other : pseudo ≠ .xpath)
    {argument : String} (balanced : isBalanced 0 argument.toList = true) (lead : SignsLead argument.toList)
    {depth : Nat} (outside : depth = 0 ∨ ')' ∉ argument.toList) :
    parse (String.ofList (enclosed (.absolute pseudo argument) depth).print) =
      .ok (enclosed (currentKind pseudo argument) depth) := by
  obtain ⟨current, known, text, same, balancedText, leadText, unclosed⟩ :=
    currentKind_cases absolute other balanced lead
  have normal := normalize_enclosed absolute other balanced depth
  rw [same] at normal ⊢
  obtain ⟨parts, ahead, tree, after, leads⟩ :=
    reads_enclosed (String.ofList (enclosed (.absolute pseudo argument) depth).print) known balancedText leadText
      (outside.imp (⟨·, rfl⟩) unclosed) opens_empty
  obtain ⟨_, _, _, run⟩ := leads none none [] (fun other => absurd other (by decide)) .nil
  rw [List.append_nil] at run
  rw [tree]
  exact parse_of_run normal after run

theorem parse_enclosed_groups :
    parse "p:has-text(a > (b + (c) d) e)" = .ok (enclosed (.absolute .hasText "a > (b + (c) d) e") 0) ∧
    parse "div:has(div:has(p:matches-css-after(a ~ b)))" =
      .ok (enclosed (.absolute .matchesCss "after,a ~ b") 2) := by
  have groups : SignsLead "a > (b + (c) d) e".toList := by
    have after : SignsLead ") d) e".toList := .of_unsigned (by decide)
    exact after.append (s := "a > (b + (c".toList) (by decide)
  have flat : SignsLead "a ~ b".toList := .of_unclosed (by decide)
  have first : String.ofList (enclosed (.absolute .hasText "a > (b + (c) d) e") 0).print =
      "p:has-text(a > (b + (c) d) e)" := by decide +kernel
  have second : String.ofList (enclosed (.absolute .matchesCssAfter "a ~ b") 2).print =
      "div:has(div:has(p:matches-css-after(a ~ b)))" := by decide +kernel
  exact ⟨first ▸ parse_enclosed rfl (by decide) (by decide) groups (.inl rfl),
    second ▸ parse_enclosed rfl (by decide) (by decide) flat (.inr (by decide))⟩

/-- The text of a style pseudo-class for a pseudo-element is not kept as it was, and neither is a text with
parentheses inside another pseudo-class or with a combinator after its parentheses. -/
theorem argument_not_kept :
    parse "p:matches-css-before(a)" ≠ .ok (enclosed (.absolute .matchesCssBefore "a") 0) ∧
    parse "div:has(p:contains((a)))" ≠ .ok (enclosed (.absolute .contains "(a)") 1) ∧
    parse "p:contains((a) > b)" ≠ .ok (enclosed (.absolute .contains "(a) > b") 0) := by
  have before : parse "p:matches-css-before(a)" = .ok (enclosed (.absolute .matchesCss "before,a") 0) := by
    decide +kernel
  have inside : parse "div:has(p:contains((a)))" = .ok (enclosed (.absolute .contains "(a))") 1) := by
    decide +kernel
  have after : parse "p:contains((a) > b)" = .ok (.node .selectorList [.node .selector [.leaf (.regular "p"),
      .node .extended [.leaf (.absolute .contains "(a) ")], .leaf (.regular "> b")]]) := by
    decide +kernel
  rw [before, inside, after]
  decide

end SelectorTree

end CosmeticRules
