import CosmeticRules.Proofs.Selector.ReadArgument

/-!
Reading what was printed. A printed text takes the reader from the draft before it to the draft after it,
whatever stands around the text; from this the trees of plain names are read back as they were.
-/

namespace CosmeticRules

namespace SelectorReader

open PlainText Draft Token

variable {selector : String} {frames : List Frame} {before parts : List SelectorTree}

/-! Regular parts. -/

theorem continuesRegular_of_isTextToken {token : Token} (text : IsTextToken token) :
    continuesRegular (some token) = true := by
  cases token with
  | word cs => rfl
  | mark c =>
    have goesOn : ∀ c ∈ ['*', '.', '#', ' ', '>', '+', '~'], continuesRegular (some (.mark c)) = true := by
      decide
    exact goesOn c text

theorem isMark_colon_of_isTextToken {token : Token} (text : IsTextToken token) :
    isMark (some token) ':' = false := by
  cases token with
  | word cs => rfl
  | mark c =>
    have others : ∀ c ∈ ['*', '.', '#', ' ', '>', '+', '~'], isMark (some (.mark c)) ':' = false := by
      decide
    exact others c text

theorem isSettled_of_isLastToken {token : Token} (last : IsLastToken token) : IsSettled (some token) := by
  cases token with
  | word cs => exact ⟨rfl, rfl, rfl⟩
  | mark c =>
    rcases last with word | star
    · exact absurd word Bool.false_ne_true
    · obtain rfl := Token.mark.inj star
      exact ⟨rfl, rfl, rfl⟩

/-- A token other than a space in a regular part. -/
theorem readToken_inRegular {token : Token} (text : IsTextToken token) (other : token ≠ .mark ' ')
    (around : Surroundings) (value : String) :
    readToken selector token around (inRegular frames before parts value) =
      .ok (inRegular frames before parts (value ++ token.text)) := by
  have takes : Takes (inRegular frames before parts value) :=
    Or.inr (Or.inr (Or.inl (openClass?_inRegular frames before parts value)))
  have resumes : Resumes (inRegular frames before parts value) :=
    ⟨by rw [openClass?_inRegular]; rfl, resume_inRegular frames before parts value⟩
  cases token with
  | word cs => exact (readWord_eq_place selector around cs takes).trans (place_inRegular _ _ _ _ _)
  | mark c =>
    have listed : c ∈ plainMarks ∨ c ∈ signs := by
      have marked : c ≠ ' ' := fun space => other (congrArg Token.mark space)
      simpa [IsTextToken, plainMarks, signs, marked, or_assoc] using text
    exact (readMark_eq_place selector around listed takes fun _ => resumes).trans
      (place_inRegular _ _ _ _ _)

variable (selector) in
/-- The tokens of a complex selector are written one after the other. -/
theorem readTokens_text {texts : List Token} (plain : ∀ token ∈ texts, IsTextToken token)
    (ends : ∀ token, texts.getLast? = some token → IsLastToken token) (others : List Token)
    (value : String) (beforeLast last : Option Token) (apart : isMark last ':' = false) :
    ∃ beforeLast', readTokens selector beforeLast last (texts ++ others)
        (inRegular frames before parts value) =
      readTokens selector beforeLast' (texts.getLast?.or last) others
        (inRegular frames before parts (value ++ String.ofList (texts.flatMap chars))) := by
  induction texts generalizing value beforeLast last with
  | nil => exact ⟨beforeLast, by simp⟩
  | cons token rest ih =>
    obtain ⟨text, texts⟩ := List.forall_mem_cons.mp plain
    have step : readToken selector token
        ⟨beforeLast, last, (rest ++ others).head?, (rest ++ others).tail.head?⟩
        (inRegular frames before parts value) =
        .ok (inRegular frames before parts (value ++ token.text)) := by
      by_cases space : token = .mark ' '
      · cases rest with
        | nil =>
          have final := ends token rfl
          rw [space] at final
          exact absurd final (by simp [IsLastToken, isWord])
        | cons next more =>
          rw [space]
          exact readSpace_inRegular value
            (continuesRegular_of_isTextToken (texts next List.mem_cons_self)) apart
      · exact readToken_inRegular text space _ value
    have more : ∀ last, rest.getLast? = some last → IsLastToken last := by
      intro final found
      refine ends final ?_
      rw [List.getLast?_cons, found]
      rfl
    obtain ⟨beforeLast', run⟩ := ih texts more (value ++ token.text) last (some token)
      (isMark_colon_of_isTextToken text)
    refine ⟨beforeLast', ?_⟩
    rw [List.cons_append, readTokens_step step, run, String.append_assoc, Token.text, ← String.ofList_append]
    cases rest <;> simp [List.getLast?_cons]

variable (selector) in
/-- A regular part is read where one can begin, whatever token was the last. -/
theorem readTokens_regular {led : Bool} {value : String} (regular : IsRegular led value.toList) {d : Draft}
    (opens : Opens led d (inRegular frames before parts)) (beforeLast last : Option Token)
    {rest : List Char} (apart : EndsWord isSelectorMark rest) :
    ∃ beforeLast' last', IsSettled last' ∧
      readTokens selector beforeLast last (textTokens (value.toList ++ rest)) d =
        readTokens selector beforeLast' last' (textTokens rest) (inRegular frames before parts value) := by
  obtain ⟨token, more, same⟩ := regular.text.exists_token
  have first : IsFirstToken led token := regular.first_token (by rw [same]; rfl)
  have plain := regular.text.tokens
  have ends : ∀ last, (textTokens value.toList).getLast? = some last → IsLastToken last :=
    fun _ => regular.text.last_token
  rw [same] at plain ends
  obtain ⟨text, texts⟩ := List.forall_mem_cons.mp plain
  have final : ∀ last, more.getLast? = some last → IsLastToken last := by
    intro last found
    refine ends last ?_
    rw [List.getLast?_cons, found]
    rfl
  obtain ⟨beforeLast', run⟩ := readTokens_text selector texts final
    (textTokens rest) token.text last (some token) (isMark_colon_of_isTextToken text)
  refine ⟨beforeLast', more.getLast?.or (some token), ?_, ?_⟩
  · cases found : more.getLast? with
    | none =>
      refine isSettled_of_isLastToken (ends token ?_)
      rw [List.getLast?_cons, found]
      rfl
    | some last => exact isSettled_of_isLastToken (final last found)
  · have whole : token.text ++ String.ofList (more.flatMap chars) = value := by
      rw [Token.text, ← String.ofList_append, ← List.flatMap_cons, ← same, textTokens, flatMap_chars_split,
        String.ofList_toList]
    rw [whole] at run
    rw [textTokens, split_append _ apart, ← textTokens, same, List.cons_append,
      readTokens_step (opens.readToken selector _ first)]
    exact run

theorem leads_regular {led : Bool} {value : String} (regular : IsRegular led value.toList) {d : Draft}
    (opens : Opens led d (inRegular frames before parts)) :
    Leads selector value.toList d (inRegular frames before parts value) := by
  intro beforeLast last rest _ apart
  obtain ⟨beforeLast', last', settled, run⟩ := readTokens_regular selector regular opens beforeLast last apart
  exact ⟨beforeLast', last', fun _ => settled, run⟩

/-- A further regular part, after a space. -/
theorem leads_further {value : String} (regular : IsRegular true value.toList) :
    Leads selector (' ' :: value.toList) (inSelector frames before parts)
      (inRegular frames before parts value) := by
  intro beforeLast last rest _ apart
  have goesOn : continuesRegular (textTokens (value.toList ++ rest)).head? = true := by
    obtain ⟨token, more, same⟩ := regular.text.exists_token
    have first := regular.text.tokens token (by rw [same]; exact List.mem_cons_self)
    rw [textTokens, split_append _ apart, ← textTokens, same]
    exact continuesRegular_of_isTextToken first
  obtain ⟨beforeLast', last', settled, run⟩ :=
    readTokens_regular selector regular (opens_inRegular frames before parts true) last
      (some (.mark ' ')) apart
  refine ⟨beforeLast', last', fun _ => settled, ?_⟩
  rw [List.cons_append, textTokens, split_cons_of_mark (by decide),
    readTokens_step (readSpace_inSelector goesOn)]
  exact run

theorem eq_of_isHas {pseudo : PseudoClass} (known : pseudo.isHas = true) :
    pseudo = .has ∨ pseudo = .abpHas := by
  revert known
  cases pseudo <;> decide

/-- A pseudo-class with selectors, given that they are read inside it. -/
theorem leads_relative {pseudo : PseudoClass} (known : pseudo.isHas = true) {s : List Char}
    {earlier lastParts : List SelectorTree} {d inside : Draft} (after : IsAfter frames before parts d)
    (leads : Leads selector s (inPseudo frames before parts pseudo (.relative pseudo) 1) inside)
    (ends : IsAfter (frames ++ [⟨before, parts, pseudo⟩]) earlier lastParts inside) :
    Leads selector (':' :: pseudo.name.toList ++ '(' :: s ++ [')']) d
      (inSelector frames before (parts ++ [.node .extended [.node (.relative pseudo)
        [openList earlier lastParts]]])) := by
  intro beforeLast last rest settled _
  have printed : pseudo ∈ printedPseudos := by rcases eq_of_isHas known with rfl | rfl <;> decide
  have empty : emptyKind pseudo = .relative pseudo := by rcases eq_of_isHas known with rfl | rfl <;> rfl
  have closing : isSelectorMark ')' = true := by decide
  have outside : Settled (some (.mark '(')) (inPseudo frames before parts pseudo (.relative pseudo) 1) :=
    settled_of_openClass? (openClass?_inPseudo frames before parts pseudo _ 1) (by simp [NodeKind.toClass])
  have ended : textTokens (')' :: rest) = .mark ')' :: textTokens rest := split_cons_of_mark closing rest
  obtain ⟨beforeLast', last', _, run⟩ :=
    leads (some (nameToken pseudo)) (some (.mark '(')) (')' :: rest) outside (EndsWord.cons closing rest)
  have start := readTokens_pseudo selector printed after beforeLast settled
    (s ++ ')' :: rest)
  refine ⟨last', some (.mark ')'),
    settled_of_openClass? (openClass?_inSelector frames before _) (by decide), ?_⟩
  rw [empty, run, ended, readTokens_step ends.readClosing] at start
  rw [← start]
  simp

/-- A comma and a space, and then selectors that are read from the list on. -/
theorem leads_comma {s : List Char} {d ahead : Draft} (after : IsAfter frames before parts d)
    (leads : Leads selector s (inList frames (before ++ [.node .selector parts])) ahead) :
    Leads selector (',' :: ' ' :: s) d ahead := by
  have outside : ∀ last, Settled last (inList frames (before ++ [.node .selector parts])) := fun last =>
    settled_of_openClass? (openClass?_inList frames _) (by decide)
  have space : isSelectorMark ' ' = true := by decide
  refine .mark (by decide) (fun around rest _ _ next => after.readComma ?_) (outside _) ?_
  · rw [next, List.cons_append, textTokens, split_cons_of_mark space]
    rfl
  · exact .mark space (fun _ _ _ _ _ => readSpace_inList) (outside _) leads

end SelectorReader

namespace SelectorTree

open PlainText Draft SelectorReader Token

theorem endsWord_printParts {afterRegular : Bool} {rest : List SelectorTree}
    (plain : IsPlainRow (.parts afterRegular) rest) : EndsWord isSelectorMark (printParts true rest) := by
  cases plain with
  | nothing => exact .nil
  | regular =>
    rw [printParts_regular]
    exact .cons (by decide) _
  | absolute =>
    rw [printParts_absolute]
    exact .cons (by decide) _
  | relative =>
    rw [printParts_relative]
    exact .cons (by decide) _

/-- How a row is read: selectors where a list can begin or go on, and parts after others. -/
def Reads (selector : String) : Row → List SelectorTree → Prop
  | .selectors isArgument, selectors => ∀ frames before d, (isArgument = true → frames ≠ []) →
      Opens isArgument d (inRegular frames before []) →
      ∃ earlier parts ahead, before ++ selectors = earlier ++ [.node .selector parts] ∧
        IsAfter frames earlier parts ahead ∧ Leads selector (printList false selectors) d ahead
  | .parts afterRegular, rest => ∀ frames before parts d, IsAfter frames before parts d →
      (afterRegular = false → d = inSelector frames before parts) →
      ∃ ahead, IsAfter frames before (parts ++ rest) ahead ∧ Leads selector (printParts true rest) d ahead

theorem IsPlainRow.reads (selector : String) {row : Row} {trees : List SelectorTree}
    (plain : IsPlainRow row trees) : Reads selector row trees := by
  induction plain with
  | @last isArgument value rest text parts ih =>
    intro frames before d inside opens
    obtain ⟨ahead, after, leads⟩ := ih frames before [.leaf (.regular value)] _ (.regular [] value)
      (fun other => absurd other (by decide))
    refine ⟨before, .leaf (.regular value) :: rest, ahead, rfl, after, ?_⟩
    rw [printList_cons]
    simpa [printList] using (leads_regular text opens).append leads (endsWord_printParts parts)
  | @next isArgument value rest others text parts selectors ihParts ihSelectors =>
    intro frames before d inside opens
    obtain ⟨middle, after, leads⟩ := ihParts frames before [.leaf (.regular value)] _ (.regular [] value)
      (fun other => absurd other (by decide))
    obtain ⟨earlier, lastParts, ahead, same, final, more⟩ := ihSelectors frames _ _ inside
      (opens_inList frames (before ++ [.node .selector (.leaf (.regular value) :: rest)]) inside)
    refine ⟨earlier, lastParts, ahead, by simpa using same, final, ?_⟩
    have filled : others ≠ [] := by
      obtain ⟨_, _, _, _, rfl⟩ := selectors.exists_cons
      exact List.cons_ne_nil _ _
    have comma : EndsWord isSelectorMark (',' :: ' ' :: printList false others) := .cons (by decide) _
    rw [printList_cons, printList_continued filled]
    exact (leads_regular text opens).append (leads.append (leads_comma after more) comma)
      ((endsWord_printParts parts).append comma)
  | nothing => exact fun frames before parts d after _ => ⟨d, by simpa using after, .nil d⟩
  | @regular value rest text parts ih =>
    intro frames before earlier d after place
    obtain rfl := place rfl
    obtain ⟨ahead, final, leads⟩ := ih frames before (earlier ++ [.leaf (.regular value)]) _
      (.regular earlier value) (fun other => absurd other (by decide))
    refine ⟨ahead, by simpa using final, ?_⟩
    rw [printParts_regular]
    exact (leads_further text).append leads (endsWord_printParts parts)
  | @absolute _ pseudo argument rest known text parts ih =>
    intro frames before earlier d after _
    obtain ⟨ahead, final, leads⟩ := ih frames before
      (earlier ++ [.node .extended [.leaf (.absolute pseudo argument)]]) _ (.extended _) (fun _ => rfl)
    refine ⟨ahead, by simpa using final, ?_⟩
    rw [printParts_absolute]
    have read : Leads selector _ d _ :=
      leads_argument known text.balanced (.of_unclosed text.unclosed) (.inr text.unclosed) after
    exact read.append leads (endsWord_printParts parts)
  | @relative _ pseudo selectors rest known inside parts ihInside ih =>
    intro frames before earlier d after _
    have relative : pseudo.isRelative = true := by rcases eq_of_isHas known with rfl | rfl <;> rfl
    obtain ⟨first, lastParts, last, same, ends, reads⟩ := ihInside (frames ++ [⟨before, earlier, pseudo⟩]) []
      _ (fun _ => by simp) (opens_inPseudo frames before earlier true relative)
    obtain ⟨ahead, final, leads⟩ := ih frames before (earlier ++ [.node .extended [.node (.relative pseudo)
      [.node .selectorList selectors]]]) _ (.extended _) (fun _ => rfl)
    refine ⟨ahead, by simpa using final, ?_⟩
    have whole : openList first lastParts = .node .selectorList selectors := by
      rw [openList, ← same, List.nil_append]
    have closed := leads_relative known after reads ends
    rw [whole] at closed
    rw [printParts_relative]
    exact closed.append leads (endsWord_printParts parts)

/-- A tree of plain names is read back from its print. -/
theorem parse_print {tree : SelectorTree} (plain : tree.IsPlain) :
    parse (String.ofList tree.print) = .ok tree := by
  cases plain with
  | @list selectors row =>
    obtain ⟨earlier, parts, ahead, same, after, leads⟩ :=
      row.reads (String.ofList (printList false selectors)) [] [] {} (fun other => absurd other (by decide))
        opens_empty
    obtain ⟨_, _, _, run⟩ := leads none none [] (fun other => absurd other (by decide)) .nil
    rw [List.append_nil] at run
    have drafted : draft (String.ofList (printList false selectors)) = .ok ahead := by
      rw [draft, SelectorReader.tokens, normalize_print row]
      exact run
    have finished : finish (String.ofList (printList false selectors)) ahead =
        .ok (.node .selectorList selectors) := by
      rw [List.nil_append] at same
      rw [same]
      cases after <;> rfl
    have unfolded : ahead.foldable = false := by cases after <;> rfl
    show parse (String.ofList (printList false selectors)) = _
    rw [parse, readUnfolded, drafted]
    simp only [ok_bind, finished, pure_bind, unfolded]
    rfl

/-- The tree of a selector with an argument inside an argument. -/
def nestedTree : SelectorTree :=
  .node .selectorList [.node .selector [
    .leaf (.regular "div"),
    .node .extended [.node (.relative .has) [.node .selectorList [.node .selector [
      .leaf (.regular "> b"),
      .node .extended [.node (.relative .abpHas) [.node .selectorList [
        .node .selector [.leaf (.regular "c + *.d")], .node .selector [.leaf (.regular "e")]]]],
      .leaf (.regular "f")]]]],
    .node .extended [.leaf (.absolute .contains "g, h")],
    .leaf (.regular "~ i")]]

theorem isPlain_nestedTree : nestedTree.IsPlain := by
  have word : ∀ c, isPlainChar c = true → IsWord [c] := fun c plain => ⟨by simp, by simpa using plain⟩
  have letter : ∀ c, isPlainChar c = true → IsComplex [c] := fun c plain =>
    .single (by simpa using IsCompound.tag (word c plain) .none)
  have named : IsWord "div".toList := ⟨by decide, by decide⟩
  have div : IsComplex "div".toList := .single (.tag named .none)
  have starred : IsComplex "*.d".toList := .single (.any (.more (Or.inl rfl) (word 'd' (by decide)) .none))
  have sum : IsComplex "c + *.d".toList :=
    .combined (.tag (word 'c' (by decide)) .none) (by decide) starred
  have argument : IsArgument "g, h".toList := by
    rw [IsArgument]
    decide
  have innermost : IsPlainRow (.selectors true)
      [.node .selector [.leaf (.regular "c + *.d")], .node .selector [.leaf (.regular "e")]] :=
    .next (.plain sum) .nothing (.last (.plain (letter 'e' (by decide))) .nothing)
  have inner : IsPlainRow (.selectors true) [.node .selector [.leaf (.regular "> b"),
      .node .extended [.node (.relative .abpHas) [.node .selectorList [
        .node .selector [.leaf (.regular "c + *.d")], .node .selector [.leaf (.regular "e")]]]],
      .leaf (.regular "f")]] :=
    .last (.led (by decide) (letter 'b' (by decide)))
      (.relative rfl innermost (.regular (.plain (letter 'f' (by decide))) .nothing))
  exact .list (.last (.plain div) (.relative rfl inner (.absolute (by decide) argument
    (.regular (.led (by decide) (letter 'i' (by decide))) .nothing))))

theorem parse_print_nestedTree : nestedTree.IsPlain ∧
    String.ofList nestedTree.print = "div:has(> b:-abp-has(c + *.d, e) f):contains(g, h) ~ i" ∧
    parse "div:has(> b:-abp-has(c + *.d, e) f):contains(g, h) ~ i" = .ok nestedTree := by
  have printed : String.ofList nestedTree.print =
      "div:has(> b:-abp-has(c + *.d, e) f):contains(g, h) ~ i" := by decide +kernel
  exact ⟨isPlain_nestedTree, printed, printed ▸ parse_print isPlain_nestedTree⟩

end SelectorTree

end CosmeticRules
