import CosmeticRules.Proofs.Selector.Outcome
import CosmeticRules.Proofs.Selector.ReadPart
import CosmeticRules.Proofs.Text.Search

/-!
A selector with a space and a brace behind it. It is normalized and read as if it stood alone; where its reading
ends in a regular part, the brace is refused, whatever comes after it.
-/

namespace CosmeticRules

open Text

namespace LegacyForm

theorem argument?_more {quote : Char} {s value after : List Char} (found : argument? quote s = some (value, after))
    (t : List Char) : argument? quote (s ++ t) = some (value, after ++ t) := by
  fun_induction argument? quote s generalizing value with
  | case1 => simp at found
  | case2 => simp at found
  | case3 c d rest closed =>
    obtain ⟨rfl, rfl⟩ := Prod.mk.inj (Option.some.inj found)
    rw [List.cons_append, List.cons_append, argument?, if_pos closed]
  | case4 => simp at found
  | case5 => simp at found
  | case6 rest d open_ line newline ih =>
    obtain ⟨⟨inner, more⟩, deeper, pair⟩ := Option.map_eq_some_iff.mp found
    obtain ⟨rfl, rfl⟩ := Prod.mk.inj pair
    rw [List.cons_append, List.cons_append, argument?, if_neg open_, if_neg line, if_pos rfl, if_neg newline,
      ih deeper]
    rfl
  | case7 c d rest open_ line slash ih =>
    obtain ⟨⟨inner, more⟩, deeper, pair⟩ := Option.map_eq_some_iff.mp found
    obtain ⟨rfl, rfl⟩ := Prod.mk.inj pair
    rw [List.cons_append, List.cons_append, argument?, if_neg open_, if_neg line, if_neg slash,
      ← List.cons_append, ih deeper]
    rfl

theorem quotedArgument?_more {s value after : List Char} (found : quotedArgument? s = some (value, after))
    (t : List Char) : s ≠ [] ∧ quotedArgument? (s ++ t) = some (value, after ++ t) := by
  unfold quotedArgument? at found
  split at found
  · rename_i quote rest
    refine ⟨List.cons_ne_nil _ _, ?_⟩
    split at found
    · rename_i quoted
      obtain ⟨⟨inner, more⟩, deeper, pair⟩ := Option.map_eq_some_iff.mp found
      obtain ⟨rfl, rfl⟩ := Prod.mk.inj pair
      rw [List.cons_append, List.cons_append, quotedArgument?, if_pos quoted, argument?_more deeper]
      rfl
    · simp at found
  · simp at found

theorem condition?_more {s form after : List Char} (found : condition? s = some (form, after)) (t : List Char) :
    condition? (s ++ t) = some (form, after ++ t) := by
  unfold condition? at found
  split at found
  · simp at found
  · rename_i rest start
    split at found
    · simp at found
    · rename_i named
      obtain ⟨⟨value, more⟩, quoted, pair⟩ := Option.map_eq_some_iff.mp found
      obtain ⟨rfl, rfl⟩ := Prod.mk.inj pair
      obtain ⟨some, further⟩ := quotedArgument?_more quoted t
      -- The name ends inside the text, with the equals sign.
      have dropped : (rest ++ t).dropWhile isNameChar = rest.dropWhile isNameChar ++ t := by
        rw [List.dropWhile_append, if_neg (by simpa using some)]
      have taken : (rest ++ t).takeWhile isNameChar = rest.takeWhile isNameChar := by
        rw [List.takeWhile_append, if_neg]
        intro whole
        have none : rest.dropWhile isNameChar = [] := by
          have split := congrArg List.length (List.takeWhile_append_dropWhile (p := isNameChar) (l := rest))
          rw [List.length_append] at split
          exact List.length_eq_zero_iff.mp (by omega)
        exact some none
      have begins : afterStart? opening (s ++ t) = Option.some (rest ++ t) := by
        rw [afterStart?_eq_some_iff] at start ⊢
        rw [start, List.append_assoc]
      rw [condition?, begins]
      simp only [taken, dropped, further, if_neg named, Option.map_some]

theorem replaceConditions_of_some {s form after : List Char} (found : condition? s = some (form, after)) :
    replaceConditions s = form ++ replaceConditions after := by
  rw [replaceConditions]
  split
  · rename_i other
    rw [found] at other
    obtain ⟨rfl, rfl⟩ := Prod.mk.inj (Option.some.inj other)
    rfl
  · rename_i other
    rw [found] at other
    cases other

/-- What stands at the start of a text without brackets stays. -/
theorem replaceConditions_append_of_unbracketed {s : List Char} (unbracketed : '[' ∉ s) (t : List Char) :
    replaceConditions (s ++ t) = s ++ replaceConditions t := by
  induction s with
  | nil => rfl
  | cons c rest ih =>
    obtain ⟨other, unbracketed⟩ := not_or.mp (mt List.mem_cons.mpr unbracketed)
    have none : condition? (c :: (rest ++ t)) = none :=
      condition?_eq_none fun start => other (List.cons_prefix_cons.mp start).1
    rw [List.cons_append, replaceConditions_cons none, ih unbracketed]
    rfl

/-- A text in which all old forms have been replaced is read on its own, where no old form is continued by what
follows. -/
theorem replaceConditions_append {s t : List Char} (current : ¬opening <:+: replaceConditions s)
    (apart : ∀ c, t.head? = some c → c ∉ opening) :
    replaceConditions (s ++ t) = replaceConditions s ++ replaceConditions t := by
  fun_induction replaceConditions s with
  | case1 s form after found shorter ih =>
    rw [replaceConditions_of_some (condition?_more found t), ih, List.append_assoc]
    exact fun inside => current (inside.trans (List.suffix_append form _).isInfix)
  | case2 found => rfl
  | case3 c rest found ih =>
    have later := ih fun inside => current (List.infix_cons inside)
    have unopened : ¬opening <+: c :: rest := by
      rintro ⟨more, whole⟩
      obtain ⟨rfl, rfl⟩ : '[' = c ∧ ['-', 'e', 'x', 't', '-'] ++ more = rest := List.cons.inj whole
      refine current ⟨[], replaceConditions more, ?_⟩
      rw [replaceConditions_append_of_unbracketed (by decide)]
      rfl
    have none : condition? (c :: (rest ++ t)) = none := by
      refine condition?_eq_none fun start => ?_
      obtain inside | ⟨d, more, whole, tail, rfl⟩ := prefix_append_cases (s := c :: rest) start
      · exact unopened inside
      · exact apart d rfl (whole ▸ by simp)
    rw [List.cons_append, replaceConditions_cons none, later, List.cons_append]

/-- The longer spellings hold no brace and no opening bracket, and no space ends them; they begin with other
characters than these. -/
theorem shorthands_apart : ∀ pair ∈ shorthands, pair.1.toList ≠ [] ∧ '\x7b' ∉ pair.1.toList ∧
    '[' ∉ pair.1.toList ∧ pair.1.toList.getLast? ≠ some ' ' ∧
    ∀ c ∈ [' ', '\x7b', '[', '-', 'e', 'x', 't'], pair.1.toList.head? ≠ some c := by
  decide

theorem replaceAll_brace {pair : String × String} (member : pair ∈ shorthands) (s t : List Char) :
    replaceAll pair.1.toList pair.2.toList (s ++ ' ' :: '\x7b' :: t) =
      replaceAll pair.1.toList pair.2.toList s ++ ' ' :: '\x7b' :: replaceAll pair.1.toList pair.2.toList t := by
  obtain ⟨filled, unbraced, _, ends, starts⟩ := shorthands_apart pair member
  have kept : replaceAll pair.1.toList pair.2.toList ([' ', '\x7b'] ++ t) = _ :=
    replaceAll_append_of_head _ filled (fun c among => starts c (by simp at among ⊢; tauto)) t
  refine (replaceFrom_append _ filled ?_ (Nat.zero_le _)).trans (congrArg (_ ++ ·) kept)
  rintro before after rfl _ start
  obtain inside | ⟨c, more, whole, tail, same⟩ := prefix_append_cases start
  · exact inside
  · rw [whole] at unbraced ends
    obtain rfl : c = ' ' := (List.cons.inj same).1
    cases more with
    | nil => exact absurd List.getLast?_concat ends
    | cons d more =>
      obtain rfl : d = '\x7b' := (List.cons.inj (List.cons.inj same).2).1
      exact absurd (by simp) unbraced

/-- The text before a space and a brace is brought into the current spelling on its own. -/
theorem replaceShorthands_brace (s t : List Char) :
    replaceShorthands (s ++ ' ' :: '\x7b' :: t) = replaceShorthands s ++ ' ' :: '\x7b' :: replaceShorthands t := by
  have run (pairs : List (String × String)) (known : ∀ pair ∈ pairs, pair ∈ shorthands) (s t : List Char) :
      pairs.foldl (fun text pair => replaceAll pair.1.toList pair.2.toList text) (s ++ ' ' :: '\x7b' :: t) =
        pairs.foldl (fun text pair => replaceAll pair.1.toList pair.2.toList text) s ++ ' ' :: '\x7b' ::
          pairs.foldl (fun text pair => replaceAll pair.1.toList pair.2.toList text) t := by
    induction pairs generalizing s t with
    | nil => rfl
    | cons pair rest ih =>
      obtain ⟨here, others⟩ := List.forall_mem_cons.mp known
      simp only [List.foldl_cons]
      rw [replaceAll_brace here, ih others]
  exact run shorthands (fun _ member => member) s t

theorem opening_replaceAll {pair : String × String} (member : pair ∈ shorthands) {s : List Char}
    (inside : opening <:+: s) : opening <:+: replaceAll pair.1.toList pair.2.toList s := by
  obtain ⟨filled, _, unbracketed, _, starts⟩ := shorthands_apart pair member
  obtain ⟨before, after, rfl⟩ := inside
  have kept := replaceAll_append_of_head pair.2.toList filled (s := opening)
    (fun c among => starts c (by simp [opening] at among ⊢; tauto)) after
  refine ⟨replaceAll pair.1.toList pair.2.toList before, replaceAll pair.1.toList pair.2.toList after, ?_⟩
  rw [List.append_assoc, List.append_assoc, ← kept]
  refine (replaceFrom_append _ filled ?_ (Nat.zero_le _)).symm
  rintro front back rfl _ start
  obtain within | ⟨c, more, whole, tail, same⟩ := prefix_append_cases start
  · exact within
  · rw [whole] at unbracketed
    obtain rfl : c = '[' := (List.cons.inj same).1
    exact absurd (by simp) unbracketed

theorem opening_replaceShorthands {s : List Char} (inside : opening <:+: s) : opening <:+: replaceShorthands s := by
  have run (pairs : List (String × String)) (known : ∀ pair ∈ pairs, pair ∈ shorthands) {s : List Char}
      (inside : opening <:+: s) :
      opening <:+: pairs.foldl (fun text pair => replaceAll pair.1.toList pair.2.toList text) s := by
    induction pairs generalizing s with
    | nil => exact inside
    | cons pair rest ih =>
      obtain ⟨here, others⟩ := List.forall_mem_cons.mp known
      exact ih others (opening_replaceAll here inside)
  exact run shorthands (fun _ member => member) inside

/-- What a selector is normalized to stands before the brace that follows it. -/
theorem normalize_brace {selector longer : String} {current after : List Char}
    (normal : normalize selector = .ok current)
    (whole : trim longer.toList = trim selector.toList ++ ' ' :: '\x7b' :: after) {found : List Char}
    (read : normalize longer = .ok found) : ∃ rest, found = current ++ ' ' :: '\x7b' :: rest := by
  unfold normalize at normal read
  simp only [] at normal read
  split at normal
  · cases normal
  · rename_i absent
    obtain rfl := Except.ok.inj normal
    split at read
    · cases read
    · obtain rfl := Except.ok.inj read
      have none : ¬opening <:+: replaceConditions (trim selector.toList) := fun inside =>
        absent (occursIn_iff.mpr (opening_replaceShorthands inside))
      have braced : replaceConditions ([' ', '\x7b'] ++ after) = [' ', '\x7b'] ++ replaceConditions after :=
        replaceConditions_append_of_unbracketed (by decide) after
      refine ⟨replaceShorthands (replaceConditions after), ?_⟩
      rw [whole, replaceConditions_append none (by simp [opening]), ← replaceShorthands_brace]
      exact congrArg (fun text => replaceShorthands (_ ++ text)) braced

end LegacyForm

namespace SelectorReader

variable {s : String} {token : Token} {beforeLast last next after : Option Token} {d d' : Draft}

/-- Nothing, or a token that neither opens an argument nor names a pseudo-class. -/
def IsQuiet (token : Option Token) : Prop := namedPseudo? token = none ∧ isMark token '(' = false

theorem isQuiet_none : IsQuiet none := ⟨rfl, rfl⟩

theorem isQuiet_mark {c : Char} (other : c ≠ '(') : IsQuiet (some (.mark c)) := by
  refine ⟨?_, by simpa [isMark] using other⟩
  have long : ∀ pseudo ∈ PseudoClass.all, pseudo.name.toList.length ≠ 1 := by decide
  refine Option.eq_none_iff_forall_not_mem.mpr fun pseudo named => ?_
  have same := PseudoClass.name_of_ofName? named
  refine long pseudo (PseudoClass.mem_all pseudo) ?_
  rw [same]
  simp [Token.text, Token.chars]

/-- A quiet token after the next one does not count. -/
theorem readToken_after {after' : Option Token} (quiet : IsQuiet after) (quiet' : IsQuiet after') :
    readToken s token ⟨beforeLast, last, next, after⟩ d = readToken s token ⟨beforeLast, last, next, after'⟩ d := by
  obtain ⟨named, other⟩ := quiet
  obtain ⟨named', other'⟩ := quiet'
  rw [readToken.eq_def, readToken.eq_def s token ⟨beforeLast, last, next, after'⟩]
  split
  · simp only [readWord, other, other']
  · rfl
  · rfl
  · rfl
  · simp only [readColon, readFirstColon, readPseudo, other, other', named, named']
  · rfl
  · simp only [readClosingParenthesis, closeNative, named, named']
  · rfl
  · rfl
  · rfl
  · rfl
  · rfl

/-- At the end of a regular part a space may follow. -/
theorem readSpace_next (read : readSpace s ⟨beforeLast, last, none, none⟩ d = .ok d')
    (regular : d'.openClass? = some .regular) :
    readSpace s ⟨beforeLast, last, some (.mark ' '), after⟩ d = .ok d' := by
  have next : continuesRegular (some (.mark ' ')) = true := rfl
  have nothing : continuesRegular none = false := rfl
  have joined : splitsPseudo ⟨beforeLast, last, some (.mark ' '), after⟩ =
      splitsPseudo ⟨beforeLast, last, none, none⟩ := rfl
  unfold readSpace at read ⊢
  simp only [next, nothing, joined, Option.isNone_none, Bool.or_true, Bool.true_or,
    if_true, Bool.false_eq_true, if_false] at read ⊢
  split at read <;> rename_i resumes
  all_goals
    obtain ⟨resumed, led, read⟩ := exists_of_bind_eq_ok read
    simp only [resumes, led, if_true, if_false, Bool.false_eq_true, ok_bind]
    split at read <;> rename_i is
    · exact read
    · exact read
    · exact read
    · obtain rfl := Except.ok.inj read
      rw [is] at regular
      cases regular
    · exact read

theorem readColon_next (read : readColon s ⟨beforeLast, last, none, none⟩ d = .ok d') :
    readColon s ⟨beforeLast, last, some (.mark ' '), none⟩ d = .ok d' := by
  have first (d : Draft) : readFirstColon ⟨beforeLast, last, some (.mark ' '), none⟩ d =
      readFirstColon ⟨beforeLast, last, none, none⟩ d := rfl
  unfold readColon at read ⊢
  split at read
  · cases read
  · rename_i apart
    obtain ⟨begun, led, read⟩ := exists_of_bind_eq_ok read
    rw [if_neg (by simp [namedPseudo?]), first, led, ok_bind]
    split at read
    · simp only [] at read
      split at read
      · obtain ⟨starred, _, read⟩ := exists_of_bind_eq_ok read
        cases read
      · cases read
    · cases read
    · exact read
    · cases read
    · exact read

theorem readToken_next (quiet : IsQuiet after) (read : readToken s token ⟨beforeLast, last, none, none⟩ d = .ok d')
    (regular : d'.openClass? = some .regular) :
    readToken s token ⟨beforeLast, last, some (.mark ' '), after⟩ d = .ok d' := by
  rw [readToken_after quiet isQuiet_none]
  rw [readToken.eq_def] at read ⊢
  split at read
  · exact read
  · simp [readComma] at read
  · exact readSpace_next read regular
  · exact read
  · exact readColon_next read
  · exact read
  · exact read
  · exact read
  · exact read
  · exact read
  · exact read
  · exact read

/-- A selector that ends in a regular part may be followed by a blank: it is read as if it stood alone. -/
theorem readTokens_next {tokens : List Token} (read : readTokens s beforeLast last tokens d = .ok d')
    (regular : d'.openClass? = some .regular) {c : Char} (other : c ≠ '(') (rest : List Token) :
    ∃ beforeLast' last', readTokens s beforeLast last (tokens ++ .mark ' ' :: .mark c :: rest) d =
      readTokens s beforeLast' last' (.mark ' ' :: .mark c :: rest) d' := by
  induction tokens generalizing beforeLast last d with
  | nil =>
    obtain rfl := Except.ok.inj read
    exact ⟨beforeLast, last, rfl⟩
  | cons token more ih =>
    obtain ⟨d1, step, read⟩ := exists_of_bind_eq_ok read
    obtain ⟨beforeLast', last', run⟩ := ih read
    refine ⟨beforeLast', last', (readTokens_step ?_).trans run⟩
    match more with
    | [] =>
      obtain rfl := Except.ok.inj read
      exact readToken_next (isQuiet_mark other) step regular
    | [next] => exact (readToken_after (isQuiet_mark (by decide)) isQuiet_none).trans step
    | next :: after :: others => exact step

theorem reopenRegular_fields {d d' : Draft} (reopened : d.reopenRegular = .ok d') :
    d'.inAttribute = d.inAttribute ∧ d'.inPattern = d.inPattern := by
  unfold Draft.reopenRegular at reopened
  split at reopened
  · cases reopened
  · split at reopened
    · obtain rfl := Except.ok.inj reopened
      exact ⟨rfl, rfl⟩
    · cases reopened
  · cases reopened

theorem ascend_fields (d : Draft) (target : NodeClass) :
    (d.ascend target).inAttribute = d.inAttribute ∧ (d.ascend target).inPattern = d.inPattern := by
  unfold Draft.ascend
  split <;> exact ⟨rfl, rfl⟩

/-- Going on after a combinator opens another node and changes nothing else. -/
theorem resume_fields {d d' : Draft} (resumed : d.resume = .ok d') :
    d'.inAttribute = d.inAttribute ∧ d'.inPattern = d.inPattern := by
  obtain ⟨condition, unchanged⟩ := ascend_fields d .selector
  rw [← condition, ← unchanged]
  unfold Draft.resume at resumed
  split at resumed
  · obtain rfl := Except.ok.inj resumed
    exact ⟨condition.symm, unchanged.symm⟩
  · simp only [] at resumed
    split at resumed
    · cases resumed
    · split at resumed
      · split at resumed
        · split at resumed
          · split at resumed <;> obtain rfl := Except.ok.inj resumed <;> exact ⟨rfl, rfl⟩
          · obtain rfl := Except.ok.inj resumed
            exact ⟨rfl, rfl⟩
        · exact reopenRegular_fields resumed
      · exact reopenRegular_fields resumed

/-- A brace is refused after the space behind a regular part. -/
theorem readTokens_brace (regular : d.openClass? = some .regular)
    (continued : ∀ d', d.resume = .ok d' → d'.openClass? = some .regular)
    (outside : d.inAttribute = false) (unpatterned : d.inPattern = false) (rest : List Token) (d' : Draft) :
    readTokens s beforeLast last (.mark ' ' :: .mark '\x7b' :: rest) d ≠ .ok d' := by
  intro read
  obtain ⟨spaced, space, read⟩ := exists_of_bind_eq_ok read
  obtain ⟨_, brace, _⟩ := exists_of_bind_eq_ok read
  have resumed : d.resume = .ok spaced := by
    have space : readSpace s ⟨beforeLast, last, some (.mark '\x7b'), rest.head?⟩ d = .ok spaced := space
    unfold readSpace at space
    simp only [regular, outside, Bool.not_false, Bool.and_true, beq_self_eq_true, if_true] at space
    obtain ⟨d1, led, space⟩ := exists_of_bind_eq_ok space
    have here := continued d1 led
    simp only [here, (resume_fields led).1, outside, Bool.false_eq_true, if_false] at space
    split at space
    · cases space
    · obtain rfl : d1 = spaced := Except.ok.inj space
      exact led
  obtain ⟨condition, unchanged⟩ := resume_fields resumed
  have refused : readMark s '\x7b' ⟨last, some (.mark ' '), rest.head?, rest.tail.head?⟩ spaced =
      .error (.notASelector s) := by
    unfold readMark
    have here := continued spaced resumed
    have signless : isCombinator '\x7b' = false := rfl
    simp only [signless, here, condition, unchanged, outside, unpatterned, ok_bind, Bool.false_eq_true, if_false,
      Bool.or_false, Bool.not_false, Bool.and_true, beq_self_eq_true, if_true]
  have brace : readMark s '\x7b' ⟨last, some (.mark ' '), rest.head?, rest.tail.head?⟩ spaced = .ok _ := brace
  rw [refused] at brace
  cases brace

/-- Whether a regular part is open with which a space goes on, and no pattern in it. -/
def isRegular (d : Draft) : Bool :=
  d.openClass? == some .regular && !d.inPattern && d.resume.toOption.all (·.openClass? == some .regular)

/-- The reading of a selector ends in its last regular part. -/
structure EndsRegular (selector : String) : Prop where
  trimmed : trimEnd selector.toList = selector.toList
  regular : (draft selector).toOption.any isRegular = true

theorem EndsRegular.of_draft {selector : String} (ends : EndsRegular selector) {d : Draft}
    (drafted : draft selector = .ok d) : d.openClass? = some .regular ∧ d.inPattern = false ∧
      ∀ d', d.resume = .ok d' → d'.openClass? = some .regular := by
  have regular := ends.regular
  rw [drafted] at regular
  have regular : isRegular d = true := regular
  simp only [isRegular, Bool.and_eq_true, beq_iff_eq, Bool.not_eq_true'] at regular
  obtain ⟨⟨here, unpatterned⟩, continued⟩ := regular
  refine ⟨here, unpatterned, fun d' resumed => ?_⟩
  rw [resumed] at continued
  exact eq_of_beq continued

/-- A selector that can be read leaves no attribute condition open. -/
theorem outside_of_finish {d : Draft} {tree : SelectorTree} (finished : finish s d = .ok tree) :
    d.inAttribute = false := by
  unfold finish at finished
  split at finished
  · cases finished
  · split at finished
    · cases finished
    · split at finished
      · cases finished
      · rename_i outside
        simpa using outside

theorem exists_of_draft {d : Draft} (drafted : draft s = .ok d) : ∃ current, LegacyForm.normalize s = .ok current ∧
    readTokens s none none (Token.split isSelectorMark current) {} = .ok d := by
  obtain ⟨tokens, split, run⟩ := exists_of_bind_eq_ok drafted
  cases normal : LegacyForm.normalize s with
  | error e =>
    rw [SelectorReader.tokens, normal] at split
    cases split
  | ok current =>
    rw [SelectorReader.tokens, normal] at split
    obtain rfl := Except.ok.inj split
    exact ⟨current, rfl, run⟩

end SelectorReader

open SelectorReader

theorem SelectorTree.exists_of_parse {s : String} {tree : SelectorTree} (parsed : parse s = .ok tree) :
    ∃ d unfolded, draft s = .ok d ∧ finish s d = .ok unfolded := by
  obtain ⟨_, read, _⟩ := exists_of_bind_eq_ok parsed
  obtain ⟨d, drafted, read⟩ := exists_of_bind_eq_ok read
  obtain ⟨unfolded, finished, _⟩ := exists_of_bind_eq_ok read
  exact ⟨d, unfolded, drafted, finished⟩

/-- No text that goes on with a space and a brace behind a selector that ends in a regular part is a selector. -/
theorem SelectorTree.parse_ne_of_brace {selector longer : String} {tree : SelectorTree}
    (parsed : parse selector = .ok tree) (ends : EndsRegular selector) {after : List Char}
    (whole : trim longer.toList = trim selector.toList ++ ' ' :: '\x7b' :: after) (other : SelectorTree) :
    parse longer ≠ .ok other := by
  intro read
  obtain ⟨d, _, drafted, finished⟩ := exists_of_parse parsed
  obtain ⟨regular, unpatterned, continued⟩ := ends.of_draft drafted
  obtain ⟨current, normal, run⟩ := exists_of_draft drafted
  obtain ⟨_, _, draftedLonger, _⟩ := exists_of_parse read
  obtain ⟨found, normalLonger, runLonger⟩ := exists_of_draft draftedLonger
  obtain ⟨rest, rfl⟩ := LegacyForm.normalize_brace normal whole normalLonger
  have tokens : Token.split isSelectorMark (current ++ ' ' :: '\x7b' :: rest) =
      Token.split isSelectorMark current ++ .mark ' ' :: .mark '\x7b' :: Token.split isSelectorMark rest := by
    rw [Token.split_append current (.cons rfl _), Token.split_cons_of_mark rfl, Token.split_cons_of_mark rfl]
  obtain ⟨beforeLast, last, led⟩ :=
    readTokens_next run regular (c := '\x7b') (by decide) (Token.split isSelectorMark rest)
  rw [tokens] at runLonger
  have alike := (alike_readTokens longer selector {} none none _).of_ok runLonger
  rw [led] at alike
  exact readTokens_brace regular continued (outside_of_finish finished) unpatterned _ _ alike

end CosmeticRules
