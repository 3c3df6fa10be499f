import CosmeticRules.Log
import CosmeticRules.Proofs.Selector.OpenPart
import CosmeticRules.Proofs.Selector.SplitText
import CosmeticRules.Selector.Reader

/-!
What single tokens of printed selectors do to a draft, and what it means that a text leads from one draft to
another.
-/

namespace CosmeticRules

namespace SelectorReader

open PlainText Draft

variable (selector : String) (around : Surroundings) (frames : List Frame) (before parts : List SelectorTree)

theorem noteAttribute_of_ne {c : Char} (other : c ≠ '[') (d : Draft) : noteAttribute c around d = d := by
  have closed : opensAttribute c around = false := by simp [opensAttribute, other]
  rw [noteAttribute, closed, Bool.or_false]

/-- The marks with no meaning of their own. -/
def plainMarks : List Char := ['*', '.', '#']

theorem readToken_of_plainMark {c : Char} (listed : c ∈ plainMarks ∨ c ∈ signs) (d : Draft) :
    readToken selector (.mark c) around d = readMark selector c around d := by
  simp only [plainMarks, signs, List.mem_cons, List.not_mem_nil, or_false] at listed
  rcases listed with (rfl | rfl | rfl) | (rfl | rfl | rfl) <;> rfl

/-- What a text with no meaning of its own does where a draft is open. -/
def place (text : String) (d : Draft) : Except SelectorError Draft :=
  match d.openClass? with
  | none => d.start text
  | some .selectorList => d.addSelector text
  | some .regular => d.write text
  | some .relative => d.addList text
  | _ => .ok d

/-- A draft in which a part is open or can be started. -/
def Takes (d : Draft) : Prop :=
  d.openClass? = none ∨ d.openClass? = some .selectorList ∨ d.openClass? = some .regular ∨
    d.openClass? = some .relative

theorem readWord_eq_place (cs : List Char) {d : Draft} (takes : Takes d) :
    readToken selector (.word cs) around d = place (String.ofList cs) d := by
  show readWord selector (.word cs) around d = _
  rw [readWord, place]
  rcases takes with opened | opened | opened | opened <;> rw [opened] <;> rfl

/-- The draft stays open where it is when a combinator follows. -/
def Resumes (d : Draft) : Prop := d.openClass?.isNone = false ∧ d.resume = .ok d

theorem readMark_eq_place {c : Char} (listed : c ∈ plainMarks ∨ c ∈ signs) {d : Draft} (takes : Takes d)
    (resumes : c ∈ signs → Resumes d) :
    readToken selector (.mark c) around d = place (String.singleton c) d := by
  have unbracketed : c ≠ '[' := by
    rintro rfl
    revert listed
    decide
  have unbraced : c ≠ '\x7b' := by
    rintro rfl
    revert listed
    decide
  have others : ∀ c ∈ plainMarks, isCombinator c = false := by decide
  rw [readToken_of_plainMark selector around listed, readMark, place]
  split
  · rename_i combines
    have sign : c ∈ signs := by
      refine listed.resolve_left fun plain => ?_
      rw [others c plain] at combines
      exact Bool.false_ne_true combines
    obtain ⟨placed, same⟩ := resumes sign
    rw [placed, same]
    rcases takes with opened | opened | opened | opened <;>
      simp [ok_bind, opened, noteAttribute_of_ne around unbracketed, unbraced]
  · rcases takes with opened | opened | opened | opened <;>
      simp [ok_bind, opened, noteAttribute_of_ne around unbracketed, unbraced]

theorem place_inRegular (value text : String) :
    place text (inRegular frames before parts value) = .ok (inRegular frames before parts (value ++ text)) := by
  rw [place, openClass?_inRegular]
  exact write_inRegular frames before parts value text

/-- A draft in which a text, with a combinator before it or not, becomes the value of a regular part. -/
structure Opens (led : Bool) (d : Draft) (opened : String → Draft) : Prop where
  takes : Takes d
  resumes : led = true → Resumes d
  places : ∀ text, place text d = .ok (opened text)

theorem Opens.readToken {led : Bool} {d : Draft} {opened : String → Draft} (opens : Opens led d opened)
    {token : Token} (first : IsFirstToken led token) :
    readToken selector token around d = .ok (opened token.text) := by
  cases token with
  | word cs => exact (readWord_eq_place selector around cs opens.takes).trans (opens.places _)
  | mark c =>
    have listed : c ∈ plainMarks ∨ c ∈ signs := first.imp_right And.right
    refine (readMark_eq_place selector around listed opens.takes fun sign => ?_).trans (opens.places _)
    rcases first with plain | leads
    · have others : ∀ c ∈ plainMarks, c ∉ signs := by decide
      exact absurd sign (others c plain)
    · exact opens.resumes leads.1

theorem opens_empty : Opens false {} (inRegular [] [] []) where
  takes := Or.inl rfl
  resumes := fun leads => absurd leads Bool.false_ne_true
  places := start_empty

theorem opens_inList {led : Bool} (inside : led = true → frames ≠ []) :
    Opens led (inList frames before) (inRegular frames before []) where
  takes := Or.inr (Or.inl (openClass?_inList frames before))
  resumes := fun leads => ⟨by rw [openClass?_inList]; rfl, resume_inList before (inside leads)⟩
  places := by
    intro text
    rw [place, openClass?_inList]
    exact addSelector_inList frames before text

theorem opens_inRegular (led : Bool) :
    Opens led (inRegular frames before parts "") (inRegular frames before parts) where
  takes := Or.inr (Or.inr (Or.inl (openClass?_inRegular frames before parts "")))
  resumes := fun _ => ⟨by rw [openClass?_inRegular]; rfl, resume_inRegular frames before parts ""⟩
  places := by
    intro text
    rw [place_inRegular, String.empty_append]

theorem opens_inPseudo (led : Bool) {pseudo : PseudoClass} (relative : pseudo.isRelative = true) :
    Opens led (inPseudo frames before parts pseudo (.relative pseudo) 1)
      (inRegular (frames ++ [⟨before, parts, pseudo⟩]) [] []) where
  takes := Or.inr (Or.inr (Or.inr (openClass?_inPseudo frames before parts pseudo _ 1)))
  resumes := fun _ => ⟨by rw [openClass?_inPseudo]; rfl, resume_inPseudo frames before parts relative⟩
  places := by
    intro text
    rw [place, openClass?_inPseudo]
    exact addList_inPseudo frames before parts pseudo text

/-! Spaces and commas. -/

variable {selector around frames before parts}

theorem readSpace_inRegular (value : String) (goesOn : continuesRegular around.next = true)
    (last : isMark around.last ':' = false) :
    readToken selector (.mark ' ') around (inRegular frames before parts value) =
      .ok (inRegular frames before parts (value ++ " ")) := by
  have whole : splitsPseudo around = false := by
    have next : isMark around.next '(' = false := by
      refine Bool.eq_false_iff.mpr fun opening => ?_
      rw [eq_of_beq opening] at goesOn
      exact absurd goesOn (by decide)
    rw [splitsPseudo, last, next, Bool.false_and, Bool.and_false]
    rfl
  show readSpace selector around (inRegular frames before parts value) = _
  have outside : (inRegular frames before parts value).inAttribute = false := rfl
  rw [readSpace, openClass?_inRegular]
  simp only [outside, beq_self_eq_true, Bool.not_false, Bool.and_true, if_true, resume_inRegular, ok_bind,
    openClass?_inRegular, Bool.false_eq_true, if_false, whole, goesOn, Bool.or_true]
  exact write_inRegular frames before parts value " "

/-- A space after a pseudo-class begins another regular part. -/
theorem readSpace_inSelector (goesOn : continuesRegular around.next = true) :
    readToken selector (.mark ' ') around (inSelector frames before parts) =
      .ok (inRegular frames before parts "") := by
  show readSpace selector around (inSelector frames before parts) = _
  rw [readSpace, openClass?_inSelector, if_neg (by simp)]
  simp only [ok_bind, openClass?_inSelector, goesOn, if_true]
  exact addRegular_inSelector frames before parts ""

theorem readSpace_inList :
    readToken selector (.mark ' ') around (inList frames before) = .ok (inList frames before) := by
  show readSpace selector around (inList frames before) = _
  rw [readSpace, openClass?_inList, if_neg (by simp)]
  simp only [ok_bind, openClass?_inList]

/-- A draft that is open at the end of a selector with these parts: the last one is regular, or the selector
itself is open. -/
inductive IsAfter (frames : List Frame) (before : List SelectorTree) : List SelectorTree → Draft → Prop
  | regular (parts : List SelectorTree) (value : String) :
      IsAfter frames before (parts ++ [.leaf (.regular value)]) (inRegular frames before parts value)
  | extended (parts : List SelectorTree) : IsAfter frames before parts (inSelector frames before parts)

theorem IsAfter.readComma {d : Draft} (after : IsAfter frames before parts d)
    (next : around.next.isNone = false) :
    readToken selector (.mark ',') around d = .ok (inList frames (before ++ [.node .selector parts])) := by
  show SelectorReader.readComma selector around d = _
  rw [SelectorReader.readComma, next, if_neg Bool.false_ne_true]
  cases after with
  | regular parts value =>
    rw [openClass?_inRegular, ← ascend_list_inRegular]
    rfl
  | extended parts => rw [openClass?_inSelector, ← ascend_list_inSelector]

theorem IsAfter.readClosing {f : Frame} {d : Draft} (after : IsAfter (frames ++ [f]) before parts d) :
    readToken selector (.mark ')') around d =
      .ok (inSelector frames f.selectors (f.parts ++ [.node .extended [.node (.relative f.pseudo)
        [openList before parts]]])) := by
  show readClosingParenthesis around d = _
  cases after with
  | regular parts value =>
    rw [readClosingParenthesis, openClass?_inRegular, ← closePseudo_inRegular]
    rfl
  | extended parts => rw [readClosingParenthesis, openClass?_inSelector, ← closePseudo_inSelector]

/-! Pseudo-classes. -/

/-- The token of the name of a pseudo-class. -/
def nameToken (pseudo : PseudoClass) : Token := .word pseudo.name.toList

theorem lowerText_nameToken {pseudo : PseudoClass} (printed : pseudo ∈ printedPseudos) :
    lowerText (nameToken pseudo) = pseudo.name := by
  revert pseudo
  decide +kernel

theorem ofName?_name (pseudo : PseudoClass) : PseudoClass.ofName? pseudo.name = some pseudo := by
  cases pseudo <;> decide +kernel

theorem isPseudoName_nameToken {pseudo : PseudoClass} (printed : pseudo ∈ printedPseudos) :
    isPseudoName (nameToken pseudo) = true := by
  rw [isPseudoName, lowerText_nameToken printed, ofName?_name]
  rfl

/-- A token after which a colon belongs to the same compound. -/
def IsSettled (last : Option Token) : Prop :=
  isCombinatorToken last = false ∧ isMark last ',' = false ∧ isMark last ':' = false

/-- A colon after a regular part is read as one in its selector. -/
theorem readColon_inRegular {value : String} {pseudo : PseudoClass} (printed : pseudo ∈ printedPseudos)
    (next : around.next = some (nameToken pseudo)) (settled : IsSettled around.last) :
    readToken selector (.mark ':') around (inRegular frames before parts value) =
      .ok (inExtended frames before (parts ++ [.leaf (.regular value)])) := by
  obtain ⟨combinator, comma, _⟩ := settled
  have word : isBlank (some (nameToken pseudo)) = false := rfl
  have first : readFirstColon around (inRegular frames before parts value) =
      .ok (inRegular frames before parts value) := by
    rw [readFirstColon, openClass?_inRegular]
  show readColon selector around (inRegular frames before parts value) = _
  rw [readColon, next, word, Bool.false_and, if_neg Bool.false_ne_true, first]
  simp only [ok_bind, openClass?_inRegular, combinator, comma, Bool.or_false, Bool.false_eq_true, if_false]
  rw [readPseudo, next]
  simp only [isPseudoName_nameToken printed, if_true, ascend_inRegular]
  exact addExtended_inSelector frames before (parts ++ [.leaf (.regular value)])

theorem readColon_inSelector {pseudo : PseudoClass} (printed : pseudo ∈ printedPseudos)
    (next : around.next = some (nameToken pseudo)) :
    readToken selector (.mark ':') around (inSelector frames before parts) =
      .ok (inExtended frames before parts) := by
  have word : isBlank (some (nameToken pseudo)) = false := rfl
  have first : readFirstColon around (inSelector frames before parts) = .ok (inSelector frames before parts) := by
    rw [readFirstColon, openClass?_inSelector]
  show readColon selector around (inSelector frames before parts) = _
  rw [readColon, next, word, Bool.false_and, if_neg Bool.false_ne_true, first]
  simp only [ok_bind, openClass?_inSelector, isPseudoName_nameToken printed, if_true]
  exact addExtended_inSelector frames before parts

/-- A draft after which a token is read as one that continues its selector. -/
def Settled (last : Option Token) (d : Draft) : Prop := d.openClass? = some .regular → IsSettled last

theorem IsAfter.readColon {d : Draft} (after : IsAfter frames before parts d) {pseudo : PseudoClass}
    (printed : pseudo ∈ printedPseudos) (next : around.next = some (nameToken pseudo))
    (settled : Settled around.last d) :
    readToken selector (.mark ':') around d = .ok (inExtended frames before parts) := by
  cases after with
  | regular parts value =>
    exact readColon_inRegular printed next (settled (openClass?_inRegular frames before parts value))
  | extended parts => exact readColon_inSelector printed next

/-- What a pseudo-class holds before its argument is read. -/
def emptyKind (pseudo : PseudoClass) : NodeKind :=
  if pseudo.isAbsolute then .absolute pseudo "" else .relative pseudo

theorem readName_inExtended {pseudo : PseudoClass} (printed : pseudo ∈ printedPseudos)
    (next : around.next = some (.mark '(')) :
    readToken selector (nameToken pseudo) around (inExtended frames before parts) =
      .ok (inPseudo frames before parts pseudo (emptyKind pseudo) 0) := by
  have closed : isBlank (some (Token.mark '(')) = false := rfl
  have kept : pseudo.isFoldable = false := by
    revert pseudo
    decide
  have opened : openPseudo (nameToken pseudo) (inExtended frames before parts) =
      { inExtended frames before parts with pseudoNames := pseudo.name :: openNames frames }.add
        (emptyKind pseudo) := by
    rw [openPseudo, lowerText_nameToken printed]
    simp only [ofName?_name, kept, Bool.or_false, emptyKind]
    split <;> rfl
  show readWord selector (nameToken pseudo) around (inExtended frames before parts) = _
  rw [readWord, openClass?_inExtended, next, closed]
  exact opened.trans (add_inExtended frames before parts pseudo (emptyKind pseudo))

theorem emptyKind_cases (pseudo : PseudoClass) :
    emptyKind pseudo = .absolute pseudo "" ∨ emptyKind pseudo = .relative pseudo := by
  rw [emptyKind]
  split
  · exact Or.inl rfl
  · exact Or.inr rfl

theorem readOpening_inPseudo (pseudo : PseudoClass) :
    readToken selector (.mark '(') around (inPseudo frames before parts pseudo (emptyKind pseudo) 0) =
      .ok (inPseudo frames before parts pseudo (emptyKind pseudo) 1) := by
  show readOpeningParenthesis (inPseudo frames before parts pseudo (emptyKind pseudo) 0) = _
  have more : ¬(frames.length + 0 + 1 > (pseudo.name :: openNames frames).length) := by
    simp [openNames]
  rw [readOpeningParenthesis, openClass?_inPseudo]
  rcases emptyKind_cases pseudo with same | same <;> rw [same]
  · have plain : (inPseudo frames before parts pseudo (.absolute pseudo "") 0).inPattern = false := rfl
    simp only [NodeKind.toClass, plain, Bool.and_false, Bool.false_eq_true, if_false]
    exact if_neg more
  · rfl

/-! Reading a text. -/

section reading

open Token

theorem readTokens_step {token : Token} {rest : List Token} {beforeLast last : Option Token}
    {d d' : Draft}
    (step : readToken selector token ⟨beforeLast, last, rest.head?, rest.tail.head?⟩ d = .ok d') :
    readTokens selector beforeLast last (token :: rest) d =
      readTokens selector last (some token) rest d' := by
  rw [readTokens, step]
  rfl

/-- Reading a text takes one draft to another, whatever comes before it and whatever mark after it. -/
def Leads (selector : String) (s : List Char) (d d' : Draft) : Prop :=
  ∀ beforeLast last rest, Settled last d → EndsWord isSelectorMark rest →
    ∃ beforeLast' last', Settled last' d' ∧
      readTokens selector beforeLast last (textTokens (s ++ rest)) d =
        readTokens selector beforeLast' last' (textTokens rest) d'

theorem Leads.nil (d : Draft) : Leads selector [] d d :=
  fun beforeLast last _ settled _ => ⟨beforeLast, last, settled, rfl⟩

theorem Leads.append {s t : List Char} {d d' d'' : Draft} (first : Leads selector s d d')
    (second : Leads selector t d' d'') (ends : EndsWord isSelectorMark t) :
    Leads selector (s ++ t) d d'' := by
  intro beforeLast last rest settled apart
  obtain ⟨beforeMiddle, middle, settledMiddle, here⟩ :=
    first beforeLast last (t ++ rest) settled (ends.append apart)
  obtain ⟨beforeLast', last', settled', there⟩ := second beforeMiddle middle rest settledMiddle apart
  refine ⟨beforeLast', last', settled', ?_⟩
  rw [List.append_assoc, here, there]

/-- A mark before a text. -/
theorem Leads.mark {c : Char} {s : List Char} {d d' d'' : Draft} (marked : isSelectorMark c = true)
    (step : ∀ around rest, Settled around.last d → EndsWord isSelectorMark rest →
      around.next = (textTokens (s ++ rest)).head? → readToken selector (.mark c) around d = .ok d')
    (settled : Settled (some (.mark c)) d') (leads : Leads selector s d' d'') :
    Leads selector (c :: s) d d'' := by
  intro beforeLast last rest before apart
  obtain ⟨beforeLast', last', settled', there⟩ := leads last (some (.mark c)) rest settled apart
  refine ⟨beforeLast', last', settled', ?_⟩
  rw [List.cons_append, textTokens, split_cons_of_mark marked,
    readTokens_step (step _ rest before apart rfl), there]

theorem settled_of_openClass? {last : Option Token} {d : Draft} {place : NodeClass}
    (opened : d.openClass? = some place) (other : place ≠ .regular) : Settled last d :=
  fun regular => absurd (Option.some.inj (opened.symm.trans regular)) other

/-- A selector whose tokens were read up to the end of a selector with nothing open around it. -/
theorem parse_of_run {s : List Char} (normal : LegacyForm.normalize selector = .ok s) {d : Draft}
    (after : IsAfter [] before parts d) (run : readTokens selector none none (textTokens s) {} = .ok d) :
    SelectorTree.parse selector = .ok (openList before parts) := by
  have drafted : draft selector = .ok d := by
    rw [draft, SelectorReader.tokens, normal]
    exact run
  have finished : finish selector d = .ok (openList before parts) := by cases after <;> rfl
  have unfolded : d.foldable = false := by cases after <;> rfl
  rw [SelectorTree.parse, SelectorTree.readUnfolded, drafted]
  simp only [ok_bind, finished, pure_bind, unfolded]
  rfl

end reading

end SelectorReader

end CosmeticRules
