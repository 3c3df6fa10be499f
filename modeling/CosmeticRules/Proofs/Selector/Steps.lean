import CosmeticRules.Selector.Reader
import CosmeticRules.Proofs.Selector.Standing

/-!
What a token does to a draft. Whatever node is open, the draft after the token has its shape again, or the
token is refused for a reason that lies in the selector.
-/

namespace CosmeticRules

open SelectorReader Draft

variable {single : Prop} {place : NodeClass} {d : Draft} {selector text : String} {token : Token}
  {around : Surroundings} {next : Option Token}

/-- Where the reader can stand between two tokens. Behind the colon of a pseudo-class comes its name. -/
inductive Between (single : Prop) (next : Option Token) (d : Draft) : Prop
  | empty (nothing : d.tree = none)
  | settled (stands : Settled single d)
  | awaits (part : Awaits single d) (name : next.any isPseudoName = true)

theorem Yields.settled {x : Except SelectorError Draft} (yields : Yields (Stands single place) x)
    (outside : place ≠ .extended) : Yields (Settled single) x :=
  yields.mono fun _ stands => stands.settled outside

theorem Yields.between {x : Except SelectorError Draft} (yields : Yields (Settled single) x) :
    Yields (Between single next) x :=
  yields.mono fun _ stands => .settled stands

/-- What comes after a choice, as it stands behind both sides. -/
theorem Yields.ite_bind {α β : Type} {P : α → Prop} {Q : β → Prop} {c : Prop} [Decidable c]
    {x y : Except SelectorError α} {f : α → Except SelectorError β} (first : Yields P (if c then x else y))
    (then_ : ∀ a, P a → Yields Q (f a)) : Yields Q (if c then x >>= f else y >>= f) := by
  split_ifs at first ⊢ with is
  · exact first.bind then_
  · exact first.bind then_

namespace Draft

theorem openClass?_empty (nothing : d.tree = none) : d.openClass? = none := by
  rw [Draft.openClass?, Draft.open?, nodeAt?, nothing]
  rfl

theorem Settled.of_same (settled : Settled single d) {d' : Draft} (tree : d'.tree = d.tree)
    (path : d'.path = d.path) (fewer : d.pseudoNames = [] → d'.pseudoNames = []) : Settled single d' := by
  obtain ⟨place, outside, stands⟩ := settled
  exact ⟨place, outside, stands.of_same tree path fewer⟩

theorem Settled.note (settled : Settled single d) (c : Char) : Settled single (noteAttribute c around d) :=
  settled.of_same rfl rfl id

/-- A node is open, and if the token leads back to an earlier part of the selector, no pseudo-class is. -/
def Ready (single back : Prop) (d : Draft) : Prop :=
  ∃ place, place ≠ .extended ∧ Stands single place d ∧ (single → place = .selector → back → d.pseudoNames = [])

theorem started (d : Draft) (text : String) : Yields (Settled single) (d.start text) :=
  (start_yields d text).settled (by decide)

/-! Words, commas and spaces. -/

theorem Stands.readWord (stands : Stands single place d) (outside : place ≠ .extended) :
    Yields (Settled single) (readWord selector token around d) := by
  simp only [SelectorReader.readWord, stands.openClass?]
  cases place with
  | selectorList => exact (stands.addSelector _).settled (by decide)
  | selector => exact stands.settled (by decide)
  | regular => exact (stands.write (.inl rfl) _).settled (by decide)
  | absolute => exact (stands.write (.inr rfl) _).settled (by decide)
  | relative => exact (stands.addList _).settled (by decide)
  | extended => exact absurd rfl outside

theorem Stands.readComma (stands : Stands single place d) (outside : place ≠ .extended) :
    Yields (Settled single) (readComma selector around d) := by
  have listed : Settled single (d.ascend .selectorList) := stands.ascend_selectorList.settled (by decide)
  rw [SelectorReader.readComma]
  split
  · rfl
  · simp only [stands.openClass?]
    cases place with
    | regular =>
      simp only
      split
      · exact (stands.write (.inl rfl) _).settled (by decide)
      · exact listed
    | absolute => exact (stands.write (.inr rfl) _).settled (by decide)
    | selector => exact listed
    | extended => exact absurd rfl outside
    | selectorList | relative => exact stands.settled outside

theorem Stands.readSpace (stands : Stands single place d) (outside : place ≠ .extended) :
    Yields (Settled single) (readSpace selector around d) := by
  rw [SelectorReader.readSpace]
  refine Yields.ite_bind (P := Settled single) ?_ ?_
  · split
    · rename_i regular
      refine stands.resume outside fun _ is => ?_
      simp [stands.openClass?, is] at regular
    · exact stands.settled outside
  -- The selector goes on at the node that has been found.
  rintro d ⟨place, outside, stands⟩
  simp only [stands.openClass?]
  cases place with
  | regular =>
    have written := (stands.write (.inl rfl) " ").settled (by decide)
    simp only
    split_ifs
    · exact written
    · rfl
    · exact written
    · exact stands.settled outside
  | absolute => exact (stands.write (.inr rfl) _).settled (by decide)
  | relative => exact (stands.addList _).settled (by decide)
  | selector =>
    simp only
    split
    · exact (stands.addRegular _).settled (by decide)
    · exact stands.settled outside
  | extended => exact absurd rfl outside
  | selectorList => exact stands.settled outside

/-! Combinators and plain marks. -/

theorem noteSlash_yields (stands : Stands single place d) (outside : place ≠ .extended)
    (named : d.pseudoNames ≠ []) : Yields (Settled single) (noteSlash around d) := by
  rw [noteSlash]
  split
  · exact stands.settled outside
  · rename_i last _
    split
    · exact (stands.settled outside).of_same rfl rfl id
    · split
      · exact stands.settled outside
      · refine Yields.bind (P := fun _ => True) ?_ fun opens _ => (stands.settled outside).of_same rfl rfl id
        rw [opensPattern]
        split
        · exact absurd ‹_› named
        · split
          · trivial
          · split
            · rfl
            · trivial

theorem Stands.readMark (stands : Stands single place d) (outside : place ≠ .extended) {c : Char}
    (quiet : single → place = .selector → d.pseudoNames = []) :
    Yields (Settled single) (readMark selector c around d) := by
  have noted {x : Except SelectorError Draft} (yields : Yields (Settled single) x) :
      Yields (Settled single) (do return noteAttribute c around (← x)) :=
    yields.bind fun d settled => settled.note c
  simp only [SelectorReader.readMark, stands.openClass?, Option.isNone_some, Bool.false_eq_true, if_false]
  refine Yields.ite_bind (P := Ready single (isCombinator c = false)) ?_ ?_
  · split
    · rename_i combinator
      refine (stands.resume outside quiet).mono fun d' settled => ?_
      obtain ⟨place', outside', stands'⟩ := settled
      exact ⟨place', outside', stands', fun _ _ other => absurd combinator (by simp [other])⟩
    · exact ⟨place, outside, stands, fun one is _ => quiet one is⟩
  -- The selector goes on at the node that has been found.
  rintro d ⟨place, outside, stands, quiet⟩
  simp only [stands.openClass?]
  cases place with
  | regular =>
    simp only
    split
    · rfl
    · exact noted ((stands.write (.inl rfl) _).settled (by decide))
  | absolute =>
    refine (stands.write (.inr rfl) _).bind fun d' stands' => ?_
    split
    · rename_i slash
      exact noteSlash_yields stands' (by decide) (by simp at slash; exact slash.2)
    · exact stands'.settled (by decide)
  | relative => exact noted ((stands.addList _).settled (by decide))
  | selector =>
    simp only
    split
    · exact (stands.addRegular _).settled (by decide)
    · rename_i other
      split
      · exact stands.settled outside
      · refine (stands.reopened fun one => quiet one rfl (by simpa using other)).bind fun d' stands' => ?_
        exact noted ((stands'.write (.inl rfl) _).settled (by decide))
  | selectorList => exact noted ((stands.addSelector _).settled (by decide))
  | extended => exact absurd rfl outside

/-! Closing brackets of attribute conditions. -/

theorem closes_yields (text : String) : Yields (fun _ => True) (AttributeText.closes text) := by
  have after (last beforeLast : Option Token) (isWord : Bool) (tokens : List Token) :
      Yields (fun _ => True) (AttributeText.closes.closesAfter text last beforeLast isWord tokens) := by
    rw [AttributeText.closes.closesAfter]
    split
    · rfl
    · split
      · trivial
      · split
        · trivial
        · split
          · trivial
          · rfl
  rw [AttributeText.closes]
  split
  · split
    · rfl
    · exact after _ _ _ _
  · exact after _ _ _ _

theorem Stands.readClosingBracket (stands : Stands single place d) (outside : place ≠ .extended) :
    Yields (Settled single) (readClosingBracket selector around d) := by
  simp only [SelectorReader.readClosingBracket, stands.openClass?]
  cases place with
  | regular =>
    simp only
    split
    · rfl
    · refine Yields.ite_bind (P := fun _ => True) ?_ fun closes _ => ?_
      · split
        · exact closes_yields _
        · trivial
      · refine Yields.settled (Stands.write ?_ (.inl rfl) "]") (by decide)
        split
        · exact stands.of_same rfl rfl id
        · exact stands
  | absolute => exact (stands.write (.inr rfl) _).settled (by decide)
  | extended => exact absurd rfl outside
  | selectorList | selector | relative => exact stands.settled outside

/-! Colons. -/

theorem Stands.part (stands : Stands single place d) (next : Option Token) (inside : place ≠ .selectorList)
    (name : next.any isPseudoName = true) :
    Yields (Between single next) ((d.ascend .selector).add .extended) :=
  (stands.ascend_selector inside).addExtended.mono fun _ part => .awaits part name

/-- The colon of a native pseudo-class. -/
theorem Stands.nativeColon (stands : Stands single .regular d) (name : String) :
    Yields (Settled single) (do
      let d ← d.write ":"
      if isMark around.afterNext '(' && !d.inAttribute then
        return { d with nativeNames := name :: d.nativeNames }
      else return d) := by
  refine (stands.write (.inl rfl) ":").bind fun d' stands' => ?_
  have settled : Settled single d' := stands'.settled (by decide)
  split
  · exact settled.of_same rfl rfl id
  · exact settled

theorem Stands.readPseudo (stands : Stands single .regular d) :
    Yields (Between single around.next) (readPseudo selector around d) := by
  rw [SelectorReader.readPseudo]
  split
  · rfl
  · rename_i next is
    split
    · rename_i name
      have part := stands.part around.next (by decide) (by rw [is]; exact name)
      split
      · split
        · rfl
        · exact part
      · exact part
    · split
      · rfl
      · exact (stands.nativeColon _).between

theorem Stands.readFirstColon (stands : Stands single place d) (outside : place ≠ .extended)
    {back : Prop} (quiet : single → place = .selector → back → d.pseudoNames = []) :
    Yields (Ready single back) (readFirstColon around d) := by
  simp only [SelectorReader.readFirstColon, stands.openClass?]
  cases place with
  | selectorList => exact (stands.addSelector "").mono fun d' stands => ⟨.regular, by decide, stands, nofun⟩
  | _ => exact ⟨_, outside, stands, quiet⟩

theorem startedColon (nothing : d.tree = none) {back : Prop} :
    Yields (Ready single back) (readFirstColon around d) := by
  have ready (value : String) : Yields (Ready single back) (d.start value) :=
    (start_yields d value).mono fun _ stands => ⟨.regular, by decide, stands, nofun⟩
  simp only [SelectorReader.readFirstColon, openClass?_empty nothing]
  split
  · exact ready xpathRoot
  · rfl
  · rfl
  · exact ready "*"

/-- A colon, once what it is part of has been started. -/
theorem readColon_yields
    (first : Yields (Ready single (around.next.any isPseudoName = false)) (readFirstColon around d)) :
    Yields (Between single around.next) (readColon selector around d) := by
  rw [SelectorReader.readColon]
  split
  · rfl
  refine first.bind ?_
  rintro d ⟨place, outside, stands, quiet⟩
  simp only [stands.openClass?]
  cases place with
  | regular =>
    refine Yields.ite_bind (P := Stands single .regular) ?_ fun d' stands' => stands'.readPseudo
    split
    · exact stands.write (.inl rfl) "*"
    · exact stands
  | selector =>
    simp only
    split
    · rfl
    · rename_i next is
      split
      · rename_i name
        exact stands.addExtended.mono fun _ part => .awaits part (by rw [is]; exact name)
      · rename_i other
        split
        · rfl
        · have none : around.next.any isPseudoName = false := by rw [is]; exact eq_false_of_ne_true other
          exact (stands.reopened fun one => quiet one rfl none).bind fun d' stands' => stands'.readPseudo
  | absolute =>
    simp only
    split
    · rfl
    · exact ((stands.write (.inr rfl) ":").settled (by decide)).between
  | relative =>
    simp only
    split
    · rfl
    · rename_i next is
      refine (stands.addList "*").bind fun d' stands' => ?_
      split
      · rename_i name
        exact stands'.part _ (by decide) (by rw [is]; exact name)
      · refine (stands'.write (.inl rfl) ":").bind fun d'' stands'' => ?_
        have settled : Settled single d'' := stands''.settled (by decide)
        split
        · exact Between.settled (settled.of_same rfl rfl id)
        · exact Between.settled settled
  | extended => exact absurd rfl outside
  | selectorList => exact Between.settled (stands.settled outside)

/-! Parentheses. -/

theorem Stands.readOpeningParenthesis (stands : Stands single place d) (outside : place ≠ .extended) :
    Yields (Settled single) (readOpeningParenthesis d) := by
  simp only [SelectorReader.readOpeningParenthesis, stands.openClass?]
  cases place with
  | absolute =>
    have counted : Stands single .absolute { d with pseudoBrackets := d.pseudoBrackets + 1 } :=
      stands.of_same rfl rfl id
    simp only
    split
    · exact (stands.write (.inr rfl) "(").settled (by decide)
    · split
      · exact (counted.write (.inr rfl) "(").settled (by decide)
      · exact counted.settled (by decide)
  | regular =>
    refine Yields.ite_bind (P := Stands single .regular) ?_ fun d' stands' => ?_
    · split
      · exact stands
      · exact (stands.write (.inl rfl) "(").map fun d' stands' => stands'.of_same rfl rfl id
    · split
      · exact (stands'.write (.inl rfl) "(").settled (by decide)
      · exact stands'.settled (by decide)
  | relative => exact (stands.settled outside).of_same rfl rfl id
  | extended => exact absurd rfl outside
  | selectorList | selector => exact stands.settled outside

theorem Stands.closeArgument (stands : Stands single .absolute d) :
    Yields (Settled single) (closeArgument d) := by
  have written {d' : Draft} (stands : Stands single .absolute d') : Yields (Settled single) (d'.write ")") :=
    (stands.write (.inr rfl) ")").settled (by decide)
  have fewer : Stands single .absolute { d with pseudoBrackets := d.pseudoBrackets - 1 } :=
    stands.of_same rfl rfl id
  have closed : Stands single .absolute
      { d with pseudoBrackets := d.pseudoBrackets - 1, pseudoNames := d.pseudoNames.tail } :=
    stands.of_same rfl rfl (congrArg List.tail)
  simp only [SelectorReader.closeArgument]
  split_ifs
  · exact written stands
  · exact closed.settled (by decide)
  · exact written fewer
  · exact written closed
  · exact (closed.ascend_selector (by decide)).settled (by decide)

theorem Stands.closeNative (stands : Stands single .regular d) (name : String) :
    Yields (Settled single) (closeNative name around d) := by
  rw [SelectorReader.closeNative]
  refine (stands.write (.inl rfl) ")").bind fun d' stands' => ?_
  have settled : Settled single
      { d' with nativeBrackets := d'.nativeBrackets - 1, nativeNames := d'.nativeNames.tail } :=
    (stands'.settled (by decide)).of_same rfl rfl id
  simp only
  split
  · split
    · rfl
    · exact settled
  · exact settled

theorem Stands.readClosingParenthesis (stands : Stands single place d) (outside : place ≠ .extended) :
    Yields (Settled single) (readClosingParenthesis around d) := by
  have closed (inside : place ≠ .selectorList) : Settled single d.closePseudo :=
    (stands.closePseudo inside).settled (by decide)
  simp only [SelectorReader.readClosingParenthesis, stands.openClass?]
  cases place with
  | absolute => exact stands.closeArgument
  | regular =>
    simp only
    split
    · exact (stands.write (.inl rfl) ")").settled (by decide)
    · split
      · split
        · exact stands.closeNative _
        · exact closed (by decide)
      · exact closed (by decide)
  | selector => exact closed (by decide)
  | relative =>
    simp only
    split
    · exact (stands.settled outside).of_same rfl rfl (congrArg List.tail)
    · exact stands.settled outside
  | extended => exact absurd rfl outside
  | selectorList => exact stands.settled outside

/-! Names of pseudo-classes. -/

theorem Awaits.readName (awaits : Awaits single d) (name : isPseudoName token = true) :
    Yields (Settled single) (readWord selector token around d) := by
  obtain ⟨pseudo, found⟩ := Option.isSome_iff_exists.mp name
  have named (foldable : Bool) : Awaits single
      { d with pseudoNames := lowerText token :: d.pseudoNames, foldable } := awaits.of_same _ rfl rfl
  simp only [SelectorReader.readWord, awaits.openClass?]
  split
  · rfl
  · simp only [openPseudo, found]
    split
    · exact ((named d.foldable).add (.absolute pseudo "") (.inl rfl)).settled nofun
    · exact ((named _).add (.relative pseudo) (.inr rfl)).settled nofun

end Draft

/-! One token. -/

/-- Whether a pseudo-class has been closed within the argument of another, which is open still. -/
def Draft.isBehindPart (d : Draft) : Bool := d.openClass? == some .selector && !d.pseudoNames.isEmpty

namespace SelectorReader

/-- Whether the reader leaves the end of a selector for a part that it has read before. -/
def leadsBack (token : Token) (next : Option Token) : Bool :=
  match token with
  | .word _ => false
  | .mark ':' => !next.any isPseudoName
  | .mark c => !([' ', ',', '(', ')', ']'].contains c)

def selectorMarks : List Char :=
  [' ', '\t', '\n', '\r', '\x0c', '[', ']', '(', ')', '\x7b', '\x7d', '/', '\\', ';', ':', ',', '\'', '"', '^',
    '$', '*', '#', '.', '>', '+', '~']

theorem isPseudoName_mark {c : Char} (marked : isSelectorMark c = true) : isPseudoName (.mark c) = false := by
  have member : c ∈ selectorMarks := by
    simpa [isSelectorMark, Text.isAsciiBlank, selectorMarks, or_assoc] using marked
  have none : ∀ c ∈ selectorMarks, isPseudoName (.mark c) = false := by decide
  exact none c member

end SelectorReader

theorem readToken_empty (nothing : d.tree = none) :
    Yields (Between single around.next) (readToken selector token around d) := by
  have closed := openClass?_empty nothing
  have stays : Between single around.next d := .empty nothing
  rw [readToken.eq_def]
  split
  · rw [SelectorReader.readWord, closed]
    exact (started d _).between
  · rw [SelectorReader.readComma, closed]
    split <;> rfl
  · rw [SelectorReader.readSpace, closed]
    refine Yields.ite_bind (P := (· = d)) rfl ?_
    rintro _ rfl
    simp only [closed]
    exact stays
  · rw [SelectorReader.readClosingBracket, closed]
    exact stays
  · exact readColon_yields (startedColon nothing)
  · rw [SelectorReader.readOpeningParenthesis, closed]
    exact stays
  · rw [SelectorReader.readClosingParenthesis, closed]
    exact stays
  · rw [closed]
    rfl
  · rfl
  · rfl
  · rfl
  · simp only [SelectorReader.readMark, closed, Option.isNone_none, if_true]
    refine Yields.ite_bind (P := (· = d)) (by split <;> rfl) ?_
    rintro _ rfl
    simp only [closed]
    refine Yields.between (Yields.bind (P := Settled single) (started _ _) fun d settled => ?_)
    exact settled.note _

theorem Draft.Stands.readToken (stands : Stands single place d) (outside : place ≠ .extended)
    (apart : single → d.isBehindPart = true → leadsBack token around.next = false) :
    Yields (Between single around.next) (SelectorReader.readToken selector token around d) := by
  have quiet (back : leadsBack token around.next = true) (one : single) (is : place = .selector) :
      d.pseudoNames = [] := by
    have none := mt (apart one) (by rw [back]; decide)
    rw [Draft.isBehindPart, stands.openClass?, is] at none
    simpa using none
  rw [SelectorReader.readToken.eq_def]
  split
  · exact (stands.readWord outside).between
  · exact (stands.readComma outside).between
  · exact (stands.readSpace outside).between
  · exact (stands.readClosingBracket outside).between
  · refine readColon_yields (stands.readFirstColon outside fun one is other => quiet ?_ one is)
    simpa [leadsBack] using other
  · exact (stands.readOpeningParenthesis outside).between
  · exact (stands.readClosingParenthesis outside).between
  · split
    · rename_i regular
      have is : place = .regular := by
        simp [stands.openClass?] at regular
        exact regular.1
      subst is
      exact ((stands.write (.inl rfl) _).settled (by decide)).between
    · rfl
  · rfl
  · rfl
  · rfl
  · refine (stands.readMark outside (quiet ?_)).between
    simp_all [leadsBack]

theorem Between.readToken (between : Between single (some token) d)
    (marked : ∀ c, token = .mark c → isSelectorMark c = true)
    (apart : single → d.isBehindPart = true → leadsBack token around.next = false) :
    Yields (Between single around.next) (SelectorReader.readToken selector token around d) := by
  cases between with
  | empty nothing => exact readToken_empty nothing
  | settled settled =>
    obtain ⟨place, outside, stands⟩ := settled
    exact stands.readToken outside apart
  | awaits part name =>
    cases token with
    | word cs => exact (part.readName name).between
    | mark c =>
      rw [Option.any_some, isPseudoName_mark (marked c rfl)] at name
      exact absurd name (by decide)

/-! All tokens. -/

/-- Whether the reader never goes back behind a pseudo-class that has been closed within the argument of
another. -/
def SelectorReader.staysApart (selector : String) (beforeLast last : Option Token) :
    List Token → Draft → Bool
  | [], _ => true
  | token :: rest, d =>
    !(d.isBehindPart && leadsBack token rest.head?) &&
      match SelectorReader.readToken selector token ⟨beforeLast, last, rest.head?, rest.tail.head?⟩ d with
      | .ok d => staysApart selector last (some token) rest d
      | .error _ => true

theorem Between.readTokens {tokens : List Token} {beforeLast last : Option Token}
    (between : Between single tokens.head? d)
    (marked : ∀ c, .mark c ∈ tokens → isSelectorMark c = true)
    (apart : single → staysApart selector beforeLast last tokens d = true) :
    Yields (Between single none) (readTokens selector beforeLast last tokens d) := by
  induction tokens generalizing d beforeLast last with
  | nil => exact between
  | cons token rest ih =>
    have step : Yields (Between single rest.head?)
        (SelectorReader.readToken selector token ⟨beforeLast, last, rest.head?, rest.tail.head?⟩ d) := by
      refine between.readToken (fun c is => marked c (is ▸ List.mem_cons_self)) fun one behind => ?_
      have first := (Bool.and_eq_true_iff.mp (apart one)).1
      simpa [behind] using first
    rw [SelectorReader.readTokens]
    cases read : SelectorReader.readToken selector token ⟨beforeLast, last, rest.head?, rest.tail.head?⟩ d with
    | error e =>
      rw [read] at step
      exact step
    | ok d' =>
      rw [read] at step
      refine ih step (fun c member => marked c (List.mem_cons_of_mem _ member)) fun one => ?_
      have later := (Bool.and_eq_true_iff.mp (apart one)).2
      rw [read] at later
      exact later

/-- The tree of a draft at the end of the text. -/
theorem Between.finish (between : Between single none d) :
    Yields (fun tree => tree.toClass = .selectorList ∧ tree.Everywhere (SelectorTree.Shape single))
      (finish selector d) := by
  have kept {tree : SelectorTree} (holds : d.tree = some tree)
      (good : tree.toClass = .selectorList ∧ tree.Everywhere (SelectorTree.Shape single)) :
      Yields (fun tree => tree.toClass = .selectorList ∧ tree.Everywhere (SelectorTree.Shape single))
        (SelectorReader.finish selector d) := by
    rw [SelectorReader.finish, holds]
    simp only
    split_ifs
    · rfl
    · rfl
    · exact good
  cases between with
  | empty nothing =>
    rw [SelectorReader.finish, nothing]
    rfl
  | settled settled =>
    obtain ⟨place, _, tree, node, opens, _, _⟩ := settled
    exact kept opens.holds ⟨opens.root, opens.shaped⟩
  | awaits part name => exact absurd name (by decide)

end CosmeticRules
