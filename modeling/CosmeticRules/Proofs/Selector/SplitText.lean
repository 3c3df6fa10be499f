import CosmeticRules.Proofs.Selector.MaximalSplit
import CosmeticRules.Proofs.Selector.PrintedText

/-!
The tokens of printed selectors: the first, the last, and those between.
-/

namespace CosmeticRules

namespace PlainText

open Token

/-- The tokens of complex selectors: words, and marks with no meaning of their own but the space. -/
def IsTextToken : Token → Prop
  | .word _ => True
  | .mark c => c ∈ ['*', '.', '#', ' ', '>', '+', '~']

/-- The tokens with which a part may begin: a combinator only where one may lead. -/
def IsFirstToken (led : Bool) : Token → Prop
  | .word _ => True
  | .mark c => c ∈ ['*', '.', '#'] ∨ led = true ∧ c ∈ signs

/-- The tokens with which a part may end. -/
def IsLastToken (token : Token) : Prop := token.isWord = true ∨ token = .mark '*'

/-- The tokens of a selector text. -/
abbrev textTokens (s : List Char) : List Token := split isSelectorMark s

theorem IsText.tokens {s : List Char} (text : IsText s) : ∀ token ∈ textTokens s, IsTextToken token := by
  intro token member
  cases token with
  | word cs => trivial
  | mark c =>
    have marked := isMark_of_mark_mem_split member
    have plain := text.chars c (mem_of_mark_mem_split member)
    rw [isTextChar, Bool.or_eq_true] at plain
    rcases plain with named | listed
    · rw [isSelectorMark_of_isPlainChar named] at marked
      exact absurd marked Bool.false_ne_true
    · exact List.contains_iff_mem.mp listed

theorem IsText.last_token {s : List Char} (text : IsText s) {token : Token}
    (last : (textTokens s).getLast? = some token) : IsLastToken token := by
  cases token with
  | word cs => exact Or.inl rfl
  | mark c =>
    have known := text.tokens (.mark c) (List.mem_of_getLast? last)
    have ends := text.last c (getLast?_of_mark_split last)
    refine Or.inr (congrArg Token.mark ?_)
    simp only [IsTextToken, List.mem_cons, List.not_mem_nil, or_false] at known
    rcases known with rfl | rfl | rfl | rfl | rfl | rfl | rfl
    · rfl
    all_goals exact absurd ends (by decide)

theorem IsText.exists_token {s : List Char} (text : IsText s) :
    ∃ token rest, textTokens s = token :: rest :=
  List.exists_cons_of_ne_nil (split_ne_nil text.filled)

theorem IsRegular.first_token {led : Bool} {s : List Char} (regular : IsRegular led s) {token : Token}
    (first : (textTokens s).head? = some token) : IsFirstToken led token := by
  cases token with
  | word cs => trivial
  | mark c =>
    have marked := isMark_of_mark_mem_split (List.mem_of_head? first)
    have head := head?_of_mark_split first
    cases regular with
    | plain complex =>
      obtain ⟨d, rest, same, starts⟩ := complex.start []
      rw [List.append_nil] at same
      rw [same] at head
      obtain rfl := Option.some.inj head
      simp only [isStart, Bool.or_eq_true, beq_iff_eq] at starts
      rcases starts with ((named | rfl) | rfl) | rfl
      · rw [isSelectorMark_of_isPlainChar named] at marked
        exact absurd marked Bool.false_ne_true
      · exact Or.inl (by decide)
      · exact Or.inl (by decide)
      · exact Or.inl (by decide)
    | led combinator complex =>
      obtain rfl := Option.some.inj head
      exact Or.inr ⟨rfl, combinator⟩

end PlainText

end CosmeticRules
