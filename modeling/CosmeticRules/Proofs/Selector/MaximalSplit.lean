import CosmeticRules.Selector.Token
import Mathlib.Data.List.Chain

/-!
Texts and the tokens they are split into. A text may be split on its own where a mark follows it, and its tokens
are the only marks and words that spell it with no word next to another.
-/

namespace CosmeticRules

namespace Token

variable {isMark : Char → Bool}

/-- Nothing, or a text that begins with a mark: no word goes on there. -/
def EndsWord (isMark : Char → Bool) (s : List Char) : Prop := ∀ c, s.head? = some c → isMark c = true

theorem EndsWord.nil : EndsWord isMark [] := by simp [EndsWord]

theorem EndsWord.cons {c : Char} (marked : isMark c = true) (s : List Char) :
    EndsWord isMark (c :: s) := by
  intro d first
  obtain rfl := Option.some.inj first
  exact marked

theorem EndsWord.append {s t : List Char} (first : EndsWord isMark s) (second : EndsWord isMark t) :
    EndsWord isMark (s ++ t) := by
  cases s with
  | nil => exact second
  | cons c rest => exact fun d head => first d head

theorem split_cons_of_mark {c : Char} (marked : isMark c = true) (s : List Char) :
    split isMark (c :: s) = mark c :: split isMark s := by
  rw [split, if_pos marked]

theorem consWord_append (c : Char) {tokens : List Token} (filled : tokens ≠ []) (more : List Token) :
    consWord c (tokens ++ more) = consWord c tokens ++ more := by
  obtain ⟨token, rest, rfl⟩ := List.exists_cons_of_ne_nil filled
  cases token <;> rfl

theorem consWord_of_endsWord (c : Char) {s : List Char} (ends : EndsWord isMark s) :
    consWord c (split isMark s) = word [c] :: split isMark s := by
  cases s with
  | nil => rfl
  | cons d rest => rw [split_cons_of_mark (ends d rfl)]; rfl

theorem split_ne_nil {s : List Char} (filled : s ≠ []) : split isMark s ≠ [] := by
  intro nothing
  have same := flatMap_chars_split isMark s
  rw [nothing] at same
  exact filled same.symm

theorem split_append (s : List Char) {rest : List Char} (ends : EndsWord isMark rest) :
    split isMark (s ++ rest) = split isMark s ++ split isMark rest := by
  induction s with
  | nil => rfl
  | cons c more ih =>
    rw [List.cons_append, split, split, ih]
    split
    · rfl
    · cases more with
      | nil => exact consWord_of_endsWord c ends
      | cons d others => exact consWord_append c (split_ne_nil (List.cons_ne_nil d others)) _

theorem split_word {s : List Char} (filled : s ≠ []) (unmarked : ∀ c ∈ s, isMark c = false) :
    split isMark s = [word s] := by
  induction s with
  | nil => exact absurd rfl filled
  | cons c rest ih =>
    obtain ⟨here, others⟩ := List.forall_mem_cons.mp unmarked
    rw [split, here, if_neg Bool.false_ne_true]
    cases rest with
    | nil => rfl
    | cons d more => rw [ih (List.cons_ne_nil d more) others]; rfl

/-- The first token of a text and the rest of the text after it. -/
theorem split_eq_cons {s : List Char} {token : Token} {more : List Token}
    (same : split isMark s = token :: more) : ∃ rest, s = token.chars ++ rest ∧ split isMark rest = more := by
  induction s generalizing token more with
  | nil => exact absurd same (by simp [split])
  | cons c rest ih =>
    rw [split] at same
    split at same
    · obtain ⟨rfl, rfl⟩ := List.cons.inj same
      exact ⟨rest, rfl, rfl⟩
    · cases tokens : split isMark rest with
      | nil =>
        rw [tokens] at same
        obtain ⟨rfl, rfl⟩ := List.cons.inj same
        exact ⟨rest, rfl, tokens⟩
      | cons first others =>
        rw [tokens] at same
        cases first with
        | mark d =>
          obtain ⟨rfl, rfl⟩ := List.cons.inj same
          exact ⟨rest, rfl, tokens⟩
        | word cs =>
          obtain ⟨rfl, rfl⟩ := List.cons.inj same
          obtain ⟨after, rfl, last⟩ := ih tokens
          exact ⟨after, rfl, last⟩

/-- A mark among the tokens stands for a character of the text. -/
theorem mem_of_mark_mem_split {s : List Char} {c : Char} (member : mark c ∈ split isMark s) : c ∈ s := by
  have same := flatMap_chars_split isMark s
  rw [← same]
  exact List.mem_flatMap_of_mem member (List.mem_singleton_self c)

theorem getLast?_of_mark_split {s : List Char} {c : Char}
    (last : (split isMark s).getLast? = some (mark c)) : s.getLast? = some c := by
  obtain ⟨before, same⟩ := List.getLast?_eq_some_iff.mp last
  have whole := flatMap_chars_split isMark s
  rw [same, List.flatMap_append] at whole
  rw [← whole]
  exact List.getLast?_concat

theorem head?_of_mark_split {s : List Char} {c : Char}
    (first : (split isMark s).head? = some (mark c)) : s.head? = some c := by
  obtain ⟨rest, same⟩ := List.head?_eq_some_iff.mp first
  have whole := flatMap_chars_split isMark s
  rw [same] at whole
  rw [← whole]
  rfl

/-! What the tokens of a text are, and that nothing else is. -/

/-- A mark that is one, or a word with at least one character and no mark in it. -/
def IsMarkOrWord (isMark : Char → Bool) : Token → Prop
  | mark c => isMark c = true
  | word cs => cs ≠ [] ∧ ∀ c ∈ cs, isMark c = false

/-- Marks and words in which no word is cut short: none stands next to another. -/
structure IsMaximal (isMark : Char → Bool) (tokens : List Token) : Prop where
  known : ∀ token ∈ tokens, token.IsMarkOrWord isMark
  apart : tokens.IsChain fun token next => ¬(token.isWord = true ∧ next.isWord = true)

variable {c : Char} {token : Token} {tokens : List Token}

theorem isMaximal_nil : IsMaximal isMark [] := ⟨by simp, List.isChain_nil⟩

theorem isMaximal_cons : IsMaximal isMark (token :: tokens) ↔
    token.IsMarkOrWord isMark ∧ (∀ next ∈ tokens.head?, ¬(token.isWord = true ∧ next.isWord = true)) ∧
      IsMaximal isMark tokens := by
  constructor
  · rintro ⟨known, apart⟩
    obtain ⟨here, others⟩ := List.forall_mem_cons.mp known
    obtain ⟨first, later⟩ := List.isChain_cons.mp apart
    exact ⟨here, first, others, later⟩
  · rintro ⟨here, first, others, later⟩
    exact ⟨List.forall_mem_cons.mpr ⟨here, others⟩, List.isChain_cons.mpr ⟨first, later⟩⟩

theorem IsMaximal.mark_cons (maximal : IsMaximal isMark tokens) (marked : isMark c = true) :
    IsMaximal isMark (mark c :: tokens) :=
  isMaximal_cons.mpr ⟨marked, fun _ _ both => Bool.false_ne_true both.1, maximal⟩

theorem IsMaximal.consWord (maximal : IsMaximal isMark tokens) (unmarked : isMark c = false) :
    IsMaximal isMark (consWord c tokens) := by
  have alone : IsMarkOrWord isMark (word [c]) := ⟨List.cons_ne_nil c [], by simp [unmarked]⟩
  cases tokens with
  | nil => exact isMaximal_cons.mpr ⟨alone, by simp, isMaximal_nil⟩
  | cons token rest =>
    cases token with
    | mark d => exact isMaximal_cons.mpr ⟨alone, by simp [isWord], maximal⟩
    | word cs =>
      -- The word at the head grows; its neighbour was no word before and is none now.
      obtain ⟨⟨_, plain⟩, first, others⟩ := isMaximal_cons.mp maximal
      have longer : IsMarkOrWord isMark (word (c :: cs)) :=
        ⟨List.cons_ne_nil c cs, List.forall_mem_cons.mpr ⟨unmarked, plain⟩⟩
      exact isMaximal_cons.mpr ⟨longer, first, others⟩

theorem isMaximal_split (isMark : Char → Bool) (s : List Char) : IsMaximal isMark (split isMark s) := by
  induction s with
  | nil => exact isMaximal_nil
  | cons c rest ih =>
    rw [split]
    split
    · rename_i marked
      exact ih.mark_cons marked
    · rename_i unmarked
      exact ih.consWord (eq_false_of_ne_true unmarked)

theorem isMark_of_mark_mem_split {s : List Char} (member : mark c ∈ split isMark s) : isMark c = true :=
  (isMaximal_split isMark s).known (mark c) member

theorem IsMaximal.endsWord (maximal : IsMaximal isMark tokens)
    (first : ∀ token ∈ tokens.head?, token.isWord = false) : EndsWord isMark (tokens.flatMap chars) := by
  cases tokens with
  | nil => exact .nil
  | cons token rest =>
    cases token with
    | mark c => exact .cons (isMaximal_cons.mp maximal).1 _
    | word cs => nomatch first (word cs) rfl

/-- Marks and words with no words next to each other are found again in the text they spell. -/
theorem IsMaximal.split_flatMap (maximal : IsMaximal isMark tokens) :
    split isMark (tokens.flatMap chars) = tokens := by
  induction tokens with
  | nil => rfl
  | cons token rest ih =>
    obtain ⟨known, apart, others⟩ := isMaximal_cons.mp maximal
    rw [List.flatMap_cons]
    cases token with
    | mark c => rw [chars, List.singleton_append, split_cons_of_mark known, ih others]
    | word cs =>
      obtain ⟨filled, unmarked⟩ := known
      have ends : EndsWord isMark (rest.flatMap chars) :=
        others.endsWord fun next first => eq_false_of_ne_true fun isWord => apart next first ⟨rfl, isWord⟩
      rw [chars, split_append cs ends, split_word filled unmarked, ih others, List.singleton_append]

/-- The tokens of a text are the one list of marks and words that spells it and has no two words next to each
other. -/
theorem split_eq_iff_isMaximal (isMark : Char → Bool) (s : List Char) (tokens : List Token) :
    split isMark s = tokens ↔ tokens.flatMap chars = s ∧ IsMaximal isMark tokens := by
  constructor
  · rintro rfl
    exact ⟨flatMap_chars_split isMark s, isMaximal_split isMark s⟩
  · rintro ⟨rfl, maximal⟩
    exact maximal.split_flatMap

/-- A text of two words with two blanks between them has four tokens. -/
example : split isSelectorMark ['p', ' ', ' ', 'b', 'q'] = [word ['p'], mark ' ', mark ' ', word ['b', 'q']] := by
  decide

end Token

end CosmeticRules
