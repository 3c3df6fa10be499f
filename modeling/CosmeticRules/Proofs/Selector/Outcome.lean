import CosmeticRules.Log
import CosmeticRules.Selector.Reader
import CosmeticRules.Proofs.Text.Trim

/-!
Two texts that differ in blanks around them only are the same selector: they are read in the same way, and only
what is said of a fault quotes the text.
-/

namespace CosmeticRules

open Text

theorem toOption_eq_some_iff {ε α : Type} {x : Except ε α} {a : α} : x.toOption = some a ↔ x = .ok a := by
  cases x with
  | error e => simp [Except.toOption]
  | ok b => simp [Except.toOption]

/-- Two runs with the same outcome, whatever they say when they fail. -/
def Alike {ε α : Type} (x y : Except ε α) : Prop := x.toOption = y.toOption

namespace Alike

variable {ε α β : Type} {x y : Except ε α} {f g : α → Except ε β}

@[refl] theorem refl (x : Except ε α) : Alike x x := rfl

theorem error (e e' : ε) : Alike (.error e : Except ε α) (.error e') := rfl

theorem bind (first : Alike x y) (next : ∀ a, Alike (f a) (g a)) : Alike (x >>= f) (y >>= g) := by
  cases x <;> cases y
  · rfl
  · cases first
  · cases first
  · obtain rfl := Option.some.inj first
    exact next _

theorem of_ok {a : α} (alike : Alike x y) (ok : x = .ok a) : y = .ok a := by
  subst ok
  cases y with
  | error e => cases alike
  | ok b => exact congrArg _ (Option.some.inj alike).symm

end Alike

namespace SelectorReader

variable (s t : String) (token : Token) (around : Surroundings) (d : Draft)

theorem alike_readWord : Alike (readWord s token around d) (readWord t token around d) := by
  unfold readWord
  split <;> try rfl
  split <;> rfl

theorem alike_readComma : Alike (readComma s around d) (readComma t around d) := by
  unfold readComma
  split
  · rfl
  · split <;> rfl

theorem alike_readSpace : Alike (readSpace s around d) (readSpace t around d) := by
  unfold readSpace
  simp only []
  split <;> refine Alike.bind rfl fun d => ?_
  all_goals
    split <;> try rfl
    split <;> try rfl
    split <;> rfl

theorem alike_readMark (c : Char) : Alike (readMark s c around d) (readMark t c around d) := by
  unfold readMark
  simp only []
  split <;> try split
  · rfl
  all_goals
    refine Alike.bind rfl fun d => ?_
    split <;> try rfl
    split <;> rfl

theorem alike_readClosingBracket : Alike (readClosingBracket s around d) (readClosingBracket t around d) := by
  unfold readClosingBracket
  split <;> try rfl
  split <;> rfl

theorem alike_readPseudo : Alike (readPseudo s around d) (readPseudo t around d) := by
  unfold readPseudo
  split <;> try rfl
  split <;> try rfl
  split <;> rfl

theorem alike_readColon : Alike (readColon s around d) (readColon t around d) := by
  have pseudo (d : Draft) : Alike (readPseudo s around d) (readPseudo t around d) := alike_readPseudo s t around d
  unfold readColon
  split
  · rfl
  · refine Alike.bind rfl fun d => ?_
    split
    · simp only []
      split <;> exact Alike.bind rfl pseudo
    · split
      · rfl
      · split
        · rfl
        · split
          · rfl
          · exact Alike.bind rfl pseudo
    · split <;> rfl
    · split <;> rfl
    · rfl

theorem alike_readToken : Alike (readToken s token around d) (readToken t token around d) := by
  rw [readToken.eq_def, readToken.eq_def t]
  split
  · exact alike_readWord s t _ around d
  · exact alike_readComma s t around d
  · exact alike_readSpace s t around d
  · exact alike_readClosingBracket s t around d
  · exact alike_readColon s t around d
  · rfl
  · rfl
  · split <;> rfl
  · rfl
  · rfl
  · rfl
  · exact alike_readMark s t around d _

theorem alike_readTokens (beforeLast last : Option Token) (tokens : List Token) :
    Alike (readTokens s beforeLast last tokens d) (readTokens t beforeLast last tokens d) := by
  induction tokens generalizing beforeLast last d with
  | nil => rfl
  | cons token rest ih => exact Alike.bind (alike_readToken s t token _ d) fun d => ih d last (some token)

theorem alike_finish : Alike (finish s d) (finish t d) := by
  unfold finish
  split
  · rfl
  · split
    · rfl
    · split <;> rfl

/-- Blanks around a selector do not count. -/
theorem tokens_congr {s t : String} (same : trim s.toList = trim t.toList) : tokens s = tokens t := by
  rw [tokens, tokens, LegacyForm.normalize, LegacyForm.normalize, same]

theorem alike_draft {s t : String} (same : tokens s = tokens t) : Alike (draft s) (draft t) := by
  rw [draft, draft, same]
  exact Alike.bind rfl fun tokens => alike_readTokens s t {} none none tokens

end SelectorReader

/-- Two texts with the same tokens are read alike. -/
theorem SelectorTree.alike_parse_of_tokens {s t : String} (same : SelectorReader.tokens s = SelectorReader.tokens t) :
    Alike (parse s) (parse t) := by
  refine Alike.bind ?_ fun unfolded => rfl
  exact Alike.bind (SelectorReader.alike_draft same) fun d =>
    Alike.bind (SelectorReader.alike_finish s t d) fun tree => rfl

theorem SelectorTree.alike_parse {s t : String} (same : trim s.toList = trim t.toList) :
    Alike (parse s) (parse t) :=
  alike_parse_of_tokens (SelectorReader.tokens_congr same)

theorem SelectorTree.parse_trimText {s : String} {tree : SelectorTree} (read : parse s = .ok tree) :
    parse (trimText s) = .ok tree := by
  refine (alike_parse ?_).of_ok read
  rw [trimText, String.toList_ofList, trim_trim]

end CosmeticRules
