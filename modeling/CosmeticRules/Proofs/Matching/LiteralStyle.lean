import CosmeticRules.Matching.StyleValue
import CosmeticRules.Proofs.Pattern.LiteralText
import CosmeticRules.Proofs.Text.Search

/-!
Values of style properties that are compared as they are written: without stars, carets, bars, backslashes and
addresses, and not in slashes. None of the steps that make a pattern of a value gives such a text another meaning.
-/

namespace CosmeticRules

open Text

/-- Without backslashes there is nothing to unescape. -/
theorem Text.unescape_of_fresh (escaped : List Char) {s : List Char} (fresh : '\\' ∉ s) : unescape escaped s = s := by
  induction s with
  | nil => rfl
  | cons c rest ih =>
    obtain ⟨other, fresh⟩ := not_or.mp (mt List.mem_cons.mpr fresh)
    rw [unescape, ih fresh]
    rintro d more rfl
    exact absurd rfl other

namespace Matching

theorem quoteEachUrl_of_absent {s : List Char} (absent : ¬urlStart <:+: s) : quoteEachUrl s = s := by
  induction s with
  | nil => rw [quoteEachUrl]
  | cons c rest ih =>
    have start : afterStart? urlStart (c :: rest) = none := by
      refine Option.eq_none_iff_forall_ne_some.mpr fun after found => absent ?_
      rw [afterStart?_eq_some_iff.mp found]
      exact (List.prefix_append urlStart after).isInfix
    rw [quoteEachUrl]
    split
    · rename_i found
      simp [start] at found
    · rw [ih fun inside => absent (List.infix_cons inside)]

/-- Whether a sign is given a backslash in a pattern. -/
def isEscaped (c : Char) : Bool := patternSigns.contains c && c != '*' && c != '^' && c != '|'

theorem escapeSigns_eq (s : List Char) : escapeSigns s = s.flatMap (Pattern.spell isEscaped) := rfl

theorem isMark_of_isEscaped {c : Char} (escaped : isEscaped c = true) : Pattern.IsMark c := by
  have marks : ∀ d ∈ patternSigns, Pattern.IsMark d := by decide
  exact marks c (by simp_all [isEscaped])

/-- A value that is compared as it is written: no sign in it is special, it has no address to put quotes around, and it
is no pattern in slashes. -/
structure IsLiteral (value : List Char) : Prop where
  unmarked : ∀ c ∈ value, c ∉ ['*', '^', '|', '\\']
  addressless : ¬urlStart <:+: value
  bare : ¬(2 ≤ value.length ∧ isSlashed value = true)

namespace IsLiteral

variable {value : List Char}

theorem not_infix_escapeSigns (literal : IsLiteral value) : ¬['*'] <:+: escapeSigns value := by
  intro inside
  obtain ⟨c, member, among⟩ := List.mem_flatMap.mp (inside.subset (List.mem_singleton_self '*'))
  have star : c = '*' := by
    split at among
    · simpa [eq_comm] using among
    · simpa [eq_comm] using among
  exact literal.unmarked c member (by simp [star])

/-- Nothing is done to a literal value but escaping its signs. -/
theorem stylePatternText (literal : IsLiteral value) :
    stylePatternText value = value.flatMap (Pattern.spell isEscaped) := by
  have bare : (decide (value.length ≥ 2) && isSlashed value) = false := by simpa using literal.bare
  have quoted : quoteUrls value = value := by rw [quoteUrls, quoteEachUrl_of_absent literal.addressless, ite_self]
  have fresh : '\\' ∉ value := fun member => literal.unmarked _ member (by decide)
  rw [Matching.stylePatternText, bare, if_neg Bool.false_ne_true, quoted, unescape_of_fresh _ fresh,
    replaceAll_of_absent _ literal.not_infix_escapeSigns, escapeSigns_eq]

theorem stylePattern (literal : IsLiteral value) :
    stylePattern value = if Pattern.Plain.sizeLimit < (Pattern.Plain.folded value).size then .error .tooLarge
      else .ok (.plain (Pattern.Plain.folded value)) := by
  have kept : ∀ d ∈ Pattern.Extended.signs, d ∈ ['*', '^', '|', '\\'] ∨ isEscaped d = true := by decide
  rw [Matching.stylePattern, literal.stylePatternText]
  exact Pattern.read_spell rfl rfl (fun c _ => isMark_of_isEscaped)
    fun c member sign => (kept c sign).resolve_left (literal.unmarked c member)

end IsLiteral

end Matching

end CosmeticRules
