import CosmeticRules.Text.Search
import Mathlib.Data.List.Infix

/-!
Finding and replacing texts: a text in which the needle does not occur stays as it is, and what comes before
the first occurrence is kept.
-/

namespace CosmeticRules.Text

theorem occursIn_iff {needle s : List Char} : occursIn needle s = true ↔ needle <:+: s := by
  induction s with
  | nil => simp [occursIn]
  | cons c rest ih => rw [occursIn, Bool.or_eq_true, ih, List.isPrefixOf_iff_prefix, List.infix_cons_iff]

/-- What stands at the start of two texts in a row ends in the first, or goes on in the second. -/
theorem prefix_append_cases {needle s t : List Char} (start : needle <+: s ++ t) :
    needle <+: s ∨ ∃ c more, needle = s ++ c :: more ∧ c :: more <+: t := by
  obtain within | ⟨more, rfl⟩ := List.prefix_or_prefix_of_prefix start (List.prefix_append s t)
  · exact .inl within
  · cases more with
    | nil => exact .inl (by simp)
    | cons c more => exact .inr ⟨c, more, rfl, (List.prefix_append_right_inj s).mp start⟩

section replaceAll

variable {needle : List Char} (replacement : List Char)

/-- A text at no place of which an occurrence begins is kept. -/
theorem replaceAll_append {s t : List Char}
    (earlier : ∀ before after, s = before ++ after → after ≠ [] → ¬needle <+: after ++ t) :
    replaceAll needle replacement (s ++ t) = s ++ replaceAll needle replacement t := by
  induction s with
  | nil => rfl
  | cons c rest ih =>
    have here : ¬needle.isPrefixOf (c :: (rest ++ t)) = true :=
      List.isPrefixOf_iff_prefix.not.mpr (earlier [] (c :: rest) rfl (List.cons_ne_nil c rest))
    have later := ih fun before after split => earlier (c :: before) after (by rw [split]; rfl)
    rw [List.cons_append, replaceAll, replaceFrom, if_neg here]
    exact congrArg (c :: ·) later

theorem replaceAll_of_absent {s : List Char} (absent : ¬needle <:+: s) :
    replaceAll needle replacement s = s := by
  have kept : replaceAll needle replacement (s ++ []) = s ++ replaceAll needle replacement [] := by
    refine replaceAll_append replacement ?_
    rintro before after rfl _ start
    rw [List.append_nil] at start
    exact absent (start.isInfix.trans (List.suffix_append before after).isInfix)
  have nothing : replaceAll needle replacement [] = [] := rfl
  rwa [nothing, List.append_nil] at kept

theorem replaceFrom_length (s t : List Char) :
    replaceFrom needle replacement s.length (s ++ t) = replaceFrom needle replacement 0 t := by
  induction s with
  | nil => rfl
  | cons c rest ih => exact ih

theorem replaceAll_needle_append (filled : needle ≠ []) (t : List Char) :
    replaceAll needle replacement (needle ++ t) = replacement ++ replaceAll needle replacement t := by
  obtain ⟨c, rest, rfl⟩ := List.exists_cons_of_ne_nil filled
  have here : (c :: rest).isPrefixOf (c :: (rest ++ t)) = true :=
    List.isPrefixOf_iff_prefix.mpr (List.prefix_append (c :: rest) t)
  rw [List.cons_append, replaceAll, replaceFrom, if_pos here]
  exact congrArg (replacement ++ ·) (replaceFrom_length replacement rest t)

/-- A text in which no occurrence can begin is kept. -/
theorem replaceAll_append_of_head (filled : needle ≠ []) {s : List Char}
    (apart : ∀ c ∈ s, needle.head? ≠ some c) (t : List Char) :
    replaceAll needle replacement (s ++ t) = s ++ replaceAll needle replacement t := by
  refine replaceAll_append replacement ?_
  rintro before after rfl some start
  obtain ⟨d, more, rfl⟩ := List.exists_cons_of_ne_nil filled
  obtain ⟨c, rest, rfl⟩ := List.exists_cons_of_ne_nil some
  obtain rfl : d = c := (List.cons_prefix_cons.mp start).1
  exact apart d (by simp) rfl

/-- Two texts in a row are replaced separately, where no occurrence that begins in the first reaches into the
second. -/
theorem replaceFrom_append (filled : needle ≠ []) {s t : List Char}
    (apart : ∀ before after, s = before ++ after → after ≠ [] → needle <+: after ++ t → needle <+: after)
    {pending : Nat} (within : pending ≤ s.length) :
    replaceFrom needle replacement pending (s ++ t) =
      replaceFrom needle replacement pending s ++ replaceAll needle replacement t := by
  induction s generalizing pending with
  | nil =>
    obtain rfl := Nat.le_zero.mp within
    rfl
  | cons c rest ih =>
    have later {pending : Nat} (within : pending ≤ rest.length) :=
      ih (fun before after split => apart (c :: before) after (by rw [split]; rfl)) within
    cases pending with
    | succ pending => exact later (Nat.le_of_succ_le_succ within)
    | zero =>
      have here : needle.isPrefixOf (c :: (rest ++ t)) = needle.isPrefixOf (c :: rest) := by
        rw [Bool.eq_iff_iff, List.isPrefixOf_iff_prefix, List.isPrefixOf_iff_prefix]
        exact ⟨apart [] (c :: rest) rfl (List.cons_ne_nil c rest),
          fun start => start.trans (List.prefix_append _ t)⟩
      rw [List.cons_append, replaceFrom, replaceFrom, here]
      split
      · rename_i start
        have shorter := (List.isPrefixOf_iff_prefix.mp start).length_le
        have positive := List.length_pos_iff.mpr filled
        rw [later (by simp only [List.length_cons] at shorter; omega), List.append_assoc]
      · rw [later (Nat.zero_le _), List.cons_append]

end replaceAll

/-- A text without a character is inside what stands before the character or inside what stands after it. -/
theorem infix_of_infix_append_cons {needle : List Char} {c : Char} (other : c ∉ needle) {s t : List Char}
    (inside : needle <:+: s ++ c :: t) : needle <:+: s ∨ needle <:+: t := by
  induction s with
  | nil =>
    rcases List.infix_cons_iff.mp inside with start | later
    · cases needle with
      | nil => exact .inr List.nil_infix
      | cons d rest => exact absurd (List.mem_cons.mpr (.inl (List.cons_prefix_cons.mp start).1.symm)) other
    · exact .inr later
  | cons d s ih =>
    rcases List.infix_cons_iff.mp inside with start | later
    · obtain within | ⟨e, more, rfl, reaches⟩ := prefix_append_cases (s := d :: s) start
      · exact .inl within.isInfix
      · obtain rfl := (List.cons_prefix_cons.mp reaches).1
        exact absurd (by simp) other
    · exact (ih later).imp List.infix_cons id

/-! Replacing removes a needle for good, where nothing around a replacement makes it occur again. -/

/-- A text contains no occurrence of the needle, or it can be split at the first one. -/
theorem absent_or_first (needle s : List Char) :
    ¬needle <:+: s ∨ ∃ before after, s = before ++ (needle ++ after) ∧
      ∀ front back, before = front ++ back → back ≠ [] → ¬needle <+: back ++ (needle ++ after) := by
  induction s with
  | nil =>
    by_cases empty : needle = []
    · exact .inr ⟨[], [], by simp [empty], by simp⟩
    · exact .inl (by simpa using empty)
  | cons c rest ih =>
    by_cases here : needle <+: c :: rest
    · obtain ⟨after, split⟩ := here
      exact .inr ⟨[], after, split.symm, by simp⟩
    · rcases ih with absent | ⟨before, after, rfl, earlier⟩
      · exact .inl fun inside => (List.infix_cons_iff.mp inside).elim here absent
      · refine .inr ⟨c :: before, after, rfl, fun front back split filled => ?_⟩
        cases front with
        | nil =>
          obtain rfl : c :: before = back := split
          exact here
        | cons d front => exact earlier front back (List.cons.inj split).2 filled

/-- No occurrence of the needle shares a character with the replacement, whatever stands before and after it. -/
def Apart (needle replacement : List Char) : Prop :=
  (∀ back ∈ needle.tails.tail, back ≠ [] → ¬back <+: replacement ∧ ¬replacement <+: back) ∧
    ∀ back ∈ replacement.tails, back ≠ [] → ¬needle <+: back ∧ ¬back <+: needle

instance (needle replacement : List Char) : Decidable (Apart needle replacement) :=
  inferInstanceAs (Decidable (_ ∧ _))

theorem mem_tails_tail {front back : List Char} (filled : front ≠ []) : back ∈ (front ++ back).tails.tail := by
  obtain ⟨c, rest, rfl⟩ := List.exists_cons_of_ne_nil filled
  simp [List.mem_tails]

theorem infix_of_infix_append {needle s t : List Char}
    (within : ∀ back ∈ s.tails, back ≠ [] → ¬needle <+: back ∧ ¬back <+: needle) (inside : needle <:+: s ++ t) :
    needle <:+: t := by
  induction s with
  | nil => exact inside
  | cons c rest ih =>
    rcases List.infix_cons_iff.mp inside with start | later
    · obtain ⟨shorter, longer⟩ := within (c :: rest) (by simp) (List.cons_ne_nil c rest)
      rcases List.prefix_or_prefix_of_prefix start (List.prefix_append (c :: rest) t) with inner | outer
      · exact absurd inner shorter
      · exact absurd outer longer
    · exact ih (fun back member => within back (List.mem_cons_of_mem _ member)) later

theorem Apart.infix {needle replacement s t : List Char} (apart : Apart needle replacement)
    (inside : needle <:+: s ++ (replacement ++ t)) : needle <:+: s ∨ needle <:+: t := by
  induction s with
  | nil => exact .inr (infix_of_infix_append apart.2 inside)
  | cons c rest ih =>
    rcases List.infix_cons_iff.mp inside with start | later
    · obtain here | ⟨d, more, same, reaches⟩ := prefix_append_cases (s := c :: rest) start
      · exact .inl here.isInfix
      · have member : d :: more ∈ needle.tails.tail := same ▸ mem_tails_tail (List.cons_ne_nil c rest)
        obtain ⟨shorter, longer⟩ := apart.1 _ member (List.cons_ne_nil d more)
        rcases List.prefix_or_prefix_of_prefix reaches (List.prefix_append replacement t) with inner | outer
        · exact absurd inner shorter
        · exact absurd outer longer
    · exact (ih later).imp_left List.infix_cons

section respelled

variable {needle replacement : List Char} (filled : needle ≠ [])

include filled

/-- A text stays as it is, or what stands before its first needle stays, and the rest is replaced. -/
theorem replaceAll_cases (replacement s : List Char) :
    ¬needle <:+: s ∧ replaceAll needle replacement s = s ∨
      ∃ before after, s = before ++ (needle ++ after) ∧ ¬needle <:+: before ∧ after.length < s.length ∧
        replaceAll needle replacement s = before ++ (replacement ++ replaceAll needle replacement after) := by
  rcases absent_or_first needle s with absent | ⟨before, after, rfl, earlier⟩
  · exact .inl ⟨absent, replaceAll_of_absent replacement absent⟩
  · refine .inr ⟨before, after, rfl, ?_, ?_, ?_⟩
    · rintro ⟨front, back, split⟩
      refine earlier front (needle ++ back) (by rw [← List.append_assoc, split]) (by simp [filled]) ?_
      rw [List.append_assoc]
      exact List.prefix_append needle _
    · have positive := List.length_pos_iff.mpr filled
      simp only [List.length_append]
      omega
    · rw [replaceAll_append replacement earlier, replaceAll_needle_append replacement filled]

/-- What is apart from the replacement does not come in with it. -/
theorem not_infix_replaceAll {other : List Char} (apart : Apart other replacement) {s : List Char}
    (absent : ¬other <:+: s) : ¬other <:+: replaceAll needle replacement s := by
  rcases replaceAll_cases filled replacement s with ⟨_, same⟩ | ⟨before, after, rfl, _, shorter, same⟩
  · rwa [same]
  · rw [same]
    intro inside
    rcases apart.infix inside with early | late
    · exact absent (early.trans (List.prefix_append before _).isInfix)
    · refine not_infix_replaceAll apart (fun inside => absent ?_) late
      exact inside.trans ((List.suffix_append needle after).trans (List.suffix_append before _)).isInfix
termination_by s.length

/-- After replacing, no needle is left that could be replaced. -/
theorem needle_not_infix_replaceAll (apart : Apart needle replacement) (s : List Char) :
    ¬needle <:+: replaceAll needle replacement s := by
  rcases replaceAll_cases filled replacement s with ⟨absent, same⟩ | ⟨before, after, rfl, first, shorter, same⟩
  · rwa [same]
  · rw [same]
    intro inside
    rcases apart.infix inside with early | late
    · exact first early
    · exact needle_not_infix_replaceAll apart after late
termination_by s.length

theorem head?_replaceAll (some : replacement ≠ []) {s : List Char} {c : Char}
    (head : (replaceAll needle replacement s).head? = .some c) : s.head? = .some c ∨ replacement.head? = .some c := by
  rcases replaceAll_cases filled replacement s with ⟨_, same⟩ | ⟨before, after, rfl, _, _, same⟩
  · exact .inl (same ▸ head)
  · rw [same] at head
    cases before with
    | nil => exact .inr (by rwa [List.nil_append, List.head?_append_of_ne_nil _ some] at head)
    | cons d before => exact .inl head

theorem getLast?_replaceAll (some : replacement ≠ []) {s : List Char} {c : Char}
    (last : (replaceAll needle replacement s).getLast? = .some c) :
    s.getLast? = .some c ∨ replacement.getLast? = .some c := by
  rcases replaceAll_cases filled replacement s with ⟨_, same⟩ | ⟨before, after, rfl, _, shorter, same⟩
  · exact .inl (same ▸ last)
  · rw [same, List.getLast?_append_of_ne_nil _ (by simp [some])] at last
    by_cases nothing : replaceAll needle replacement after = []
    · exact .inr (by rwa [nothing, List.append_nil] at last)
    · rw [List.getLast?_append_of_ne_nil _ nothing] at last
      refine (getLast?_replaceAll some last).imp_left fun ends => ?_
      have rest : after ≠ [] := by
        rintro rfl
        cases ends
      rw [List.getLast?_append_of_ne_nil _ (by simp [rest]), List.getLast?_append_of_ne_nil _ rest, ends]
termination_by s.length

end respelled

end CosmeticRules.Text
