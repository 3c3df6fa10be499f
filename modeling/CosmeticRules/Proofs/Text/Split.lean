import CosmeticRules.Text.Blank
import CosmeticRules.Text.Search

/-!
Splitting a text at the first place where something stands: text after that place does not move it.
-/

namespace CosmeticRules.Text

theorem splitFirst?_append {mark : Char} {before : List Char} (fresh : mark ∉ before) (after : List Char) :
    splitFirst? mark (before ++ mark :: after) = some (before, after) := by
  induction before with
  | nil => simp [splitFirst?]
  | cons c rest ih =>
    obtain ⟨other, fresh⟩ := not_or.mp (mt List.mem_cons.mpr fresh)
    simp [splitFirst?, Ne.symm other, ih fresh]

theorem splitFirst?_eq_none {mark : Char} {s : List Char} (fresh : mark ∉ s) : splitFirst? mark s = none := by
  induction s with
  | nil => rfl
  | cons c rest ih =>
    obtain ⟨other, fresh⟩ := not_or.mp (mt List.mem_cons.mpr fresh)
    simp [splitFirst?, Ne.symm other, ih fresh]

theorem splitFirst?_more {mark : Char} {s before after : List Char}
    (split : splitFirst? mark s = some (before, after)) (t : List Char) :
    splitFirst? mark (s ++ t) = some (before, after ++ t) := by
  obtain ⟨rfl, fresh⟩ := eq_append_of_splitFirst? split
  rw [List.append_assoc, List.cons_append, splitFirst?_append fresh]

theorem splitWhere?_append {p : Char → Bool} {before : List Char} {c : Char} (holds : p c = true)
    (fresh : ∀ d ∈ before, p d = false) (after : List Char) :
    splitWhere? p (before ++ c :: after) = some (before, c, after) := by
  induction before with
  | nil => simp [splitWhere?, holds]
  | cons d rest ih =>
    obtain ⟨other, fresh⟩ := List.forall_mem_cons.mp fresh
    simp [splitWhere?, other, ih fresh]

theorem splitWhere?_more {p : Char → Bool} {s before after : List Char} {c : Char}
    (split : splitWhere? p s = some (before, c, after)) (t : List Char) :
    splitWhere? p (s ++ t) = some (before, c, after ++ t) := by
  obtain ⟨rfl, holds, fresh⟩ := eq_append_of_splitWhere? split
  rw [List.append_assoc, List.cons_append, splitWhere?_append holds fresh]

theorem eq_append_of_splitAround? {needle s before after : List Char}
    (split : splitAround? needle s = some (before, after)) : s = before ++ needle ++ after := by
  induction s generalizing before with
  | nil =>
    unfold splitAround? at split
    split at split
    · rename_i empty
      obtain ⟨rfl, rfl⟩ := Prod.mk.inj (Option.some.inj split)
      simpa using empty
    · simp at split
  | cons c rest ih =>
    unfold splitAround? at split
    split at split
    · rename_i start
      obtain ⟨rfl, rfl⟩ := Prod.mk.inj (Option.some.inj split)
      exact afterStart?_eq_some_iff.mp start
    · obtain ⟨⟨first, last⟩, found, pair⟩ := Option.map_eq_some_iff.mp split
      obtain ⟨rfl, rfl⟩ := Prod.mk.inj pair
      rw [ih found]
      rfl

theorem length_le_flatMap {α β : Type} {f : α → List β} (filled : ∀ a, f a ≠ []) (items : List α) :
    items.length ≤ (items.flatMap f).length := by
  induction items with
  | nil => exact Nat.le_refl 0
  | cons item others ih =>
    have some := List.length_pos_iff.mpr (filled item)
    rw [List.flatMap_cons, List.length_append, List.length_cons]
    omega

/-- A run of characters that pass a test ends before the first that does not. -/
theorem takeWhile_append_cons {p : Char → Bool} {s : List Char} {c : Char} (all : ∀ d ∈ s, p d = true)
    (stop : p c = false) (t : List Char) :
    (s ++ c :: t).takeWhile p = s ∧ (s ++ c :: t).dropWhile p = c :: t := by
  rw [List.takeWhile_append_of_pos all, List.dropWhile_append_of_pos all,
    List.takeWhile_cons_of_neg (by simp [stop]), List.dropWhile_cons_of_neg (by simp [stop]), List.append_nil]
  exact ⟨rfl, rfl⟩

/-- A text is split around a needle behind its first part, if no occurrence begins in that part. -/
theorem splitAround?_append {needle s : List Char} (filled : needle ≠ [])
    (earlier : ∀ before after, s = before ++ after → after ≠ [] → ¬needle <+: after ++ needle) (t : List Char) :
    splitAround? needle (s ++ (needle ++ t)) = some (s, t) := by
  induction s with
  | nil =>
    obtain ⟨d, more, rfl⟩ := List.exists_cons_of_ne_nil filled
    have found : afterStart? (d :: more) (d :: (more ++ t)) = some t := afterStart?_eq_some_iff.mpr rfl
    rw [List.nil_append, List.cons_append, splitAround?, found]
  | cons c rest ih =>
    have none : afterStart? needle (c :: (rest ++ (needle ++ t))) = none := by
      refine Option.eq_none_iff_forall_ne_some.mpr fun after found => ?_
      have start : needle <+: (c :: rest ++ needle) ++ t :=
        ⟨after, (afterStart?_eq_some_iff.mp found).symm.trans (by simp)⟩
      have within : needle.length ≤ (c :: rest ++ needle).length := by
        rw [List.length_append]
        exact Nat.le_add_left _ _
      exact earlier [] (c :: rest) rfl (List.cons_ne_nil c rest)
        (List.prefix_of_prefix_length_le start (List.prefix_append _ t) within)
    have later := ih fun before after split => earlier (c :: before) after (by rw [split]; rfl)
    rw [List.cons_append, splitAround?, none]
    simp only [later, Option.map_some]

end CosmeticRules.Text
