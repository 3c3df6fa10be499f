import CosmeticRules.Css.Reader
import CosmeticRules.Log
import Mathlib.Data.List.Basic

/-!
What a reader uses of a text: it stops at the end of a part of the text that does not end in an escape. So what has
been read to its end can be followed by a blank, which is not escaped.
-/

namespace CosmeticRules.Css

open Text

theorem exists_of_map_eq_ok {ε α β : Type} {x : Except ε α} {f : α → β} {b : β} (same : x.map f = .ok b) :
    ∃ a, x = .ok a ∧ f a = b := by
  cases x with
  | error e => simp [Except.map] at same
  | ok a => exact ⟨a, rfl, Except.ok.inj same⟩

/-- Whether a text ends in an escape, if it begins in one or outside. -/
def endsEscaped : Bool → List Char → Bool
  | escaped, [] => escaped
  | escaped, c :: rest => endsEscaped (!escaped && c == '\\') rest

theorem endsEscaped_append (escaped : Bool) (s t : List Char) :
    endsEscaped escaped (s ++ t) = endsEscaped (endsEscaped escaped s) t := by
  induction s generalizing escaped with
  | nil => rfl
  | cons c rest ih => exact ih _

/-- What is left of a text after a part that does not end in an escape. -/
def Leaves (s rest : List Char) : Prop := ∃ used, s = used ++ rest ∧ endsEscaped false used = false

namespace Leaves

variable {s t rest : List Char} {c : Char}

theorem refl (s : List Char) : Leaves s s := ⟨[], rfl, rfl⟩

theorem trans (first : Leaves s t) (second : Leaves t rest) : Leaves s rest := by
  obtain ⟨used, rfl, here⟩ := first
  obtain ⟨more, rfl, there⟩ := second
  exact ⟨used ++ more, (List.append_assoc ..).symm, by rw [endsEscaped_append, here, there]⟩

theorem cons (other : c ≠ '\\') (later : Leaves s rest) : Leaves (c :: s) rest :=
  trans ⟨[c], rfl, beq_eq_false_iff_ne.mpr other⟩ later

theorem escape (later : Leaves s rest) : Leaves ('\\' :: c :: s) rest :=
  trans ⟨['\\', c], rfl, rfl⟩ later

theorem length_le (leaves : Leaves s rest) : rest.length ≤ s.length := by
  obtain ⟨used, rfl, _⟩ := leaves
  rw [List.length_append]
  omega

theorem endsEscaped_eq (leaves : Leaves s []) : endsEscaped false s = false := by
  obtain ⟨used, rfl, ends⟩ := leaves
  rwa [List.append_nil]

theorem dropWhile {p : Char → Bool} (other : p '\\' = false) (s : List Char) : Leaves s (s.dropWhile p) := by
  induction s with
  | nil => exact refl []
  | cons c rest ih =>
    rw [List.dropWhile_cons]
    split
    · rename_i dropped
      refine cons ?_ ih
      rintro rfl
      exact Bool.false_ne_true (other.symm.trans dropped)
    · exact refl _

end Leaves

variable {s name rest : List Char}

/-! Names and tests. -/

theorem leaves_nameFrom (found : nameFrom s = some (name, rest)) : Leaves s rest := by
  fun_induction nameFrom s generalizing name rest with
  | case1 =>
    obtain ⟨_, rfl⟩ := Prod.mk.inj (Option.some.inj found)
    exact .refl []
  | case2 c after ih =>
    obtain ⟨⟨_, _⟩, later, pair⟩ := Option.map_eq_some_iff.mp found
    obtain ⟨_, rfl⟩ := Prod.mk.inj pair
    exact .escape (ih later)
  | case3 => simp at found
  | case4 c after _ other _ ih =>
    obtain ⟨⟨_, _⟩, later, pair⟩ := Option.map_eq_some_iff.mp found
    obtain ⟨_, rfl⟩ := Prod.mk.inj pair
    exact .cons other (ih later)
  | case5 =>
    obtain ⟨_, rfl⟩ := Prod.mk.inj (Option.some.inj found)
    exact .refl _

theorem leaves_name? (found : name? s = some (name, rest)) : Leaves s rest := by
  unfold name? at found
  split at found
  · rename_i c more after from'
    split at found
    · simp at found
    · obtain ⟨_, rfl⟩ := Prod.mk.inj (Option.some.inj found)
      exact leaves_nameFrom from'
  · simp at found

theorem leaves_valueFrom {quote : Option Char} {value : List Char} (found : valueFrom quote s = some (value, rest)) :
    Leaves s rest := by
  fun_induction valueFrom quote s generalizing value rest with
  | case1 => simp at found
  | case2 c after ih =>
    obtain ⟨⟨_, _⟩, later, pair⟩ := Option.map_eq_some_iff.mp found
    obtain ⟨_, rfl⟩ := Prod.mk.inj pair
    exact .escape (ih later)
  | case3 => simp at found
  | case4 c after _ other =>
    obtain ⟨_, rfl⟩ := Prod.mk.inj (Option.some.inj found)
    exact .cons other (.refl _)
  | case5 =>
    obtain ⟨_, rfl⟩ := Prod.mk.inj (Option.some.inj found)
    exact .refl _
  | case6 c after _ other _ _ ih =>
    obtain ⟨⟨_, _⟩, later, pair⟩ := Option.map_eq_some_iff.mp found
    obtain ⟨_, rfl⟩ := Prod.mk.inj pair
    exact .cons other (ih later)

theorem leaves_value? {value : List Char} (found : value? s = some (value, rest)) : Leaves s rest := by
  unfold value? at found
  split at found
  · simp at found
  · rename_i c after
    split at found
    · rename_i quote
      have other : c ≠ '\\' := by rcases quote with rfl | rfl <;> decide
      exact .cons other (leaves_valueFrom found)
    · split at found
      · rename_i from'
        split at found
        · simp at found
        · obtain ⟨_, rfl⟩ := Prod.mk.inj (Option.some.inj found)
          exact leaves_valueFrom from'
      · simp at found

theorem leaves_operator? {operator : AttributeOperator} (found : operator? s = some (operator, rest)) :
    Leaves s rest := by
  unfold operator? at found
  split at found
  all_goals first
    | (obtain ⟨_, rfl⟩ := Prod.mk.inj (Option.some.inj found); exact .cons (by decide) (.refl _))
    | (obtain ⟨_, rfl⟩ := Prod.mk.inj (Option.some.inj found); exact .cons (by decide) (.cons (by decide) (.refl _)))
    | simp at found

theorem leaves_caseFlag (s : List Char) : Leaves s (caseFlag s).2 := by
  unfold caseFlag
  split
  · rename_i c after
    split
    · rename_i flag
      exact .cons (by rcases flag with rfl | rfl <;> decide) (.refl _)
    · split
      · rename_i flag
        exact .cons (by rcases flag with rfl | rfl <;> decide) (.refl _)
      · exact .refl _
  · exact .refl _

theorem leaves_skipBlanks (s : List Char) : Leaves s (skipBlanks s) := .dropWhile (by decide) s

theorem leaves_comparison? {key : String} {test : AttributeTest} (found : comparison? key s = some (test, rest)) :
    Leaves s rest := by
  unfold comparison? at found
  split at found
  · simp at found
  · rename_i operator after op
    split at found
    · simp at found
    · rename_i value following read
      split at found
      · rename_i ends
        obtain ⟨_, rfl⟩ := Prod.mk.inj (Option.some.inj found)
        have flagged := (leaves_skipBlanks following).trans ((leaves_caseFlag _).trans (leaves_skipBlanks _))
        rw [ends] at flagged
        have closed := flagged.trans (.cons (by decide) (.refl _))
        exact (leaves_operator? op).trans ((leaves_skipBlanks _).trans ((leaves_value? read).trans closed))
      · simp at found

theorem leaves_attributeTest? {test : AttributeTest} (found : attributeTest? s = some (test, rest)) :
    Leaves s rest := by
  unfold attributeTest? at found
  simp only [] at found
  split at found
  · simp at found
  · have key : Leaves s (skipBlanks ((skipBlanks s).dropWhile isKeyChar)) :=
      (leaves_skipBlanks s).trans ((Leaves.dropWhile (by decide) _).trans (leaves_skipBlanks _))
    split at found
    · rename_i ends
      obtain ⟨_, rfl⟩ := Prod.mk.inj (Option.some.inj found)
      rw [ends] at key
      exact key.trans (.cons (by decide) (.refl _))
    · exact key.trans (leaves_comparison? found)

/-! Arguments. -/

/-- The argument, the parenthesis that closes it and the text after it. -/
theorem split_argumentFrom {a : Nesting} {body : List Char} (found : argumentFrom a s = some (body, rest)) :
    s = body ++ ')' :: rest ∧ endsEscaped a.escaped (body ++ [')']) = false := by
  induction s generalizing a body with
  | nil => simp [argumentFrom] at found
  | cons c after ih =>
    have kept {b : Nesting} (step : b.escaped = (!a.escaped && c == '\\'))
        (found : (argumentFrom b after).map (Prod.map (c :: ·) id) = some (body, rest)) :
        c :: after = body ++ ')' :: rest ∧ endsEscaped a.escaped (body ++ [')']) = false := by
      obtain ⟨⟨_, _⟩, inner, pair⟩ := Option.map_eq_some_iff.mp found
      obtain ⟨rfl, rfl⟩ := Prod.mk.inj pair
      obtain ⟨same, ends⟩ := ih inner
      refine ⟨congrArg (c :: ·) same, ?_⟩
      rw [List.cons_append, endsEscaped, ← step, ends]
    unfold argumentFrom at found
    simp only [] at found
    split at found
    · rename_i escaped
      exact kept (by simp [escaped]) found
    · rename_i free
      have free : a.escaped = false := Bool.eq_false_iff.mpr free
      split at found
      · rename_i escape
        exact kept (by simp [free, escape]) found
      · rename_i other
        have stays : a.escaped = (!a.escaped && c == '\\') := by simp [free, other]
        split at found
        · exact kept (by split <;> exact stays) found
        · repeat' split at found
          all_goals first
            | exact kept (by exact stays) found
            | (obtain ⟨rfl, rfl⟩ := Prod.mk.inj (Option.some.inj found)
               rename_i close _
               exact ⟨congrArg (· :: after) close, by rw [free]; rfl⟩)
            | simp at found

section readGroups

variable {readGroups : List Char → Except Unsupported (List Chain)} {whole : List Char} {found : Simple × List Char}

theorem leaves_pseudo (read : pseudo readGroups whole s = .ok found) : Leaves s found.2 := by
  unfold pseudo at read
  split at read
  · simp [unsupported] at read
  · rename_i name after named
    simp only [] at read
    split at read
    · rename_i opens
      split at read
      · simp [unsupported] at read
      · rename_i body following argument
        split at read
        · simp [unsupported] at read
        · obtain ⟨inner, rfl⟩ : ∃ inner, after = '(' :: inner := List.head?_eq_some_iff.mp opens
          obtain ⟨same, ends⟩ := split_argumentFrom argument
          obtain ⟨simple, _, rfl⟩ := exists_of_map_eq_ok read
          refine (leaves_name? named).trans (.cons (by decide) ⟨body ++ [')'], ?_, ends⟩)
          rw [List.append_assoc]
          exact same
    · split at read
      · obtain rfl := Except.ok.inj read
        exact leaves_name? named
      · simp [unsupported] at read

theorem leaves_simple {done : List Simple} {c : Char} (read : simple readGroups whole done c s = .ok found) :
    Leaves (c :: s) found.2 := by
  have taken {α : Type} {x : Option (α × List Char)} {make : α × List Char → Simple × List Char} {t : List Char}
      (is : x.map make = some found) (same : ∀ pair, (make pair).2 = pair.2)
      (leaves : ∀ a rest, x = some (a, rest) → Leaves t rest) : Leaves t found.2 := by
    obtain ⟨⟨a, rest⟩, some, rfl⟩ := Option.map_eq_some_iff.mp is
    exact same (a, rest) ▸ leaves a rest some
  have signs : ∀ sign ∈ ['*', '#', '.', '[', ':'], sign ≠ '\\' := by decide
  unfold simple at read
  simp only [] at read
  split_ifs at read with universal first id twice className test isPseudo begun
  · obtain rfl := Except.ok.inj read
    exact .cons (signs c (by simp [universal])) (.refl s)
  · simp [unsupported] at read
  · simp [unsupported] at read
  · split at read
    · rename_i is
      obtain rfl := Except.ok.inj read
      exact .cons (signs c (by simp [id])) (taken is (fun _ => rfl) fun _ _ => leaves_name?)
    · simp [unsupported] at read
  · split at read
    · rename_i is
      obtain rfl := Except.ok.inj read
      exact .cons (signs c (by simp [className])) (taken is (fun _ => rfl) fun _ _ => leaves_name?)
    · simp [unsupported] at read
  · split at read
    · rename_i is
      obtain rfl := Except.ok.inj read
      exact .cons (signs c (by simp [test])) (taken is (fun _ => rfl) fun _ _ => leaves_attributeTest?)
    · simp [unsupported] at read
  · exact .cons (signs c (by simp [isPseudo])) (leaves_pseudo read)
  · simp [unsupported] at read
  · split at read
    · rename_i is
      obtain rfl := Except.ok.inj read
      exact taken is (fun _ => rfl) fun _ _ => leaves_name?
    · simp [unsupported] at read

theorem leaves_simplesFrom {count : Nat} {done simples : List Simple}
    (read : simplesFrom readGroups whole count done s = .ok simples) : Leaves s [] := by
  induction count generalizing done s with
  | zero =>
    cases s with
    | nil => exact .refl []
    | cons c rest => simp [simplesFrom, unsupported] at read
  | succ count ih =>
    cases s with
    | nil => exact .refl []
    | cons c rest =>
      obtain ⟨⟨next, after⟩, first, later⟩ := exists_of_bind_eq_ok read
      exact (leaves_simple first).trans (ih later)

/-- A compound selector does not end in an escape. -/
theorem endsEscaped_of_compound {simples : List Simple} (read : compound readGroups s = .ok simples) :
    endsEscaped false s = false := (leaves_simplesFrom read).endsEscaped_eq

end readGroups

end CosmeticRules.Css
