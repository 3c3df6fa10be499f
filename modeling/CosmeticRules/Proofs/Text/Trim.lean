import CosmeticRules.Proofs.Text.Character
import CosmeticRules.Text.Blank
import Mathlib.Data.List.DropRight

/-!
Trimming a text: which blanks it drops, and that trimming again changes nothing.
-/

namespace CosmeticRules.Text

theorem isAsciiBlank_of_dark {c : Char} (dark : isBlank c = false) : isAsciiBlank c = false := by
  by_contra blank
  rw [Bool.not_eq_false] at blank
  have member : c ∈ [' ', '\t', '\n', '\r', '\x0c'] := by simpa [isAsciiBlank, or_assoc] using blank
  have blanks : ∀ d ∈ [' ', '\t', '\n', '\r', '\x0c'], isBlank d = true := by decide
  exact absurd (blanks c member) (by simp [dark])

theorem trimEnd_concat (s : List Char) (c : Char) :
    trimEnd (s ++ [c]) = if isBlank c then trimEnd s else s ++ [c] :=
  List.rdropWhile_concat isBlank s c

theorem trimEnd_trimEnd (s : List Char) : trimEnd (trimEnd s) = trimEnd s :=
  List.rdropWhile_idempotent isBlank s

/-- From a character that is not blank on, only the end is trimmed. -/
theorem trimEnd_append_cons {c : Char} (dark : isBlank c = false) (s t : List Char) :
    trimEnd (s ++ c :: t) = s ++ c :: trimEnd t := by
  induction t using List.reverseRecOn with
  | nil =>
    rw [trimEnd_concat, dark]
    rfl
  | append_singleton t d ih =>
    have grouped : s ++ c :: (t ++ [d]) = (s ++ c :: t) ++ [d] := by simp
    rw [grouped, trimEnd_concat, trimEnd_concat, ih]
    split <;> simp

theorem trimEnd_cons {c : Char} (dark : isBlank c = false) (t : List Char) :
    trimEnd (c :: t) = c :: trimEnd t := trimEnd_append_cons dark [] t

/-- A text is blank, or it has a first character that is not. -/
theorem blank_or_split (s : List Char) :
    (∀ c ∈ s, isBlank c = true) ∨
      ∃ before c after, s = before ++ c :: after ∧ (∀ b ∈ before, isBlank b = true) ∧
        isBlank c = false := by
  induction s with
  | nil => simp
  | cons d rest ih =>
    cases blank : isBlank d with
    | false => exact Or.inr ⟨[], d, rest, rfl, by simp, blank⟩
    | true =>
      rcases ih with all | ⟨before, c, after, rfl, blanks, dark⟩
      · exact Or.inl (List.forall_mem_cons.mpr ⟨blank, all⟩)
      · exact Or.inr ⟨d :: before, c, after, rfl, List.forall_mem_cons.mpr ⟨blank, blanks⟩, dark⟩

theorem trim_of_blank {s : List Char} (blank : ∀ c ∈ s, isBlank c = true) : trim s = [] := by
  have start : trimStart s = [] := List.dropWhile_eq_nil_iff.mpr blank
  rw [trim, start]
  rfl

theorem trimStart_append_cons {before after : List Char} {c : Char}
    (blanks : ∀ b ∈ before, isBlank b = true) (dark : isBlank c = false) :
    trimStart (before ++ c :: after) = c :: after := by
  rw [trimStart, List.dropWhile_append_of_pos blanks, List.dropWhile_cons_of_neg (by simp [dark])]

theorem trim_append_cons {before after : List Char} {c : Char}
    (blanks : ∀ b ∈ before, isBlank b = true) (dark : isBlank c = false) :
    trim (before ++ c :: after) = c :: trimEnd after := by
  rw [trim, trimStart_append_cons blanks dark, trimEnd_cons dark]

theorem trim_blank_cons {c : Char} (blank : isBlank c = true) (s : List Char) :
    trim (c :: s) = trim s := by
  rw [trim, trimStart, List.dropWhile_cons_of_pos blank]
  rfl

theorem trim_trimEnd (s : List Char) : trim (trimEnd s) = trim s := by
  rcases blank_or_split s with blank | ⟨before, c, after, rfl, blanks, dark⟩
  · have gone : trimEnd s = [] := List.rdropWhile_eq_nil_iff.mpr blank
    rw [gone, trim_of_blank blank]
    rfl
  · rw [trimEnd_append_cons dark, trim_append_cons blanks dark, trim_append_cons blanks dark,
      trimEnd_trimEnd]

theorem trim_trim (s : List Char) : trim (trim s) = trim s := by
  rcases blank_or_split s with blank | ⟨before, c, after, rfl, blanks, dark⟩
  · rw [trim_of_blank blank]
    rfl
  · have short : trim ([] ++ c :: trimEnd after) = c :: trimEnd (trimEnd after) :=
      trim_append_cons (by simp) dark
    rw [trim_append_cons blanks dark, ← List.nil_append (c :: _), short, trimEnd_trimEnd]
    rfl

theorem trimText_trimText (s : String) : trimText (trimText s) = trimText s := by
  rw [trimText, trimText, String.toList_ofList, trim_trim]

/-- A trimmed text is empty or begins with a character that is not blank. -/
theorem eq_nil_or_dark_of_trim {s : List Char} (trimmed : trim s = s) :
    s = [] ∨ ∃ c rest, s = c :: rest ∧ isBlank c = false ∧ trimEnd rest = rest := by
  rcases blank_or_split s with blank | ⟨before, c, after, same, blanks, dark⟩
  · exact Or.inl (trimmed.symm.trans (trim_of_blank blank))
  · have short : trim s = c :: trimEnd after := by rw [same, trim_append_cons blanks dark]
    refine Or.inr ⟨c, trimEnd after, trimmed.symm.trans short, dark, trimEnd_trimEnd after⟩

/-- A text with no blank at either end is trimmed. -/
theorem trim_of_ends {s : List Char} (first : ∀ c, s.head? = some c → isBlank c = false)
    (last : ∀ c, s.getLast? = some c → isBlank c = false) : trim s = s := by
  cases s with
  | nil => rfl
  | cons c rest =>
    have short : trim ([] ++ c :: rest) = c :: trimEnd rest := trim_append_cons (by simp) (first c rfl)
    refine short.trans (congrArg (c :: ·) ?_)
    rcases List.eq_nil_or_concat rest with rfl | ⟨init, d, rfl⟩
    · rfl
    · have ends : (c :: init.concat d).getLast? = some d := by
        rw [List.concat_eq_append, ← List.cons_append, List.getLast?_concat]
      have dark : isBlank d = false := last d ends
      rw [List.concat_eq_append, trimEnd_concat, dark]
      rfl

theorem dark_of_getLast?_trim {s : List Char} {c : Char} (last : (trim s).getLast? = some c) :
    isBlank c = false := by
  have some : trim s ≠ [] := by
    rintro none
    simp [none] at last
  have dark : ¬isBlank ((trim s).getLast some) = true := List.rdropWhile_last_not isBlank (trimStart s) some
  rw [List.getLast?_eq_some_getLast some] at last
  simpa [Option.some.inj last] using dark

theorem trim_isInfix (s : List Char) : trim s <:+: s :=
  (List.rdropWhile_prefix isBlank (trimStart s)).isInfix.trans (List.dropWhile_suffix isBlank).isInfix

/-- What trimming takes off both ends is blank. -/
theorem exists_around_trim (s : List Char) : ∃ front back, s = front ++ trim s ++ back ∧
    (∀ c ∈ front, isBlank c = true) ∧ ∀ c ∈ back, isBlank c = true := by
  have ended (s : List Char) : ∃ back, s = trimEnd s ++ back ∧ ∀ c ∈ back, isBlank c = true := by
    induction s using List.reverseRecOn with
    | nil => exact ⟨[], rfl, by simp⟩
    | append_singleton s c ih =>
      obtain ⟨back, same, blank⟩ := ih
      rw [trimEnd_concat]
      split
      · rename_i here
        refine ⟨back ++ [c], by rw [← List.append_assoc, ← same], fun d member => ?_⟩
        rcases List.mem_append.mp member with member | member
        · exact blank d member
        · exact List.mem_singleton.mp member ▸ here
      · exact ⟨[], (List.append_nil _).symm, by simp⟩
  obtain ⟨back, same, blank⟩ := ended (trimStart s)
  refine ⟨s.takeWhile isBlank, back, ?_, fun c member => List.mem_takeWhile_imp member, blank⟩
  rw [List.append_assoc, trim, ← same]
  exact List.takeWhile_append_dropWhile.symm

/-- Trimming the end only leaves the blanks in front. -/
theorem exists_trimEnd_eq {s : List Char} (some : trim s ≠ []) :
    ∃ blanks, (∀ c ∈ blanks, isBlank c = true) ∧ trimEnd s = blanks ++ trim s := by
  rcases blank_or_split s with blank | ⟨before, c, after, rfl, blanks, dark⟩
  · exact absurd (trim_of_blank blank) some
  · exact ⟨before, blanks, by rw [trimEnd_append_cons dark, trim_append_cons blanks dark]⟩

theorem trimStart_of_blank {s : List Char} (blank : ∀ c ∈ s, isBlank c = true) (t : List Char) :
    trimStart (s ++ t) = trimStart t := List.dropWhile_append_of_pos blank

theorem trimEnd_append_of_blank {t : List Char} (blank : ∀ c ∈ t, isBlank c = true) (s : List Char) :
    trimEnd (s ++ t) = trimEnd s := by
  rw [trimEnd, dropEndWhile, List.reverse_append,
    List.dropWhile_append_of_pos fun c member => blank c (List.mem_reverse.mp member)]
  rfl

theorem trim_append_of_blank {t : List Char} (blank : ∀ c ∈ t, isBlank c = true) (s : List Char) :
    trim (s ++ t) = trim s := by
  rw [← trim_trimEnd, trimEnd_append_of_blank blank, trim_trimEnd]

/-- Where something is left of a text, what follows the text stays. -/
theorem trimStart_append {s : List Char} (some : trimStart s ≠ []) (t : List Char) :
    trimStart (s ++ t) = trimStart s ++ t := by
  rcases blank_or_split s with blank | ⟨before, c, after, rfl, blanks, dark⟩
  · exact absurd (List.dropWhile_eq_nil_iff.mpr blank) some
  · rw [List.append_assoc, List.cons_append, trimStart_append_cons blanks dark,
      trimStart_append_cons blanks dark]
    rfl

/-- Blanks in front do not count, whatever follows. -/
theorem trim_trimStart_append (s t : List Char) : trim (trimStart s ++ t) = trim (s ++ t) := by
  rcases blank_or_split s with blank | ⟨before, c, after, rfl, blanks, dark⟩
  · have nothing : trimStart s = [] := List.dropWhile_eq_nil_iff.mpr blank
    rw [nothing, List.nil_append, trim, trim, trimStart_of_blank blank]
  · rw [trimStart_append_cons blanks dark, List.append_assoc, List.cons_append, trim_append_cons blanks dark,
      ← List.nil_append (c :: _), trim_append_cons (by simp) dark]

/-- A text without blanks at its end is trimmed at its start only. -/
theorem trim_of_trimEnd {s : List Char} (ends : trimEnd s = s) : trim s = trimStart s := by
  rcases blank_or_split s with blank | ⟨before, c, after, rfl, blanks, dark⟩
  · rw [trim_of_blank blank]
    exact (List.dropWhile_eq_nil_iff.mpr blank).symm
  · rw [trimEnd_append_cons dark, List.append_cancel_left_eq, List.cons.injEq] at ends
    rw [trim_append_cons blanks dark, trimStart_append_cons blanks dark, ends.2]

theorem getLast?_trimStart {s : List Char} (some : trimStart s ≠ []) : (trimStart s).getLast? = s.getLast? := by
  obtain ⟨front, split⟩ : trimStart s <:+ s := List.dropWhile_suffix isBlank
  conv_rhs => rw [← split]
  rw [List.getLast?_append_of_ne_nil _ some]

/-- A last character that is not blank stays the last one. -/
theorem getLast?_trim {s : List Char} {c : Char} (last : s.getLast? = some c) (dark : isBlank c = false) :
    (trim s).getLast? = some c := by
  have some : trimStart s ≠ [] := by
    intro gone
    have blank := List.dropWhile_eq_nil_iff.mp gone c (List.mem_of_getLast? last)
    simp [dark] at blank
  have ends := (getLast?_trimStart some).trans last
  obtain ⟨front, split⟩ := List.getLast?_eq_some_iff.mp ends
  rw [trim, split, trimEnd_concat, dark, if_neg Bool.false_ne_true, List.getLast?_concat]

/-- What two texts in a row are trimmed to: the first text trimmed, and then the second with blanks in
front. -/
theorem exists_trim_append {s : List Char} (some : trim s ≠ []) (t : List Char) :
    ∃ rest, trim (s ++ t) = trim s ++ rest ∧ trimStart rest = trim t := by
  rcases blank_or_split s with blank | ⟨before, c, after, rfl, blanks, dark⟩
  · exact absurd (trim_of_blank blank) some
  · have whole : trim (before ++ c :: after ++ t) = c :: trimEnd (after ++ t) := by
      rw [List.append_assoc, List.cons_append, trim_append_cons blanks dark]
    rw [whole, trim_append_cons blanks dark]
    rcases blank_or_split t with blank | ⟨between, d, later, rfl, blanksBetween, darkThen⟩
    · refine ⟨[], ?_, (trim_of_blank blank).symm⟩
      rw [trimEnd_append_of_blank blank, List.append_nil]
    · refine ⟨after.rtakeWhile isBlank ++ between ++ d :: trimEnd later, ?_, ?_⟩
      · have kept : trimEnd after ++ after.rtakeWhile isBlank = after := List.rdropWhile_append_rtakeWhile
        rw [← List.append_assoc, trimEnd_append_cons darkThen]
        conv_lhs => rw [← kept]
        simp
      · rw [trim_append_cons blanksBetween darkThen, trimStart_append_cons ?_ darkThen]
        refine List.forall_mem_append.mpr ⟨fun b member => ?_, blanksBetween⟩
        exact List.mem_rtakeWhile_imp member

end CosmeticRules.Text
