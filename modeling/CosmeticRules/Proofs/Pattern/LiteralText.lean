import CosmeticRules.Log
import CosmeticRules.Pattern.Matching
import CosmeticRules.Proofs.Text.Split
import Mathlib.Algebra.Ring.Nat

/-!
Patterns that are a text to look for, with a backslash before each sign that would mean something else. Such a pattern
is read as its characters, these are written one by one as a plain pattern, and that is read again. Nothing but its
size can keep it from being read, and it matches where its characters follow one another, up to case.
-/

namespace CosmeticRules.Pattern

/-- A character of a pattern, perhaps with a backslash in front of it. -/
def spell (escaped : Char → Bool) (c : Char) : List Char := if escaped c then ['\\', c] else [c]

/-- Signs that a backslash makes stand for themselves. -/
def IsMark (c : Char) : Prop := c.isAlphanum = false ∧ c.toNat < 128 ∧ c ≠ '<' ∧ c ≠ '>'

instance : DecidablePred IsMark := fun _ => inferInstanceAs (Decidable (_ ∧ _))

theorem IsMark.ne {c d : Char} (mark : IsMark c) (letter : d.isAlphanum = true) : c ≠ d := by
  rintro rfl
  exact Bool.false_ne_true (mark.1.symm.trans letter)

/-! Reading as an extended pattern. -/

namespace Extended

/-- The characters that do not stand for themselves outside classes. -/
def signs : List Char := ['\\', '.', '*', '+', '?', '(', ')', '[', '\x7b', '|', '^', '$']

theorem skipIgnored_eq {reading : Reading} (unspaced : reading.flags.spaced = false) {s : List Char}
    (start : s.head? ≠ some '(') : skipIgnored reading s = .ok s := by
  rw [skipIgnored, unspaced]
  unfold skipFrom
  split <;> simp_all

theorem escape_mark {c : Char} (mark : IsMark c) (reading : Reading) (rest : List Char) :
    escape reading (c :: rest) = .ok (.char c, rest) := by
  have letters : ∀ d ∈ ['k', 'g', 'b', 'B', 'x', 'u', 'U', 'p', 'P', 'd', 'D', 's', 'S', 'w', 'W'], c ≠ d :=
    fun d member => mark.ne (by revert d; decide)
  simp only [List.forall_mem_cons] at letters
  obtain ⟨plain, _, less, greater⟩ := mark
  obtain ⟨alpha, digit⟩ : c.isAlpha = false ∧ c.isDigit = false := by simpa [Char.isAlphanum] using plain
  have pattern : escapedPattern? c = none := by
    unfold escapedPattern?
    split <;> simp_all
  have set : escapedSet? c = none := by
    unfold escapedSet?
    split <;> simp_all
  have char : escapedChar? false c = some c := by
    unfold escapedChar?
    split <;> simp_all
  simp [escape, digit, pattern, commonEscape, set, char, letters]

section spelled

variable {reading : Reading} (unspaced : reading.flags.spaced = false) {escaped : Char → Bool}

include unspaced in
theorem atom_spell {c : Char} (marks : escaped c = true → IsMark c) (plain : c ∈ signs → escaped c = true)
    (nested? : Option (ExtendedReader Extended)) (rest : List Char) :
    atom nested? reading (spell escaped c ++ rest) = .ok (.literal c reading.flags.ignoreCase, reading, rest) := by
  unfold spell
  split
  · rename_i sign
    have skipped := skipIgnored_eq unspaced (s := '\\' :: c :: rest) (by simp)
    simp only [atom, List.cons_append, List.nil_append, skipped, ok_bind, escapedAtom, escape_mark (marks sign)]
    rfl
  · rename_i other
    have apart : ∀ d ∈ signs, c ≠ d := fun d member same => other (plain (same ▸ member))
    simp only [signs, List.forall_mem_cons] at apart
    have skipped := skipIgnored_eq unspaced (s := c :: rest) (by simpa using apart.2.2.2.2.2.1)
    simp only [atom, List.cons_append, List.nil_append, skipped, ok_bind]
    split <;> simp_all [pure, Except.pure]

theorem head?_spell_append (escaped : Char → Bool) (c : Char) (rest : List Char) :
    (spell escaped c ++ rest).head? = if escaped c then some '\\' else some c := by
  unfold spell
  split <;> rfl

/-- What follows a character begins with one that is neither a mark of repetition nor a parenthesis. -/
theorem start_spelled {s : List Char} (plain : ∀ c ∈ s, c ∈ signs → escaped c = true) {d : Char} (sign : d ∈ signs)
    (other : d ≠ '\\') : (s.flatMap (spell escaped)).head? ≠ some d := by
  cases s with
  | nil => simp
  | cons c rest =>
    rw [List.flatMap_cons, head?_spell_append]
    split
    · simpa using other.symm
    · rename_i unescaped
      intro same
      exact unescaped (plain c List.mem_cons_self (Option.some.inj same ▸ sign))

theorem repetition?_eq_none (reading : Reading) {s : List Char}
    (start : ∀ d ∈ ['?', '*', '+', '\x7b'], s.head? ≠ some d) : repetition? reading s = none := by
  unfold repetition?
  split <;> simp_all

/-- The characters of a text, each as a pattern. -/
def literals (ignoreCase : Bool) (s : List Char) : List Extended := s.map fun c => .literal c ignoreCase

variable {s : List Char} (marks : ∀ c ∈ s, escaped c = true → IsMark c)
  (plain : ∀ c ∈ s, c ∈ signs → escaped c = true) (nested? : Option (ExtendedReader Extended))

include unspaced

theorem piece_spell {c : Char} (mark : escaped c = true → IsMark c) (sign : c ∈ signs → escaped c = true)
    (plain : ∀ c ∈ s, c ∈ signs → escaped c = true) :
    piece nested? reading (spell escaped c ++ s.flatMap (spell escaped)) =
      .ok (.literal c reading.flags.ignoreCase, reading, s.flatMap (spell escaped)) := by
  have skipped := skipIgnored_eq unspaced (start_spelled plain (d := '(') (by decide) (by decide))
  have once : repetition? reading (s.flatMap (spell escaped)) = none := by
    refine repetition?_eq_none reading fun d member => start_spelled plain ?_ ?_ <;> revert d <;> decide
  simp only [piece, atom_spell unspaced mark sign, ok_bind, skipped, once]
  rfl

include marks plain

theorem piecesFrom_spell {count : Nat} (enough : s.length ≤ count) :
    piecesFrom nested? count reading (s.flatMap (spell escaped)) =
      .ok (literals reading.flags.ignoreCase s, reading, []) := by
  induction s generalizing count with
  | nil => cases count <;> rfl
  | cons c rest ih =>
    obtain ⟨mark, marks⟩ := List.forall_mem_cons.mp marks
    obtain ⟨sign, plain⟩ := List.forall_mem_cons.mp plain
    obtain ⟨count, rfl⟩ := Nat.exists_eq_add_of_le' (Nat.le_trans (Nat.succ_le_succ (Nat.zero_le _)) enough)
    have filled : (spell escaped c ++ rest.flatMap (spell escaped)).isEmpty = false := by
      unfold spell
      split <;> rfl
    have later := ih marks plain (Nat.le_of_succ_le_succ enough)
    simp only [List.flatMap_cons, piecesFrom, filled, Bool.false_eq_true, if_false,
      piece_spell unspaced nested? mark sign plain, ok_bind, isEmpty, later]
    rfl

theorem alternatives_spell (unnumbered : reading.numbered = false) :
    alternatives nested? reading (s.flatMap (spell escaped)) =
      .ok (.ofParts (literals reading.flags.ignoreCase s), reading, []) := by
  have enough : s.length ≤ (s.flatMap (spell escaped)).length + 1 := by
    refine Nat.le_succ_of_le (Text.length_le_flatMap (fun c => ?_) s)
    unfold spell
    split <;> simp
  have skipped : skipIgnored reading [] = .ok [] := skipIgnored_eq unspaced (by simp)
  simp only [alternatives, branch, piecesFrom_spell unspaced marks plain nested? enough, ok_bind, pure_bind,
    branchesFrom, skipped, unnumbered, List.isEmpty_nil, Bool.not_true, Bool.false_and, Bool.false_eq_true, if_false]
  rfl

omit unspaced in
/-- A pattern of characters that stand for themselves is read as these characters. -/
theorem read_spell {flags : Flags} (unspaced : flags.spaced = false) :
    read flags (s.flatMap (spell escaped)) = .ok ⟨.ofParts (literals flags.ignoreCase s), 0, []⟩ := by
  have whole (size : Nat) : readNested depthLimit { flags, size } (s.flatMap (spell escaped)) =
      .ok (.ofParts (literals flags.ignoreCase s), { flags, size }, []) := alternatives_spell unspaced marks plain _ rfl
  simp only [read, whole, ok_bind]
  rfl

end spelled

/-! Writing as a plain pattern. -/

theorem withoutLastLook_literals (ignoreCase : Bool) (s : List Char) :
    (ofParts (literals ignoreCase s)).withoutLastLook = ofParts (literals ignoreCase s) := by
  match s with
  | [] => rfl
  | [c] => rfl
  | c :: d :: rest =>
    have last : ∃ e, (literals ignoreCase (c :: d :: rest)).getLast? = some (.literal e ignoreCase) := by
      refine ⟨(c :: d :: rest).getLast (by simp), ?_⟩
      rw [literals, List.getLast?_map, List.getLast?_eq_some_getLast (by simp)]
      rfl
    obtain ⟨e, last⟩ := last
    simp only [literals, List.map_cons] at last ⊢
    rw [ofParts, withoutLastLook, last]
    · simp
    · simp

theorem isHard_literals (ignoreCase : Bool) (s : List Char) (referred : List Nat) :
    (ofParts (literals ignoreCase s)).isHard referred = false := by
  have none (s : List Char) : anyHard referred (literals ignoreCase s) = false := by
    induction s with
    | nil => rfl
    | cons c rest ih => simpa [literals, anyHard, isHard] using ih
  match s with
  | [] => rfl
  | [c] => rfl
  | c :: d :: rest => exact none (c :: d :: rest)

/-- A character without regard to case, as a plain pattern. -/
def printFolded (c : Char) : List Char := '(' :: '?' :: 'i' :: ':' :: (quoted c ++ [')'])

theorem print_literals (s : List Char) : (ofParts (literals true s)).print .whole = s.flatMap printFolded := by
  have parts (s : List Char) : printParts (literals true s) = s.flatMap printFolded := by
    induction s with
    | nil => rfl
    | cons c rest ih => simpa [literals, printParts, print, underFlag, printFolded] using ih
  match s with
  | [] => rfl
  | [c] => simp [literals, ofParts, print, underFlag, printFolded]
  | c :: d :: rest => exact parts (c :: d :: rest)

end Extended

/-! Reading as a plain pattern. -/

namespace Plain

open Extended (quoted plainSigns printFolded)

variable {flags : Flags} {c : Char}

theorem escape_mark (mark : IsMark c) (ignoreCase : Bool) (rest : List Char) :
    escape ignoreCase (c :: rest) = .ok (.char c, rest) := by
  have letters : ∀ d ∈ ['d', 'D', 's', 'S', 'w', 'W', 'p', 'P'], c ≠ d :=
    fun d member => mark.ne (by revert d; decide)
  simp only [List.forall_mem_cons] at letters
  obtain ⟨plain, ascii, less, greater⟩ := mark
  unfold escape
  split <;> simp_all

/-- A character that is written as it is has no meaning of its own. -/
theorem ne_of_unquoted (other : ¬plainSigns.contains c = true) :
    ∀ d ∈ ['(', ')', '[', '\\', '.', '^', '$', '?', '*', '+', '\x7b', '|'], c ≠ d := by
  rintro d member rfl
  refine other ?_
  clear other
  revert c
  decide

theorem atom_quoted (nested : PlainReader) (rest : List Char) :
    atom nested flags (quoted c ++ rest) = .ok (.part (.char (.ofChar flags.ignoreCase c)), rest) := by
  have marks : ∀ d ∈ plainSigns, IsMark d := by decide
  unfold quoted
  split
  · rename_i sign
    have mark := marks c (by simpa using sign)
    simp only [List.cons_append, List.nil_append, atom, escape_mark mark, ok_bind]
    rfl
  · rename_i other
    have apart := ne_of_unquoted other
    simp only [List.forall_mem_cons] at apart
    rw [List.cons_append, List.nil_append]
    unfold atom
    split <;> simp_all

theorem head?_quoted (c : Char) (rest : List Char) :
    (quoted c ++ rest).head? ≠ some '|' ∧ (quoted c ++ rest).head? ≠ some ')' ∧ (quoted c ++ rest).isEmpty = false := by
  unfold quoted
  split
  · simp
  · rename_i other
    refine ⟨?_, ?_, rfl⟩
    · exact fun same => ne_of_unquoted other '|' (by decide) (Option.some.inj same)
    · exact fun same => ne_of_unquoted other ')' (by decide) (Option.some.inj same)

/-- One character up to the parenthesis that closes its group. -/
theorem readNested_quoted (flags : Flags) (depth : Nat) (rest : List Char) :
    readNested (depth + 2) flags (quoted c ++ ')' :: rest) =
      .ok (.char (.ofChar flags.ignoreCase c), ')' :: rest) := by
  obtain ⟨bar, parenthesis, filled⟩ := head?_quoted c (')' :: rest)
  have pieces : piecesFrom (readNested (depth + 1)) (depth + 1) flags (quoted c ++ ')' :: rest) =
      .ok ([.char (.ofChar flags.ignoreCase c)], flags, ')' :: rest) := by
    have once (p : Plain) : repeatedBy flags depth p (')' :: rest) = .ok (p, ')' :: rest) := by
      cases depth <;> rfl
    have closes : piecesFrom (readNested (depth + 1)) depth flags (')' :: rest) = .ok ([], flags, ')' :: rest) := by
      cases depth <;> rfl
    rw [piecesFrom, filled, beq_false_of_ne bar, beq_false_of_ne parenthesis, atom_quoted]
    simp only [Bool.or_self, Bool.false_eq_true, if_false, ok_bind, once, closes]
    rfl
  rw [readNested, alternatives, pieces]
  rfl

theorem atom_printFolded (flags : Flags) (depth : Nat) (rest : List Char) :
    atom (readNested (depth + 2)) flags (printFolded c ++ rest) = .ok (.part (.char (.anyCase c)), rest) := by
  have inner := readNested_quoted { flags with ignoreCase := true } depth (c := c) rest
  have group : groupFrom (readNested (depth + 2)) flags ('?' :: 'i' :: ':' :: (quoted c ++ ')' :: rest)) =
      inGroup (readNested (depth + 2)) { flags with ignoreCase := true } (quoted c ++ ')' :: rest) := rfl
  rw [printFolded]
  simp only [List.cons_append, List.append_assoc, List.nil_append, atom, group, inGroup, inner, ok_bind]
  rfl

/-- A text of which each character is written without regard to case. -/
theorem piecesFrom_printFolded (flags : Flags) (depth : Nat) {count : Nat} {s : List Char} (enough : s.length ≤ count) :
    piecesFrom (readNested (depth + 2)) count flags (s.flatMap printFolded) =
      .ok (s.map fun c => .char (.anyCase c), flags, []) := by
  induction s generalizing count with
  | nil => cases count <;> rfl
  | cons c rest ih =>
    obtain ⟨count, rfl⟩ := Nat.exists_eq_add_of_le' (Nat.le_trans (Nat.succ_le_succ (Nat.zero_le _)) enough)
    have later := ih (Nat.le_of_succ_le_succ enough)
    have once (p : Plain) :
        repeatedBy flags count p (rest.flatMap printFolded) = .ok (p, rest.flatMap printFolded) := by
      cases count <;> cases rest <;> rfl
    have opens : (printFolded c ++ rest.flatMap printFolded).isEmpty = false ∧
        ((printFolded c ++ rest.flatMap printFolded).head? == some '|') = false ∧
        ((printFolded c ++ rest.flatMap printFolded).head? == some ')') = false := ⟨rfl, rfl, rfl⟩
    rw [List.flatMap_cons, piecesFrom, opens.1, opens.2.1, opens.2.2, atom_printFolded]
    simp only [Bool.or_self, Bool.false_eq_true, if_false, ok_bind, once, later]
    rfl

/-- The pattern that takes the characters of a text one after another, without regard to case. -/
def folded (s : List Char) : Plain := .ofSequence (s.map fun c => .char (.anyCase c))

/-- What is written so is read as one character after another, unless that is too much. -/
theorem read_printFolded (flags : Flags) (s : List Char) :
    read flags (s.flatMap printFolded) =
      if sizeLimit < (folded s).size then .error .tooLarge else .ok (folded s) := by
  cases s with
  | nil => rfl
  | cons c rest =>
    have long := Text.length_le_flatMap (f := printFolded) (fun d => List.cons_ne_nil _ _) (c :: rest)
    obtain ⟨depth, length⟩ : ∃ depth, ((c :: rest).flatMap printFolded).length = depth + 2 :=
      Nat.exists_eq_add_of_le' (by simp [printFolded])
    have enough : (c :: rest).length ≤ depth + 2 := length ▸ long
    rw [read, length, readNested, alternatives, piecesFrom_printFolded flags depth enough]
    rfl

end Plain

/-- A pattern that is the text of something to look for is refused for its size only. -/
theorem read_spell {escaped : Char → Bool} {flags : Flags} (folds : flags.ignoreCase = true)
    (unspaced : flags.spaced = false) {s : List Char} (marks : ∀ c ∈ s, escaped c = true → IsMark c)
    (plain : ∀ c ∈ s, c ∈ Extended.signs → escaped c = true) :
    read flags (s.flatMap (spell escaped)) =
      if Plain.sizeLimit < (Plain.folded s).size then .error .tooLarge else .ok (.plain (Plain.folded s)) := by
  rw [read, Extended.read_spell marks plain unspaced, folds]
  simp only [ok_bind, Extended.withoutLastLook_literals, Extended.isHard_literals, Extended.print_literals,
    Plain.read_printFolded, Bool.false_eq_true, if_false]
  split <;> rfl

end CosmeticRules.Pattern
