import CosmeticRules.Proofs.Css.ReadFormula
import CosmeticRules.Proofs.Css.Selection

/-!
What the argument of a counting pseudo-class denotes: the numbers `a * n + b` with `n ≥ 0`. The texts are
described without regard to the width of the integers, and the arithmetic with it.
-/

namespace CosmeticRules.Css

open Text

/-! Integers of 64 bits. -/

/-- An integer as one of 64 bits, if it fits. -/
def fitted? (i : Int) : Option Int64 :=
  if Int64.minValue.toInt ≤ i ∧ i ≤ Int64.maxValue.toInt then some (Int64.ofInt i) else none

theorem fitted?_eq_some_iff {i : Int} {word : Int64} : fitted? i = some word ↔ word.toInt = i := by
  rw [fitted?, Int64.toInt_minValue, Int64.toInt_maxValue]
  split
  · rename_i fits
    have value : (Int64.ofInt i).toInt = i := Int64.toInt_ofInt_of_le fits.1 (by omega)
    rw [Option.some.injEq, ← Int64.toInt_inj, value, eq_comm]
  · rename_i outside
    refine iff_of_false (Option.some_ne_none word).symm fun same => outside ?_
    have low := word.le_toInt
    have high := word.toInt_lt
    omega

theorem exists_fitted {i : Int} (low : -2 ^ 63 ≤ i) (high : i < 2 ^ 63) : ∃ word, fitted? i = some word :=
  ⟨Int64.ofInt i, fitted?_eq_some_iff.mpr (Int64.toInt_ofInt_of_le low high)⟩

theorem fitted?_eq_none {i : Int} (outside : i < -2 ^ 63 ∨ 2 ^ 63 ≤ i) : fitted? i = none := by
  cases found : fitted? i with
  | none => rfl
  | some word =>
    have value := fitted?_eq_some_iff.mp found
    have low := word.le_toInt
    have high := word.toInt_lt
    omega

/-- The least integer is the only one that fits only with its sign. -/
theorem map_neg_fitted? {i : Int} (positive : 0 ≤ i) :
    (fitted? i).map (- ·) = if -i = -2 ^ 63 then none else fitted? (-i) := by
  by_cases small : i < 2 ^ 63
  · obtain ⟨word, found⟩ := exists_fitted (by omega) small
    have value : (-word).toInt = -i := by
      rw [Int64.toInt_neg, fitted?_eq_some_iff.mp found, Int.bmod_eq_of_le] <;> omega
    rw [found, if_neg (by omega), Option.map_some, fitted?_eq_some_iff.mpr value]
  · rw [fitted?_eq_none (.inr (by omega)), Option.map_none]
    split
    · rfl
    · rw [fitted?_eq_none (.inl (by omega))]

/-! Texts of integers. -/

/-- Decimal digits, at least one. -/
structure IsNumeral (digits : List Char) : Prop where
  ne_nil : digits ≠ []
  all : digits.all Char.isDigit = true

/-- A numeral, maybe with a sign, and the integer that it stands for. -/
inductive Writes : List Char → Int → Prop
  | bare {digits} (numeral : IsNumeral digits) : Writes digits (Decimal.ofDigits digits)
  | plus {digits} (numeral : IsNumeral digits) : Writes ('+' :: digits) (Decimal.ofDigits digits)
  | minus {digits} (numeral : IsNumeral digits) : Writes ('-' :: digits) (-(Decimal.ofDigits digits))

/-- The factor before the `n`, which is 1 if there is no number. -/
inductive WritesFactor : List Char → Int → Prop
  | one : WritesFactor [] 1
  | plus : WritesFactor ['+'] 1
  | minus : WritesFactor ['-'] (-1)
  | number {s i} (written : Writes s i) : WritesFactor s i

/-- The summand after the `n`, with its sign. -/
inductive WritesSummand : List Char → Int → Prop
  | zero : WritesSummand [] 0
  | plus {digits} (numeral : IsNumeral digits) : WritesSummand ('+' :: digits) (Decimal.ofDigits digits)
  | minus {digits} (numeral : IsNumeral digits) : WritesSummand ('-' :: digits) (-(Decimal.ofDigits digits))

/-- The texts of formulas without blanks and capitals, each with its factor and its summand. A number may have
another plus sign before its own sign. -/
inductive Denotes : List Char → Int → Int → Prop
  | odd : Denotes ['o', 'd', 'd'] 2 1
  | even : Denotes ['e', 'v', 'e', 'n'] 2 0
  | position {s i} (written : Writes s i) : Denotes s 0 i
  | signed {s i} (written : Writes s i) : Denotes ('+' :: s) 0 i
  | linear {s u a b} (factor : WritesFactor s a) (summand : WritesSummand u b) : Denotes (s ++ 'n' :: u) a b

/-- A digit or a sign. -/
def isNumberChar (c : Char) : Bool := c.isDigit || c == '+' || c == '-'

/-- A numeral begins with a digit, so with no sign. -/
theorem IsNumeral.exists_cons {digits : List Char} (numeral : IsNumeral digits) :
    ∃ c rest, digits = c :: rest ∧ c ≠ '+' ∧ c ≠ '-' := by
  obtain ⟨c, rest, rfl⟩ := List.exists_cons_of_ne_nil numeral.ne_nil
  have digit : c.isDigit = true := List.all_eq_true.mp numeral.all c List.mem_cons_self
  exact ⟨c, rest, rfl, ne_of_isDigit digit (by decide), ne_of_isDigit digit (by decide)⟩

theorem IsNumeral.isNumberChar {digits : List Char} (numeral : IsNumeral digits) :
    ∀ c ∈ digits, isNumberChar c = true := by
  intro c member
  simp [Css.isNumberChar, List.all_eq_true.mp numeral.all c member]

theorem Writes.ne_nil {s : List Char} {i : Int} (written : Writes s i) : s ≠ [] := by
  cases written with
  | bare numeral => exact numeral.ne_nil
  | plus | minus => exact List.cons_ne_nil _ _

theorem Writes.isNumberChar {s : List Char} {i : Int} (written : Writes s i) : ∀ c ∈ s, isNumberChar c = true := by
  cases written with
  | bare numeral => exact numeral.isNumberChar
  | plus numeral | minus numeral => exact List.forall_mem_cons.mpr ⟨by decide, numeral.isNumberChar⟩

theorem WritesFactor.isNumberChar {s : List Char} {i : Int} (written : WritesFactor s i) :
    ∀ c ∈ s, isNumberChar c = true := by
  cases written with
  | one | plus | minus => decide
  | number written => exact written.isNumberChar

theorem WritesSummand.isNumberChar {s : List Char} {i : Int} (written : WritesSummand s i) :
    ∀ c ∈ s, isNumberChar c = true := by
  cases written with
  | zero => decide
  | plus numeral | minus numeral => exact List.forall_mem_cons.mpr ⟨by decide, numeral.isNumberChar⟩

/-! Each reader gives the integer that its text stands for, if that fits. -/

theorem integer?_of_numeral {digits : List Char} (numeral : IsNumeral digits) :
    integer? digits = fitted? (Decimal.ofDigits digits) := by
  obtain ⟨c, rest, rfl, plus, minus⟩ := numeral.exists_cons
  unfold integer?
  split
  rename_i negative digits sign
  split at sign
  · rename_i first
    exact absurd (List.cons.inj first).1 minus
  · rename_i first
    exact absurd (List.cons.inj first).1 plus
  · obtain ⟨rfl, rfl⟩ := Prod.mk.inj sign
    simp [numeral.all, fitted?]

theorem integer?_of_writes {s : List Char} {i : Int} (written : Writes s i) : integer? s = fitted? i := by
  cases written with
  | bare numeral => exact integer?_of_numeral numeral
  | plus numeral | minus numeral => simp [integer?, numeral.ne_nil, numeral.all, fitted?]

theorem exists_writes {s : List Char} {word : Int64} (found : integer? s = some word) : ∃ i, Writes s i := by
  unfold integer? at found
  split at found
  rename_i negative digits sign
  split at found
  · simp at found
  · rename_i digital
    have numeral : IsNumeral digits := by
      simp only [Bool.or_eq_true, List.isEmpty_iff, Bool.not_eq_true', not_or, Bool.not_eq_false] at digital
      exact ⟨digital.1, digital.2⟩
    split at sign <;> obtain ⟨_, rfl⟩ := Prod.mk.inj sign
    · exact ⟨_, .minus numeral⟩
    · exact ⟨_, .plus numeral⟩
    · exact ⟨_, .bare numeral⟩

namespace Nth

theorem factor?_of_writes {s : List Char} {i : Int} (written : WritesFactor s i) : factor? s = fitted? i := by
  cases written with
  | one | plus | minus => rfl
  | number written =>
    have signs : ¬(s = [] ∨ s = ['+']) ∧ s ≠ ['-'] := by
      cases written with
      | bare numeral =>
        obtain ⟨c, rest, rfl, plus, minus⟩ := numeral.exists_cons
        simp [minus, plus]
      | plus numeral | minus numeral => simp [numeral.ne_nil]
    rw [factor?, if_neg signs.1, if_neg signs.2, integer?_of_writes written]

theorem exists_writesFactor {s : List Char} {word : Int64} (found : factor? s = some word) :
    ∃ i, WritesFactor s i := by
  unfold factor? at found
  split at found
  · rename_i bare
    rcases bare with rfl | rfl
    · exact ⟨1, .one⟩
    · exact ⟨1, .plus⟩
  · split at found
    · rename_i minus
      exact ⟨-1, minus ▸ .minus⟩
    · obtain ⟨i, written⟩ := exists_writes found
      exact ⟨i, .number written⟩

/-- The digits of a summand are read without their sign, so the least integer cannot be one. -/
theorem summand?_of_writes {s : List Char} {i : Int} (written : WritesSummand s i) :
    summand? s = if i = -2 ^ 63 then none else fitted? i := by
  cases written with
  | zero => rfl
  | @plus digits numeral =>
    obtain ⟨c, rest, rfl, plus, minus⟩ := numeral.exists_cons
    rw [if_neg (by omega)]
    simp [summand?, minus, plus, integer?_of_numeral numeral]
  | @minus digits numeral =>
    obtain ⟨c, rest, rfl, plus, minus⟩ := numeral.exists_cons
    rw [← map_neg_fitted? (Int.natCast_nonneg _)]
    simp [summand?, minus, plus, integer?_of_numeral numeral]

theorem exists_writesSummand {s : List Char} {word : Int64} (found : summand? s = some word) :
    ∃ i, WritesSummand s i := by
  unfold summand? at found
  split at found
  · exact ⟨0, .zero⟩
  · rename_i sign digits
    split at found
    · simp at found
    · rename_i unsigned
      have numeral {inner : Int64} (found : integer? digits = some inner) : IsNumeral digits := by
        obtain ⟨i, written⟩ := exists_writes found
        cases written with
        | bare numeral => exact numeral
        | plus | minus => simp at unsigned
      split at found
      · rename_i plus
        subst plus
        exact ⟨_, .plus (numeral found)⟩
      · split at found
        · rename_i minus
          subst minus
          obtain ⟨inner, found, _⟩ := Option.map_eq_some_iff.mp found
          exact ⟨_, .minus (numeral found)⟩
        · simp at found

/-! Whole formulas. -/

/-- The text of a formula without blanks and in lower case. -/
def compact (s : List Char) : List Char := asciiLower (s.filter (!isAsciiBlank ·))

/-- The factor of the `n` in a formula. -/
def factor : Nth → Int
  | exact _ => 0
  | odd | even => 2
  | linear a _ => a.toInt

/-- The summand after the `n` in a formula. -/
def summand : Nth → Int
  | exact n => n
  | odd => 1
  | even => 0
  | linear _ b => b.toInt

theorem read?_eq (s : List Char) : read? s =
    if compact s = [] then none
    else if compact s = ['o', 'd', 'd'] then some odd
    else if compact s = ['e', 'v', 'e', 'n'] then some even
    else match splitFirst? 'n' (compact s) with
      | some (before, after) => linear? before after
      | none => position? (compact s) := rfl

/-- A text of digits and signs is a position. -/
theorem read?_of_number {s : List Char} (some : compact s ≠ [])
    (numeric : ∀ c ∈ compact s, isNumberChar c = true) : read? s = position? (compact s) := by
  have letter {c : Char} (member : c ∈ compact s) (other : isNumberChar c = false) : False := by
    simp [numeric c member] at other
  have odd : compact s ≠ ['o', 'd', 'd'] := by
    intro same
    exact letter (c := 'o') (by simp [same]) (by decide)
  have even : compact s ≠ ['e', 'v', 'e', 'n'] := by
    intro same
    exact letter (c := 'e') (by simp [same]) (by decide)
  have fresh : 'n' ∉ compact s := fun member => letter member (by decide)
  rw [read?_eq, if_neg some, if_neg odd, if_neg even, splitFirst?_eq_none fresh]

theorem read?_of_linear {s before after : List Char} (is : compact s = before ++ 'n' :: after)
    (first : ∀ c ∈ before, isNumberChar c = true) (last : ∀ c ∈ after, isNumberChar c = true) :
    read? s = (factor? before).bind fun a => (summand? after).map fun b => linear a b := by
  have letter {c : Char} (other : isNumberChar c = false) : c ∉ before ∧ c ∉ after :=
    ⟨fun member => by simp [first c member] at other, fun member => by simp [last c member] at other⟩
  have odd : compact s ≠ ['o', 'd', 'd'] := by
    intro same
    have member : 'n' ∈ ['o', 'd', 'd'] := same ▸ is ▸ by simp
    exact absurd member (by decide)
  have even : compact s ≠ ['e', 'v', 'e', 'n'] := by
    intro same
    have member : 'e' ∈ before ++ 'n' :: after := is ▸ same ▸ by simp
    simp [letter (c := 'e') (by decide)] at member
  rw [read?_eq, if_neg (by simp [is]), if_neg odd, if_neg even, is, splitFirst?_append (letter (by decide)).1]
  simp only [linear?, List.contains_iff_mem, (letter (c := 'n') (by decide)).2, if_false]
  cases factor? before <;> cases summand? after <;> rfl

/-- A single position. One that is not positive is kept as a summand. -/
def ofPosition (i : Int64) : Nth := if i ≤ 0 then linear 0 i else exact i.toInt.toNat

theorem factor_ofPosition (i : Int64) : (ofPosition i).factor = 0 := by
  unfold ofPosition
  split <;> rfl

theorem summand_ofPosition (i : Int64) : (ofPosition i).summand = i.toInt := by
  unfold ofPosition
  split
  · rfl
  · rename_i positive
    rw [Int64.le_iff_toInt_le, Int64.toInt_zero] at positive
    exact Int.toNat_of_nonneg (by omega)

theorem position?_of_writes {s : List Char} {i : Int} (written : Writes s i) :
    position? s = (fitted? i).map ofPosition := by
  cases written with
  | bare numeral =>
    obtain ⟨c, rest, rfl, plus, _⟩ := numeral.exists_cons
    rw [← integer?_of_numeral numeral]
    unfold position?
    split
    · rename_i first
      exact absurd (List.cons.inj first).1 plus
    · rfl
  | plus numeral =>
    rw [← integer?_of_numeral numeral]
    rfl
  | minus numeral =>
    rw [← integer?_of_writes (.minus numeral)]
    rfl

theorem position?_signed {s : List Char} {i : Int} (written : Writes s i) :
    position? ('+' :: s) = (fitted? i).map ofPosition := by
  rw [← integer?_of_writes written]
  rfl

/-- What is read denotes something. -/
theorem exists_denotes {s : List Char} {formula : Nth} (accepted : read? s = some formula) :
    ∃ a b, Denotes (compact s) a b := by
  rw [read?_eq] at accepted
  split at accepted
  · simp at accepted
  · split at accepted
    · rename_i odd
      exact ⟨2, 1, odd ▸ .odd⟩
    · split at accepted
      · rename_i even
        exact ⟨2, 0, even ▸ .even⟩
      · split at accepted
        · rename_i before after split
          unfold linear? at accepted
          split at accepted
          · simp at accepted
          · obtain ⟨a, first, accepted⟩ := Option.bind_eq_some_iff.mp accepted
            obtain ⟨b, last, _⟩ := Option.bind_eq_some_iff.mp accepted
            obtain ⟨i, factor⟩ := exists_writesFactor first
            obtain ⟨j, summand⟩ := exists_writesSummand last
            exact ⟨i, j, (eq_append_of_splitFirst? split).1 ▸ .linear factor summand⟩
        · unfold position? at accepted
          simp only [] at accepted
          obtain ⟨word, found, _⟩ := Option.map_eq_some_iff.mp accepted
          obtain ⟨i, written⟩ := exists_writes found
          split at written
          · rename_i is
            exact ⟨0, i, is ▸ .signed written⟩
          · exact ⟨0, i, .position written⟩

/-- What a text is read as if it denotes a factor and a summand: they are those of the formula, and there is a
formula if they fit into 64 bits. -/
structure ReadAs (s : List Char) (a b : Int) : Prop where
  accepts : -2 ^ 63 ≤ a → a < 2 ^ 63 → -2 ^ 63 < b → b < 2 ^ 63 → (read? s).isSome = true
  agrees : ∀ formula, read? s = some formula → formula.factor = a ∧ formula.summand = b
  fits : ∀ formula, read? s = some formula → b < 2 ^ 63

theorem readAs_of_position {s : List Char} {i : Int} (read : read? s = (fitted? i).map ofPosition) :
    ReadAs s 0 i := by
  refine ⟨fun _ _ low high => ?_, fun formula accepted => ?_, fun formula accepted => ?_⟩
  · obtain ⟨word, found⟩ := exists_fitted (by omega) high
    rw [read, found]
    rfl
  · rw [read] at accepted
    obtain ⟨word, found, rfl⟩ := Option.map_eq_some_iff.mp accepted
    exact ⟨factor_ofPosition word, (summand_ofPosition word).trans (fitted?_eq_some_iff.mp found)⟩
  · rw [read] at accepted
    obtain ⟨word, found, _⟩ := Option.map_eq_some_iff.mp accepted
    exact fitted?_eq_some_iff.mp found ▸ word.toInt_lt

theorem readAs_of_linear {s before after : List Char} {a b : Int} (is : compact s = before ++ 'n' :: after)
    (first : WritesFactor before a) (last : WritesSummand after b) : ReadAs s a b := by
  have read := read?_of_linear is first.isNumberChar last.isNumberChar
  rw [factor?_of_writes first, summand?_of_writes last] at read
  have words {formula : Nth} (accepted : read? s = some formula) :
      ∃ factor summand, formula = .linear factor summand ∧ factor.toInt = a ∧ summand.toInt = b := by
    rw [read] at accepted
    obtain ⟨factor, foundA, accepted⟩ := Option.bind_eq_some_iff.mp accepted
    obtain ⟨summand, foundB, rfl⟩ := Option.map_eq_some_iff.mp accepted
    split at foundB
    · simp at foundB
    · exact ⟨factor, summand, rfl, fitted?_eq_some_iff.mp foundA, fitted?_eq_some_iff.mp foundB⟩
  refine ⟨fun lowA highA lowB highB => ?_, fun formula accepted => ?_, fun formula accepted => ?_⟩
  · obtain ⟨factor, foundA⟩ := exists_fitted lowA highA
    obtain ⟨summand, foundB⟩ := exists_fitted (by omega) highB
    rw [read, if_neg (by omega), foundA, foundB]
    rfl
  · obtain ⟨factor, summand, rfl, is⟩ := words accepted
    exact is
  · obtain ⟨_, summand, _, _, rfl⟩ := words accepted
    exact summand.toInt_lt

theorem readAs_of_denotes {s : List Char} {a b : Int} (denotes : Denotes (compact s) a b) : ReadAs s a b := by
  generalize is : compact s = text at denotes
  cases denotes with
  | odd =>
    have read : read? s = some odd := by simp [read?_eq, is]
    exact ⟨by simp [read], by simp [read, factor, summand], fun _ _ => by omega⟩
  | even =>
    have read : read? s = some even := by simp [read?_eq, is]
    exact ⟨by simp [read], by simp [read, factor, summand], fun _ _ => by omega⟩
  | position written =>
    have read := read?_of_number (is ▸ written.ne_nil) (is ▸ written.isNumberChar)
    rw [is, position?_of_writes written] at read
    exact readAs_of_position read
  | signed written =>
    have read := read?_of_number (s := s) (is ▸ List.cons_ne_nil _ _)
      (is ▸ List.forall_mem_cons.mpr ⟨by decide, written.isNumberChar⟩)
    rw [is, position?_signed written] at read
    exact readAs_of_position read
  | linear first last => exact readAs_of_linear is first last

/-! Arithmetic within 64 bits. -/

/-- Whether a position is selected, with every operand and every result within 64 bits. A remainder overflows
where the quotient does. -/
def evaluate? (formula : Nth) (position : Nat) : Option Bool := do
  let p ← fitted? position
  match formula with
  | exact n => return p == (← fitted? n)
  | odd => return (← fitted? (p.toInt.tmod 2)) == 1
  | even => return (← fitted? (p.toInt.tmod 2)) == 0
  | linear a b =>
    if a == 0 then return p == b
    let distance ← fitted? (p.toInt - b.toInt)
    let quotient ← fitted? (distance.toInt.tdiv a.toInt)
    let remainder ← fitted? (distance.toInt.tmod a.toInt)
    return remainder == 0 && quotient ≥ 0

/-- The numbers of a formula. -/
theorem selects_iff_exists {formula : Nth} {position : Nat} :
    formula.Selects position ↔ ∃ n : Nat, (position : Int) = formula.factor * n + formula.summand := by
  cases formula with
  | exact k => simp [Selects, factor, summand]
  | odd | even =>
    simp only [Selects, factor, summand]
    constructor
    · exact fun rest => ⟨position / 2, by omega⟩
    · rintro ⟨n, is⟩
      omega
  | linear a b => rfl

/-- Division by something else than zero does not lead away from zero. -/
theorem exists_fitted_tdiv {d a : Int} (low : -2 ^ 63 < d) (high : d < 2 ^ 63) :
    ∃ quotient, fitted? (d.tdiv a) = some quotient := by
  have bound : (d.tdiv a).natAbs ≤ d.natAbs := by
    rw [Int.natAbs_tdiv]
    exact Nat.div_le_self _ _
  exact exists_fitted (by omega) (by omega)

theorem exists_fitted_tmod {d a : Int} (low : -2 ^ 63 < d) (high : d < 2 ^ 63) :
    ∃ remainder, fitted? (d.tmod a) = some remainder := by
  have bound : (d.tmod a).natAbs ≤ d.natAbs := by
    rw [Int.natAbs_tmod]
    exact Nat.mod_le _ _
  exact exists_fitted (by omega) (by omega)

theorem evaluate?_linear {a b : Int64} {position : Nat} (small : position < 2 ^ 63)
    (near : a = 0 ∨ (position : Int) - b.toInt < 2 ^ 63) :
    ∃ selected, (linear a b).evaluate? position = some selected ∧
      (selected = true ↔ (linear a b).Selects position) := by
  obtain ⟨p, first⟩ := exists_fitted (i := position) (by omega) (by omega)
  have value := fitted?_eq_some_iff.mp first
  by_cases zero : a = 0
  · refine ⟨p == b, by simp [evaluate?, first, zero], ?_⟩
    rw [beq_iff_eq, ← Int64.toInt_inj, value, zero]
    simp [Selects]
  · have near := near.resolve_left zero
    have high := b.toInt_lt
    have factor : a.toInt ≠ 0 := fun none => zero (Int64.toInt_inj.mp none)
    obtain ⟨distance, second⟩ := exists_fitted (i := p.toInt - b.toInt) (by omega) (by omega)
    have between := fitted?_eq_some_iff.mp second
    obtain ⟨quotient, third⟩ := exists_fitted_tdiv (a := a.toInt) (d := distance.toInt) (by omega) (by omega)
    obtain ⟨remainder, fourth⟩ := exists_fitted_tmod (a := a.toInt) (d := distance.toInt) (by omega) (by omega)
    refine ⟨remainder == 0 && decide (quotient ≥ 0), ?_, ?_⟩
    · simp [evaluate?, first, zero, second, third, fourth]
    · rw [Bool.and_eq_true, beq_iff_eq, decide_eq_true_iff, ge_iff_le, Int64.le_iff_toInt_le, ← Int64.toInt_inj,
        Int64.toInt_zero, fitted?_eq_some_iff.mp third, fitted?_eq_some_iff.mp fourth,
        exists_factor_iff factor, between, value, Selects]
      exact exists_congr fun n => by omega

/-- A distance that is too large is the only thing that overflows. -/
theorem evaluate?_linear_eq_none {a b : Int64} {position : Nat} (factor : a ≠ 0)
    (far : 2 ^ 63 ≤ (position : Int) - b.toInt) : (linear a b).evaluate? position = none := by
  cases first : fitted? position with
  | none => simp [evaluate?, first]
  | some p =>
    have value := fitted?_eq_some_iff.mp first
    simp [evaluate?, first, factor, fitted?_eq_none (.inr (value ▸ far))]

theorem evaluate?_eq_some {formula : Nth} {position : Nat} (small : position < 2 ^ 63)
    (bound : formula.summand < 2 ^ 63)
    (near : formula.factor = 0 ∨ (position : Int) - formula.summand < 2 ^ 63) :
    ∃ selected, formula.evaluate? position = some selected ∧ (selected = true ↔ formula.Selects position) := by
  obtain ⟨p, first⟩ := exists_fitted (i := position) (by omega) (by omega)
  have value := fitted?_eq_some_iff.mp first
  -- The parity of a position is that of the integer, for it is not negative.
  have parity : ∃ rest, fitted? (p.toInt.tmod 2) = some rest ∧ rest.toInt = position % 2 := by
    obtain ⟨rest, second⟩ := exists_fitted_tmod (a := 2) (d := p.toInt) (by omega) (by omega)
    refine ⟨rest, second, ?_⟩
    rw [fitted?_eq_some_iff.mp second, value, Int.tmod_eq_emod_of_nonneg (Int.natCast_nonneg _)]
  cases formula with
  | exact n =>
    obtain ⟨word, second⟩ := exists_fitted (i := n) (by omega) bound
    refine ⟨p == word, by simp [evaluate?, first, second], ?_⟩
    rw [beq_iff_eq, ← Int64.toInt_inj, value, fitted?_eq_some_iff.mp second, Nat.cast_inj, Selects]
  | odd =>
    obtain ⟨rest, second, same⟩ := parity
    refine ⟨rest == 1, by simp [evaluate?, first, second], ?_⟩
    rw [beq_iff_eq, ← Int64.toInt_inj, same, Int64.toInt_one, Selects]
    omega
  | even =>
    obtain ⟨rest, second, same⟩ := parity
    refine ⟨rest == 0, by simp [evaluate?, first, second], ?_⟩
    rw [beq_iff_eq, ← Int64.toInt_inj, same, Int64.toInt_zero, Selects]
    omega
  | linear a b => exact evaluate?_linear small (near.imp_left fun zero => Int64.toInt_inj.mp zero)

/-- A formula that is read stands for what its text denotes: all texts whose numbers fit are read; as long as the
distance from the summand fits into 64 bits, no operation overflows and exactly the positions `a * n + b` with
`n ≥ 0` are selected; and a distance that does not fit overflows. -/
theorem selects_denoted (s : List Char) :
    (∀ formula, read? s = some formula → ∃ a b, Denotes (compact s) a b) ∧
    ∀ a b, Denotes (compact s) a b →
      (-2 ^ 63 ≤ a → a < 2 ^ 63 → -2 ^ 63 < b → b < 2 ^ 63 → (read? s).isSome = true) ∧
      ∀ formula, read? s = some formula → ∀ position : Nat, position < 2 ^ 63 →
        (a = 0 ∨ position - b < 2 ^ 63 → formula.evaluate? position = some (formula.selects position) ∧
          (formula.selects position = true ↔ ∃ n : Nat, (position : Int) = a * n + b)) ∧
        (a ≠ 0 → 2 ^ 63 ≤ position - b → formula.evaluate? position = none) := by
  refine ⟨fun formula => exists_denotes, fun a b denotes => ?_⟩
  have reads := readAs_of_denotes denotes
  refine ⟨reads.accepts, fun formula accepted position small => ?_⟩
  have bound := reads.fits formula accepted
  obtain ⟨rfl, rfl⟩ := reads.agrees formula accepted
  refine ⟨fun near => ?_, fun factor far => ?_⟩
  · obtain ⟨selected, result, right⟩ := evaluate?_eq_some small bound near
    have fits : formula.Fits position := by
      cases formula with
      | linear a b => exact ⟨by omega, near.imp_left fun zero => Int64.toInt_inj.mp zero⟩
      | exact | odd | even => trivial
    have selects := selects_iff fits (Nat.le_refl position)
    have same : selected = formula.selects position := Bool.eq_iff_iff.mpr (right.trans selects.symm)
    exact ⟨same ▸ result, selects.trans selects_iff_exists⟩
  · cases formula with
    | linear a b => exact evaluate?_linear_eq_none (fun zero => factor (congrArg Int64.toInt zero)) far
    | exact n => exact absurd rfl factor
    | odd | even => simp only [summand] at far; omega

/-- Every fourth position from the third on, written with blanks and capitals. -/
theorem selects_denoted_spaced :
    Denotes (compact " +4 N - 1".toList) 4 (-1) ∧ read? " +4 N - 1".toList = some (linear 4 (-1)) ∧
      (linear 4 (-1)).selects 7 = true ∧ (linear 4 (-1)).evaluate? 7 = some true := by
  have text : compact " +4 N - 1".toList = ['+', '4'] ++ 'n' :: ['-', '1'] := by decide +kernel
  have four : WritesFactor ['+', '4'] 4 := .number (.plus ⟨List.cons_ne_nil '4' [], by decide⟩)
  have one : WritesSummand ['-', '1'] (-1) := .minus ⟨List.cons_ne_nil '1' [], by decide⟩
  have denotes : Denotes (compact " +4 N - 1".toList) 4 (-1) := text ▸ .linear four one
  have accepted : read? " +4 N - 1".toList = some (linear 4 (-1)) := by decide +kernel
  obtain ⟨exact, right⟩ := (((selects_denoted _).2 4 (-1) denotes).2 _ accepted 7 (by decide)).1 (.inr (by decide))
  have selected : (linear 4 (-1)).selects 7 = true := right.mpr ⟨2, by decide⟩
  exact ⟨denotes, accepted, selected, selected ▸ exact⟩

/-- The first position is that of `n = 2 ^ 63` in this formula. It is not selected, for its distance from the
summand does not fit into 64 bits, and so the formula selects no paragraph on a page that has one. -/
theorem position_not_selected :
    read? "n-9223372036854775807".toList = some (linear 1 (-9223372036854775807)) ∧
      Denotes (compact "n-9223372036854775807".toList) 1 (-9223372036854775807) ∧
      ((1 : Nat) : Int) = 1 * ((9223372036854775808 : Nat) : Int) + -9223372036854775807 ∧
      (linear 1 (-9223372036854775807)).selects 1 = false ∧
      (linear 1 (-9223372036854775807)).evaluate? 1 = none ∧
      Css.position? (Page.ofMarkup "<p></p>").tree .fromFirst ⟨1⟩ = some 1 ∧
      select (Page.ofMarkup "<p></p>").tree PageTree.root "p:nth-child(n-9223372036854775807)" = .ok [] := by
  have text : compact "n-9223372036854775807".toList = [] ++ 'n' :: "-9223372036854775807".toList := by
    decide +kernel
  have least : WritesSummand "-9223372036854775807".toList (-9223372036854775807) := by
    have split : "-9223372036854775807".toList = '-' :: "9223372036854775807".toList := by decide +kernel
    have value : Decimal.ofDigits "9223372036854775807".toList = 9223372036854775807 := by decide +kernel
    have written := @WritesSummand.minus "9223372036854775807".toList
      ⟨by decide +kernel, by decide +kernel⟩
    rw [value] at written
    exact split ▸ written
  exact ⟨by decide +kernel, text ▸ .linear .one least, by decide, by decide +kernel, by decide +kernel,
    by decide +kernel, by decide +kernel⟩

end Nth

end CosmeticRules.Css
