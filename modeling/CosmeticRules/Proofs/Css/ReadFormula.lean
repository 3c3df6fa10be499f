import CosmeticRules.Proofs.Css.NestedText
import CosmeticRules.Proofs.Text.Split

/-!
The printed argument of a counting pseudo-class is read again.
-/

namespace CosmeticRules

theorem Decimal.ofDigits_toDigits (n : Nat) : ofDigits (Nat.toDigits 10 n) = n :=
  Nat.ofDigitChars_ten_toDigits

namespace Css

open Text

theorem exists_digits (n : Nat) : ∃ c rest, Nat.toDigits 10 n = c :: rest ∧ c.isDigit = true := by
  obtain ⟨c, rest, split⟩ := List.exists_cons_of_ne_nil (Nat.toDigits_ne_nil (n := n) (b := 10))
  exact ⟨c, rest, split, isDigit_of_mem_digits (split ▸ List.mem_cons_self)⟩

theorem digits_all (n : Nat) : (Nat.toDigits 10 n).all Char.isDigit = true :=
  List.all_eq_true.mpr fun _ member => isDigit_of_mem_digits member

/-- What a character must not be when it is a digit. -/
theorem ne_of_isDigit {c d : Char} (digit : c.isDigit = true) (other : d.isDigit = false) : c ≠ d := by
  rintro rfl
  simp [digit] at other

theorem integer?_cons {c : Char} {rest : List Char} {n : Nat} (is : Nat.toDigits 10 n = c :: rest)
    (bound : (n : Int) ≤ Int64.maxValue.toInt) : integer? (c :: rest) = some (Int64.ofInt n) := by
  have digit : c.isDigit = true := isDigit_of_mem_digits (is ▸ List.mem_cons_self)
  have bounds : Int64.minValue.toInt ≤ n ∧ n ≤ Int64.maxValue.toInt := by
    refine ⟨?_, bound⟩
    rw [Int64.toInt_minValue]
    omega
  have minus : c ≠ '-' := ne_of_isDigit digit (by decide)
  have plus : c ≠ '+' := ne_of_isDigit digit (by decide)
  unfold integer?
  split
  rename_i negative digits sign
  split at sign
  · rename_i first
    exact absurd (List.cons.inj first).1 minus
  · rename_i first
    exact absurd (List.cons.inj first).1 plus
  · obtain ⟨rfl, rfl⟩ := Prod.mk.inj sign
    rw [← is]
    simp [digits_all, Nat.toDigits_ne_nil, Decimal.ofDigits_toDigits, bounds]

theorem integer?_minus {n : Nat} (bound : Int64.minValue.toInt ≤ -n) :
    integer? ('-' :: Nat.toDigits 10 n) = some (Int64.ofInt (-n)) := by
  have bounds : Int64.minValue.toInt ≤ -n ∧ -n ≤ Int64.maxValue.toInt := by
    refine ⟨bound, ?_⟩
    rw [Int64.toInt_maxValue]
    omega
  simp only [integer?, List.isEmpty_eq_false_iff.mpr Nat.toDigits_ne_nil, digits_all, Decimal.ofDigits_toDigits,
    Bool.not_true, Bool.or_self, Bool.false_eq_true, if_false, if_true, if_pos bounds]

theorem integer?_digits {n : Nat} (bound : (n : Int) ≤ Int64.maxValue.toInt) :
    integer? (Nat.toDigits 10 n) = some (Int64.ofInt n) := by
  obtain ⟨c, rest, split, _⟩ := exists_digits n
  exact split ▸ integer?_cons split bound

theorem integer?_signed (i : Int64) : integer? (signed i.toInt) = some i := by
  have low := i.le_toInt
  have high := i.toInt_lt
  unfold signed
  split
  · rename_i negative
    rw [integer?_minus (by rw [Int64.toInt_minValue]; omega), ← Int.eq_neg_natAbs_of_nonpos (by omega),
      Int64.ofInt_toInt]
  · rename_i positive
    rw [integer?_digits (by rw [Int64.toInt_maxValue]; omega), Int.natAbs_of_nonneg (by omega), Int64.ofInt_toInt]

theorem mem_signed {i : Int} {c : Char} (member : c ∈ signed i) : c = '-' ∨ c.isDigit = true := by
  unfold signed at member
  split at member
  · exact (List.mem_cons.mp member).imp_right isDigit_of_mem_digits
  · exact .inr (isDigit_of_mem_digits member)

namespace Nth

theorem factor?_signed (a : Int64) : factor? (signed a.toInt) = some a := by
  have digits := exists_digits a.toInt.natAbs
  have other : ¬(signed a.toInt = [] ∨ signed a.toInt = ['+']) ∧ signed a.toInt ≠ ['-'] := by
    obtain ⟨c, rest, split, digit⟩ := digits
    have minus : c ≠ '-' := ne_of_isDigit digit (by decide)
    have plus : c ≠ '+' := ne_of_isDigit digit (by decide)
    unfold signed
    split_ifs <;> simp [split, minus, plus]
  rw [factor?, if_neg other.1, if_neg other.2, integer?_signed]

theorem summand?_print {b : Int64} (least : Int64.minValue < b) :
    summand? ((if b.toInt < 0 then '-' else '+') :: Nat.toDigits 10 b.toInt.natAbs) = some b := by
  have low := b.le_toInt
  have high := b.toInt_lt
  rw [Int64.lt_iff_toInt_lt, Int64.toInt_minValue] at least
  obtain ⟨c, rest, split, digit⟩ := exists_digits b.toInt.natAbs
  have minus : c ≠ '-' := ne_of_isDigit digit (by decide)
  have plus : c ≠ '+' := ne_of_isDigit digit (by decide)
  have read := integer?_digits (n := b.toInt.natAbs) (by rw [Int64.toInt_maxValue]; omega)
  rw [split] at read ⊢
  split_ifs with negative
  · have opposite : -Int64.ofInt (b.toInt.natAbs : Int) = b := by
      rw [← Int64.ofInt_neg, ← Int.eq_neg_natAbs_of_nonpos (by omega), Int64.ofInt_toInt]
    simp only [summand?, List.head?_cons, Option.some.injEq, minus, plus, or_self, if_false, if_true, read,
      Option.map_some, opposite, Char.reduceEq]
  · have same : Int64.ofInt (b.toInt.natAbs : Int) = b := by
      rw [Int.natAbs_of_nonneg (by omega), Int64.ofInt_toInt]
    simp only [summand?, List.head?_cons, Option.some.injEq, minus, plus, or_self, if_false, if_true, read, same]

/-- Blanks and capitals do not occur in a formula. -/
theorem compact_eq {s : List Char} (chars : ∀ c ∈ s, c = '-' ∨ c = '+' ∨ c = 'n' ∨ c.isDigit = true) :
    asciiLower (s.filter (!isAsciiBlank ·)) = s := by
  have digits {c : Char} (digit : c.isDigit = true) : isAsciiBlank c = false ∧ c.toLower = c := by
    have both := PlainText.forall_isPlainChar (p := fun c => !c.isDigit || (!isAsciiBlank c && c.toLower == c))
      (by decide +kernel) (isPlainChar_of_isDigit digit)
    simpa [digit] using both
  have kept : ∀ c ∈ s, isAsciiBlank c = false ∧ c.toLower = c := by
    intro c member
    rcases chars c member with rfl | rfl | rfl | digit
    · decide
    · decide
    · decide
    · exact digits digit
  rw [List.filter_eq_self.mpr fun c member => by simp [(kept c member).1]]
  exact (List.map_congr_left fun c member => (kept c member).2).trans (List.map_id s)

theorem position?_digits {n : Nat} (positive : 0 < n) (bound : (n : Int) ≤ Int64.maxValue.toInt) :
    position? (Nat.toDigits 10 n) = some (exact n) := by
  obtain ⟨c, rest, split, digit⟩ := exists_digits n
  have plus : c ≠ '+' := ne_of_isDigit digit (by decide)
  have read := integer?_digits bound
  rw [Int64.toInt_maxValue] at bound
  have value : (Int64.ofInt n).toInt = n := Int64.toInt_ofInt_of_le (by omega) (by omega)
  have above : ¬Int64.ofInt (n : Int) ≤ 0 := by
    rw [Int64.le_iff_toInt_le, value, Int64.toInt_zero]
    omega
  rw [split] at read ⊢
  unfold position?
  split
  · rename_i first
    exact absurd (List.cons.inj first).1 plus
  · simp only [read, Option.map_some, if_neg above, value, Int.toNat_natCast]

/-- A formula that does not begin with a letter is a position or has a factor. -/
theorem read?_of_head {s rest : List Char} {c : Char} (is : s = c :: rest) (head : c = '-' ∨ c.isDigit = true)
    (chars : ∀ c ∈ s, c = '-' ∨ c = '+' ∨ c = 'n' ∨ c.isDigit = true) :
    read? s = match splitFirst? 'n' s with
      | some (before, after) => linear? before after
      | none => position? s := by
  have letter (d : Char) (other : d ≠ '-') (word : d.isDigit = false) : c ≠ d := by
    rcases head with rfl | digit
    · exact Ne.symm other
    · exact ne_of_isDigit digit word
  have o := letter 'o' (by decide) (by decide)
  have e := letter 'e' (by decide) (by decide)
  unfold read?
  rw [compact_eq chars, is]
  refine (if_neg ?_).trans ((if_neg ?_).trans ((if_neg ?_).trans rfl))
  · exact List.cons_ne_nil c rest
  · exact fun same => o (List.cons.inj same).1
  · exact fun same => e (List.cons.inj same).1

theorem read?_exact {n : Nat} (positive : 0 < n) (bound : (n : Int) ≤ Int64.maxValue.toInt) :
    read? (exact n).print = some (exact n) := by
  obtain ⟨c, rest, split, digit⟩ := exists_digits n
  have digits (c : Char) (member : c ∈ Nat.toDigits 10 n) : c.isDigit = true := isDigit_of_mem_digits member
  have fresh : 'n' ∉ Nat.toDigits 10 n := fun member => absurd (digits 'n' member) (by decide)
  rw [print, read?_of_head split (.inr digit) fun c member => .inr (.inr (.inr (digits c member))),
    splitFirst?_eq_none fresh]
  exact position?_digits positive bound

theorem read?_linear (a : Int64) {b : Int64} (least : Int64.minValue < b) :
    read? (linear a b).print = some (linear a b) := by
  have fresh : 'n' ∉ signed a.toInt := fun member => absurd (mem_signed member) (by decide)
  have last : 'n' ∉ (if b.toInt < 0 then '-' else '+') :: Nat.toDigits 10 b.toInt.natAbs := by
    refine fun member => (List.mem_cons.mp member).elim ?_ fun digit => ?_
    · split_ifs <;> decide
    · exact absurd (isDigit_of_mem_digits digit) (by decide)
  have chars : ∀ c ∈ (linear a b).print, c = '-' ∨ c = '+' ∨ c = 'n' ∨ c.isDigit = true := by
    intro c member
    rw [print, List.mem_append, List.mem_cons, List.mem_cons] at member
    rcases member with factor | rfl | sign | digit
    · exact (mem_signed factor).imp_right fun digit => .inr (.inr digit)
    · exact .inr (.inr (.inl rfl))
    · split_ifs at sign <;> simp [sign]
    · exact .inr (.inr (.inr (isDigit_of_mem_digits digit)))
  obtain ⟨c, rest, split⟩ : ∃ c rest, signed a.toInt = c :: rest := by
    refine List.exists_cons_of_ne_nil ?_
    unfold signed
    split_ifs <;> simp
  have head : c = '-' ∨ c.isDigit = true := mem_signed (split ▸ List.mem_cons_self)
  have is : (linear a b).print = c :: (rest ++ 'n' :: (if b.toInt < 0 then '-' else '+') ::
      Nat.toDigits 10 b.toInt.natAbs) := by
    rw [print, split, List.cons_append]
  rw [read?_of_head is head chars, print, splitFirst?_append fresh]
  simp only [linear?, List.contains_iff_mem, last, if_false, factor?_signed, summand?_print least]
  rfl

/-- The print of a formula is read as that formula. -/
theorem read?_print {formula : Nth} (printable : formula.isPrintable = true) :
    read? formula.print = some formula := by
  cases formula with
  | exact position =>
    obtain ⟨positive, bound⟩ := Bool.and_eq_true_iff.mp printable
    exact read?_exact (of_decide_eq_true positive) (of_decide_eq_true bound)
  | odd => rfl
  | even => rfl
  | linear a b => exact read?_linear a (of_decide_eq_true printable)

end Nth

end Css

end CosmeticRules
