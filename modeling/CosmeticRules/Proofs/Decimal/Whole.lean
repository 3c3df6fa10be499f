import CosmeticRules.Decimal.Numeral
import Mathlib

/-!
Whole numbers as doubles. A number of at most 53 binary digits is a double of its own, these doubles compare as
the numbers do, and a number with more digits is a greater double than any of them.
-/

namespace CosmeticRules.Binary64

open Float.Model Float.Model.UnpackedFloat

variable {m n k : Nat} {e : Int} {s : Sign} {accuracy : Accuracy}

/-! The number of binary digits. -/

theorem log2_half (m : Nat) : (m / 2).log2 = m.log2 - 1 := by
  rw [Nat.log2_def m]
  split
  · rfl
  · have small : m / 2 = 0 := by omega
    rw [small]
    rfl

theorem log2_shiftRight (m k : Nat) : (m >>> k).log2 = m.log2 - k := by
  induction k with
  | zero => rfl
  | succ k ih => rw [Nat.shiftRight_succ, log2_half, ih, Nat.sub_sub]

theorem shiftLeft_pos (pos : 0 < m) (k : Nat) : 0 < m <<< k := by
  rw [Nat.shiftLeft_eq]
  exact Nat.mul_pos pos (Nat.two_pow_pos k)

theorem log2_shiftLeft (pos : 0 < m) (k : Nat) : (m <<< k).log2 = m.log2 + k := by
  induction k with
  | zero => rfl
  | succ k ih =>
    have twice : m <<< (k + 1) = 2 * m <<< k := Nat.shiftLeft_succ m k
    rw [twice, Nat.log2_two_mul (Nat.ne_of_gt (shiftLeft_pos pos k)), ih, Nat.add_assoc]

/-! Rounding to 53 binary digits. -/

theorem mantissa_shiftRight (x : ExtendedMantissa) (k : Nat) : (x >>> k).mantissa = x.mantissa >>> k := by
  induction k with
  | zero => rfl
  | succ k ih =>
    rw [Nat.shiftRight_succ, ← ih]
    rfl

theorem shiftRight_exact (m k : Nat) : (⟨m <<< k, false, false⟩ : ExtendedMantissa) >>> k = ⟨m, false, false⟩ := by
  induction k generalizing m with
  | zero => rfl
  | succ k ih =>
    -- The last step of the shift takes away the lowest digit, which is zero.
    have more : (⟨m <<< (k + 1), false, false⟩ : ExtendedMantissa) >>> k = ⟨2 * m, false, false⟩ := by
      have text : m <<< (k + 1) = (2 * m) <<< k := by
        rw [Nat.shiftLeft_eq, Nat.shiftLeft_eq, Nat.pow_succ, Nat.mul_comm 2 m, Nat.mul_assoc, Nat.mul_comm 2]
      rw [text, ih]
    have step : (⟨m <<< (k + 1), false, false⟩ : ExtendedMantissa) >>> (k + 1) =
        ((⟨m <<< (k + 1), false, false⟩ : ExtendedMantissa) >>> k).shiftRightOne := rfl
    rw [step, more]
    simp [ExtendedMantissa.shiftRightOne]

theorem le_roundedMantissa (x : ExtendedMantissa) : x.mantissa ≤ x.roundedMantissa := by
  obtain ⟨m, round, sticky⟩ := x
  cases round <;> cases sticky <;>
    simp [ExtendedMantissa.roundedMantissa, ExtendedMantissa.accuracy, Accuracy.roundToNearestEven]

theorem mantissa_ofMantissaAndAccuracy (m : Nat) (accuracy : Accuracy) :
    (ExtendedMantissa.ofMantissaAndAccuracy m accuracy).mantissa = m := by
  cases accuracy with
  | exact => rfl
  | inexact order => cases order <;> rfl

/-- A number with at least 53 digits is shifted until it has 53. -/
theorem shiftToTargetExponent_eq (wide : 52 ≤ m.log2) (normal : -1074 ≤ e + (m.log2 - 52 : Nat)) :
    shiftToTargetExponent .binary64 m e accuracy =
      (ExtendedMantissa.ofMantissaAndAccuracy m accuracy >>> (m.log2 - 52), e + (m.log2 - 52 : Nat)) := by
  have target : Format.binary64.targetExponent (totalExponent m e) = e + (m.log2 - 52 : Nat) := by
    have least : Format.binary64.minExponent = -1074 := rfl
    have digits : Format.binary64.mantissaBits = 53 := rfl
    rw [Format.targetExponent, totalExponent, least, digits]
    omega
  rw [shiftToTargetExponent, target, shiftToExponent]
  have amount : (e + (m.log2 - 52 : Nat) - e).toNat = m.log2 - 52 := by omega
  rw [amount]

/-- Rounding leaves 53 digits and makes no number less. -/
theorem exists_roundWithAccuracy (accuracy : Accuracy) (wide : 52 ≤ m.log2) (normal : -1074 ≤ e + (m.log2 - 52 : Nat)) :
    ∃ rounded exponent positive, roundWithAccuracy .binary64 s m e accuracy = .finite s rounded exponent positive ∧
      rounded.log2 = 52 ∧ e + (m.log2 - 52 : Nat) ≤ exponent := by
  rw [roundWithAccuracy, shiftToTargetExponent_eq wide normal]
  dsimp only
  generalize first : ExtendedMantissa.ofMantissaAndAccuracy m accuracy >>> (m.log2 - 52) = shifted
  have digits : shifted.mantissa.log2 = 52 := by
    rw [← first, mantissa_shiftRight, mantissa_ofMantissaAndAccuracy, log2_shiftRight]
    omega
  have wide' : 52 ≤ shifted.roundedMantissa.log2 := by
    have more := le_roundedMantissa shifted
    have some : shifted.mantissa ≠ 0 := by
      intro zero
      rw [zero, Nat.log2_zero] at digits
      omega
    rw [Nat.le_log2 (by omega)]
    exact Nat.le_trans ((Nat.le_log2 some).mp (Nat.le_of_eq digits.symm)) more
  have normal' : -1074 ≤ e + (m.log2 - 52 : Nat) + (shifted.roundedMantissa.log2 - 52 : Nat) := by omega
  rw [shiftToTargetExponent_eq wide' normal']
  dsimp only
  have final : (ExtendedMantissa.ofMantissaAndAccuracy shifted.roundedMantissa .exact >>>
      (shifted.roundedMantissa.log2 - 52)).mantissa.log2 = 52 := by
    rw [mantissa_shiftRight, mantissa_ofMantissaAndAccuracy, log2_shiftRight]
    omega
  split
  · rename_i zero
    rw [zero, Nat.log2_zero] at final
    omega
  · rename_i some
    exact ⟨_, _, Nat.pos_of_ne_zero some, rfl, final, by omega⟩

/-- A number of 53 digits with zeros after them is rounded to itself. -/
theorem roundWithAccuracy_exact (digits : m.log2 = 52) (normal : -1074 ≤ e + k) (positive : 0 < m) :
    roundWithAccuracy .binary64 s (m <<< k) e .exact = .finite s m (e + k) positive := by
  have wide : (m <<< k).log2 = 52 + k := by rw [log2_shiftLeft positive, digits]
  have shifted : (m <<< k).log2 - 52 = k := by omega
  have first : shiftToTargetExponent .binary64 (m <<< k) e .exact = (⟨m, false, false⟩, e + k) := by
    rw [shiftToTargetExponent_eq (by omega) (by omega), shifted]
    exact congrArg (·, e + (k : Int)) (shiftRight_exact m k)
  have second : shiftToTargetExponent .binary64 m (e + k) .exact = (⟨m, false, false⟩, e + k) := by
    rw [shiftToTargetExponent_eq (by omega) (by omega), digits]
    exact congrArg (_, ·) (Int.add_zero _)
  rw [roundWithAccuracy, first]
  dsimp only
  have rounded : (⟨m, false, false⟩ : ExtendedMantissa).roundedMantissa = m := rfl
  rw [rounded, second]
  dsimp only
  rw [dif_neg (Nat.ne_of_gt positive)]

/-! The double of 53 digits and an exponent. -/

/-- The leading digit is not stored, and comes back. -/
theorem toNat_leading (digits : m.log2 = 52) : (1#1 ++ BitVec.ofNat 52 m).toNat = m := by
  have bounds := (Nat.log2_eq_iff (n := m) (k := 52) (by rintro rfl; simp at digits)).mp digits
  rw [BitVec.toNat_append, ← Nat.shiftLeft_add_eq_or_of_lt (BitVec.ofNat 52 m).isLt, BitVec.toNat_ofNat,
    BitVec.toNat_ofNat, Nat.shiftLeft_eq]
  omega

/-- The fields of a double of 53 digits. -/
theorem pack_finite (digits : m.log2 = 52) (low : -1074 ≤ e) (positive : 0 < m) (finite : e ≤ 971) :
    UnpackedFloat.pack .binary64 (.finite s m e positive) =
      packComponents .binary64 s (BitVec.ofNat 11 (e + 1075).toNat) (BitVec.ofNat 52 m) := by
  have bias : (Format.binary64.exponentBias : Int) = 1023 := rfl
  have stored : (Format.binary64.mantissaBitsWithoutImplicit : Int) = 52 := rfl
  have biased : e + Format.binary64.exponentBias + Format.binary64.mantissaBitsWithoutImplicit = e + 1075 := by
    rw [bias, stored, Int.add_assoc]
    rfl
  have wide : 52 + 1 = Format.binary64.mantissaBits := rfl
  rw [UnpackedFloat.pack]
  simp only [digits, biased]
  rw [if_neg (by omega), if_pos wide]

theorem pack_infinite (low : 971 < e) (positive : 0 < m) :
    UnpackedFloat.pack .binary64 (.finite s m e positive) = packedInfinity .binary64 s := by
  have bias : (Format.binary64.exponentBias : Int) = 1023 := rfl
  have stored : (Format.binary64.mantissaBitsWithoutImplicit : Int) = 52 := rfl
  rw [UnpackedFloat.pack]
  simp only [bias, stored]
  rw [if_pos (by omega)]

theorem ofNat_toNat_ne {x : Nat} {b : BitVec 11} (small : x < 2048) (other : x ≠ b.toNat) : BitVec.ofNat 11 x ≠ b := by
  intro same
  have value := congrArg BitVec.toNat same
  rw [BitVec.toNat_ofNat, Nat.mod_eq_of_lt small] at value
  exact other value

/-- A number of 53 digits is unpacked as it was packed, unless it is too great. -/
theorem unpack_pack (digits : m.log2 = 52) (low : -1074 ≤ e) (positive : 0 < m) :
    unpack .binary64 (UnpackedFloat.pack .binary64 (.finite s m e positive)) =
      if e ≤ 971 then .finite s m e positive else .infinity s := by
  split
  · rename_i finite
    have exponent : (BitVec.ofNat 11 (e + 1075).toNat).toNat = (e + 1075).toNat := by
      rw [BitVec.toNat_ofNat, Nat.mod_eq_of_lt (by omega)]
    have notLast : BitVec.ofNat 11 (e + 1075).toNat ≠ -1#11 := ofNat_toNat_ne (by omega) (by simp; omega)
    have notFirst : BitVec.ofNat 11 (e + 1075).toNat ≠ 0#11 := ofNat_toNat_ne (by omega) (by simp; omega)
    have bias : (Format.binary64.exponentBias : Int) = 1023 := rfl
    rw [pack_finite digits low positive finite, UnpackedFloat.unpack]
    simp only [unpackExponent_packComponents, unpackMantissa_packComponents, unpackSign_packComponents,
      Sign.ofBitVec_toBitVec, if_neg notLast, if_neg notFirst, toNat_leading digits, exponent, bias]
    congr 1
    omega
  · rw [pack_infinite (by omega) positive]
    cases s <;> rfl

/-! Doubles of whole numbers. -/

/-- A whole number of at most 53 digits, filled up to 53 digits with zeros. -/
def whole (n : Nat) : Float.Model.UnpackedFloat :=
  if positive : 0 < n then .finite .positive (n <<< (52 - n.log2)) (n.log2 - 52) (shiftLeft_pos positive _)
  else .zero .positive

theorem log2_filled (positive : 0 < n) (narrow : n.log2 ≤ 52) : (n <<< (52 - n.log2)).log2 = 52 := by
  rw [log2_shiftLeft positive]
  omega

theorem lt_of_narrow (narrow : n.log2 ≤ 52) : n < UInt64.size := by
  have digits := Nat.pow_le_pow_right Nat.two_pos (Nat.succ_le_succ narrow)
  exact Nat.lt_of_lt_of_le Nat.lt_log2_self (Nat.le_trans digits (by decide))

theorem round_narrow (positive : 0 < n) (narrow : n.log2 ≤ 52) : UnpackedFloat.round .binary64 .positive n 0 = whole n := by
  have target : Format.binary64.targetExponent (totalExponent n 0) = (n.log2 : Int) - 52 := by
    have least : Format.binary64.minExponent = -1074 := rfl
    have digits : Format.binary64.mantissaBits = 53 := rfl
    rw [Format.targetExponent, totalExponent, least, digits]
    omega
  have amount : (0 - ((n.log2 : Int) - 52)).toNat = 52 - n.log2 := by omega
  have rounded := roundWithAccuracy_exact (s := .positive) (e := 0 - (52 - n.log2 : Nat)) (k := 0)
    (log2_filled positive narrow) (by omega) (shiftLeft_pos positive _)
  rw [Nat.shiftLeft_zero] at rounded
  rw [UnpackedFloat.round, target, decreaseExponent, amount]
  dsimp only
  rw [rounded, whole, dif_pos positive]
  congr 1
  omega

theorem toFloat_toUInt64 (positive : 0 < n) (narrow : n.log2 ≤ 52) :
    n.toUInt64.toFloat = .ofModel (.pack (whole n)) := by
  have value : n.toUInt64.toNat = n := Nat.mod_eq_of_lt (lt_of_narrow narrow)
  have sign : compare (n : Int) 0 = .gt := Int.compare_eq_gt.mpr (by omega)
  rw [UInt64.toFloat, Float.Model.ofUInt64, UnpackedFloat.ofUInt64, value, UnpackedFloat.ofNat, UnpackedFloat.ofInt,
    UnpackedFloat.normalize, sign]
  exact congrArg (fun x => Float.ofModel (.pack x)) (round_narrow positive narrow)

theorem unpack_whole (narrow : n.log2 ≤ 52) : (Float.Model.pack (whole n)).unpack = whole n := by
  unfold whole
  split
  · rename_i positive
    have kept := unpack_pack (s := .positive) (e := (n.log2 : Int) - 52) (log2_filled positive narrow) (by omega)
      (shiftLeft_pos positive _)
    rwa [if_pos (by omega)] at kept
  · rfl

/-- One, as a factor. -/
def one : Float.Model.UnpackedFloat := .finite .positive leadingBit (-52) (by decide)

theorem mul_one_whole (positive : 0 < n) (narrow : n.log2 ≤ 52) :
    UnpackedFloat.mul .binary64 (whole n) one = whole n := by
  rw [whole, dif_pos positive, one, UnpackedFloat.mul]
  have factor : n <<< (52 - n.log2) * leadingBit = n <<< (52 - n.log2) <<< 52 := (Nat.shiftLeft_eq _ 52).symm
  have exact := roundWithAccuracy_exact (s := .positive * .positive) (e := (n.log2 : Int) - 52 + -52) (k := 52)
    (log2_filled positive narrow) (by omega) (shiftLeft_pos positive _)
  rw [factor, exact]
  congr 1
  omega

/-- A whole number of at most 53 digits is converted exactly. -/
theorem ofNat_narrow (narrow : n.log2 ≤ 52) : Float.ofNat n = .ofModel (.pack (whole n)) := by
  rcases Nat.eq_zero_or_pos n with rfl | positive
  · decide +kernel
  have factor : Float.exactlyRepresentablePowersOfTen[0].toModel.unpack = one := rfl
  have fast := Nat.lt_of_lt_of_le Nat.lt_log2_self (Nat.pow_le_pow_right Nat.two_pos (Nat.succ_le_succ narrow))
  change Float.ofScientific _ _ _ = _
  rw [Float.ofScientific, dif_pos ⟨fast, Nat.zero_le 22⟩]
  simp only [Bool.false_eq_true, if_false]
  rw [toFloat_toUInt64 positive narrow]
  change Float.ofModel (.pack (UnpackedFloat.mul .binary64 (Float.Model.pack (whole n)).unpack
    Float.exactlyRepresentablePowersOfTen[0].toModel.unpack)) = _
  rw [factor, unpack_whole narrow, mul_one_whole positive narrow]

/-- A whole number of more than 53 digits is converted to a double above all others, or to infinity. -/
theorem unpack_ofNat_wide (wide : 53 ≤ n.log2) :
    (Float.ofNat n).toModel.unpack = .infinity .positive ∨
      ∃ rounded exponent positive, (Float.ofNat n).toModel.unpack = .finite .positive rounded exponent positive ∧
        0 < exponent := by
  have positive : 0 < n := by
    rcases Nat.eq_zero_or_pos n with rfl | positive
    · rw [Nat.log2_zero] at wide
      omega
    · exact positive
  have slow := Nat.not_lt.mpr (Nat.le_trans (Nat.pow_le_pow_right Nat.two_pos wide)
    (Nat.log2_self_le (Nat.ne_of_gt positive)))
  have digits : (n <<< 53).log2 = n.log2 + 53 := log2_shiftLeft positive 53
  obtain ⟨rounded, exponent, some, result, digits', above⟩ := exists_roundWithAccuracy (m := n <<< 53) (e := -53)
    (s := .positive) .exact (by omega) (by omega)
  have value : Float.ofNat n = .ofModel (.pack (.finite .positive rounded exponent some)) := by
    change Float.ofScientific _ _ _ = _
    rw [Float.ofScientific, dif_neg fun fast => slow fast.1]
    have notZero : n ≠ 0 := Nat.ne_of_gt positive
    have product : UnpackedFloat.ofScientific .binary64 n 0 = .finite .positive rounded exponent some := by
      have bits : Format.binary64.exponentBits = 11 := rfl
      rw [← result, UnpackedFloat.ofScientific, dif_neg notZero, if_neg (by decide), if_neg (by rw [bits]; omega),
        if_pos (Int.le_refl 0), UnpackedFloat.mul, Int.toNat_zero, Nat.pow_zero, Nat.mul_one]
      rfl
    exact congrArg (fun x => Float.ofModel (.pack x)) product
  have kept : (Float.ofNat n).toModel.unpack =
      if exponent ≤ 971 then .finite .positive rounded exponent some else .infinity .positive := by
    rw [value]
    exact unpack_pack digits' (by omega) some
  split at kept
  · exact .inr ⟨rounded, exponent, some, kept, by omega⟩
  · exact .inl kept

theorem log2_le_log2 (positive : 0 < m) (less : m ≤ n) : m.log2 ≤ n.log2 := by
  rw [Nat.le_log2 (by omega)]
  exact Nat.le_trans (Nat.log2_self_le (by omega)) less

theorem compare_filled (k : Nat) : compare (m <<< k) (n <<< k) = compare m n := by
  rw [Nat.shiftLeft_eq, Nat.shiftLeft_eq]
  have some : 0 < 2 ^ k := Nat.two_pow_pos k
  rcases Nat.lt_trichotomy m n with less | rfl | greater
  · rw [Nat.compare_eq_lt.mpr less, Nat.compare_eq_lt.mpr (Nat.mul_lt_mul_of_pos_right less some)]
  · rw [Nat.compare_eq_eq.mpr rfl, Nat.compare_eq_eq.mpr rfl]
  · rw [Nat.compare_eq_gt.mpr greater, Nat.compare_eq_gt.mpr (Nat.mul_lt_mul_of_pos_right greater some)]

/-- The exponent counts first, since all mantissas have as many digits. -/
theorem compare_whole (narrow : m.log2 ≤ 52) (narrow' : n.log2 ≤ 52) :
    (whole m).compare (whole n) = some (compare m n) := by
  rcases Nat.eq_zero_or_pos m with rfl | positive <;> rcases Nat.eq_zero_or_pos n with rfl | positive'
  · rfl
  · rw [Nat.compare_eq_lt.mpr positive', whole, whole, dif_pos positive', dif_neg (Nat.lt_irrefl 0)]
    rfl
  · rw [Nat.compare_eq_gt.mpr positive, whole, whole, dif_pos positive, dif_neg (Nat.lt_irrefl 0)]
    rfl
  rw [whole, whole, dif_pos positive, dif_pos positive', UnpackedFloat.compare]
  rcases Nat.lt_trichotomy m.log2 n.log2 with less | same | greater
  · have below : m < n := Nat.lt_of_not_le fun above => Nat.not_le_of_lt less (log2_le_log2 positive' above)
    rw [Int.compare_eq_lt.mpr (by omega), Nat.compare_eq_lt.mpr below]
    rfl
  · rw [Int.compare_eq_eq.mpr (by omega), same, compare_filled]
    rfl
  · have above : n < m := Nat.lt_of_not_le fun below => Nat.not_le_of_lt greater (log2_le_log2 positive below)
    rw [Int.compare_eq_gt.mpr (by omega), Nat.compare_eq_gt.mpr above]
    rfl

/-- The doubles of whole numbers compare as the numbers, if the first has at most 53 binary digits. -/
theorem compare_ofNat (narrow : m.log2 ≤ 52) (n : Nat) :
    (Float.ofNat m).toModel.compare (Float.ofNat n).toModel = some (compare m n) := by
  have first : (Float.ofNat m).toModel.unpack = whole m := by
    rw [ofNat_narrow narrow]
    exact unpack_whole narrow
  rw [Float.Model.compare, first]
  by_cases narrow' : n.log2 ≤ 52
  · have second : (Float.ofNat n).toModel.unpack = whole n := by
      rw [ofNat_narrow narrow']
      exact unpack_whole narrow'
    rw [second, compare_whole narrow narrow']
  · have positive : 0 < n := Nat.pos_of_ne_zero (by rintro rfl; exact narrow' (Nat.zero_le 52))
    have below : m < n := Nat.lt_of_not_le fun above => narrow' (Nat.le_trans (log2_le_log2 positive above) narrow)
    rw [Nat.compare_eq_lt.mpr below]
    unfold whole
    rcases unpack_ofNat_wide (Nat.lt_of_not_le narrow') with infinite | ⟨rounded, exponent, some, finite, above⟩
    · rw [infinite]
      split <;> rfl
    · rw [finite]
      split
      · rw [UnpackedFloat.compare, Int.compare_eq_lt.mpr (by omega)]
        rfl
      · rfl

theorem ofNat_beq_ofNat (narrow : m.log2 ≤ 52) (n : Nat) : (Float.ofNat m == Float.ofNat n) = true ↔ m = n := by
  change ((Float.ofNat m).toModel.compare (Float.ofNat n).toModel == some .eq) = true ↔ _
  rw [compare_ofNat narrow, beq_iff_eq, Option.some.injEq, Nat.compare_eq_eq]

theorem ofNat_le_ofNat (narrow : m.log2 ≤ 52) (n : Nat) : Float.ofNat m ≤ Float.ofNat n ↔ m ≤ n := by
  refine Iff.trans decide_eq_true_iff ?_
  change ((Float.ofNat m).toModel.compare (Float.ofNat n).toModel).any (·.isLE) = true ↔ _
  rw [compare_ofNat narrow]
  exact Nat.isLE_compare

theorem ofNat_lt_ofNat (narrow : m.log2 ≤ 52) (n : Nat) : Float.ofNat m < Float.ofNat n ↔ m < n := by
  refine Iff.trans decide_eq_true_iff ?_
  change ((Float.ofNat m).toModel.compare (Float.ofNat n).toModel == some .lt) = true ↔ _
  rw [compare_ofNat narrow, beq_iff_eq, Option.some.injEq, Nat.compare_eq_lt]

/-! Decimals without exponent. -/

theorem leadingExponent_whole (positive : 0 < n) : leadingExponent n 1 = n.log2 := by
  have guess : (n.log2 : Int) - (1 : Nat).log2 = n.log2 := Int.sub_zero _
  have notLess : ¬n < 1 <<< n.log2 := by
    rw [Nat.one_shiftLeft]
    exact Nat.not_lt.mpr (Nat.log2_self_le (Nat.ne_of_gt positive))
  rw [leadingExponent, guess, scaleDown, if_pos (Int.natCast_nonneg _)]
  exact if_neg notLess

theorem roundQuotient_one (m : Nat) : roundQuotient m 1 = m := by
  simp [roundQuotient, Nat.mod_one]

theorem scaleDown_whole (narrow : n.log2 ≤ 52) :
    scaleDown n 1 ((n.log2 : Int) - 52) = (n <<< (52 - n.log2), 1) := by
  rw [scaleDown]
  split
  · have digits : n.log2 = 52 := by omega
    rw [digits]
    rfl
  · have amount : (-((n.log2 : Int) - 52)).toNat = 52 - n.log2 := by omega
    rw [amount]

theorem filled_bounds (positive : 0 < n) (narrow : n.log2 ≤ 52) :
    leadingBit ≤ n <<< (52 - n.log2) ∧ n <<< (52 - n.log2) < 2 * leadingBit :=
  (Nat.log2_eq_iff (Nat.ne_of_gt (shiftLeft_pos positive _))).mp (log2_filled positive narrow)

theorem bitsOfQuotient_whole (positive : 0 < n) (narrow : n.log2 ≤ 52) :
    bitsOfQuotient n 1 = (n.log2 + 1022) * leadingBit + n <<< (52 - n.log2) := by
  have exponent : max (-1074) ((n.log2 : Int) - 52) = (n.log2 : Int) - 52 := by omega
  have shift : ((n.log2 : Int) - 52 + 1074).toNat = n.log2 + 1022 := by omega
  have bounds := filled_bounds positive narrow
  rw [bitsOfQuotient, if_neg (Nat.ne_of_gt positive), leadingExponent_whole positive, exponent]
  simp only [scaleDown_whole narrow, roundQuotient_one, shift]
  refine Nat.min_eq_left ?_
  have one : leadingBit = 4503599627370496 := rfl
  rw [one] at bounds ⊢
  omega

theorem toNat_packComponents {exponent : BitVec 11} {fraction : BitVec 52} :
    (packComponents .binary64 .positive exponent fraction).toNat = exponent.toNat * leadingBit + fraction.toNat := by
  have zero : Sign.positive.toBitVec.toNat = 0 := rfl
  rw [packComponents, BitVec.toNat_append, BitVec.toNat_append, zero, Nat.zero_shiftLeft, Nat.zero_or,
    ← Nat.shiftLeft_add_eq_or_of_lt fraction.isLt, Nat.shiftLeft_eq]
  rfl

theorem toBitVec_whole (positive : 0 < n) (narrow : n.log2 ≤ 52) :
    (UInt64.ofNat (bitsOfQuotient n 1)).toBitVec = UnpackedFloat.pack .binary64 (whole n) := by
  have bounds := filled_bounds positive narrow
  have one : leadingBit = 4503599627370496 := rfl
  rw [whole, dif_pos positive, pack_finite (log2_filled positive narrow) (by omega) _ (by omega)]
  refine BitVec.eq_of_toNat_eq ?_
  rw [toNat_packComponents, bitsOfQuotient_whole positive narrow, BitVec.toNat_ofNat, BitVec.toNat_ofNat,
    UInt64.toNat_toBitVec, UInt64.toNat_ofNat']
  rw [one] at bounds ⊢
  omega

theorem ofQuotient_whole (narrow : n.log2 ≤ 52) : ofQuotient n 1 = Float.ofNat n := by
  rcases Nat.eq_zero_or_pos n with rfl | positive
  · decide +kernel
  rw [ofNat_narrow narrow, ofQuotient, Float.ofBits, Float.Model.ofBits, toBitVec_whole positive narrow]
  exact congrArg (fun x => Float.ofModel (.pack x)) (unpack_whole narrow)

/-- The decimal of a whole number is the double of this number. -/
theorem toFloat_whole (narrow : n.log2 ≤ 52) : Decimal.toFloat ⟨n, 0⟩ = Float.ofNat n := by
  rcases Nat.eq_zero_or_pos n with rfl | positive
  · decide +kernel
  have short : (Nat.toDigits 10 n).length ≤ 16 := by
    rw [Nat.length_toDigits_le_iff (by decide) (by decide)]
    have bound := Nat.lt_of_lt_of_le Nat.lt_log2_self (Nat.pow_le_pow_right Nat.two_pos (Nat.succ_le_succ narrow))
    exact Nat.lt_of_lt_of_le bound (by decide)
  have factor : n * Nat.pow 10 (0 : Int).toNat = n := Nat.mul_one n
  change ofDecimal n 0 = _
  rw [ofDecimal, if_neg (by omega), if_neg (by omega), if_pos (Int.le_refl 0), factor]
  exact ofQuotient_whole narrow

end CosmeticRules.Binary64
