import CosmeticRules.Proofs.Css.ReadFormula
import CosmeticRules.Proofs.XPath.Printing
import CosmeticRules.Proofs.XPath.ReadPath

/-!
The text of tokens is read as these tokens, with spaces between them or without, as long as no two neighbours
can be taken for one token.
-/

namespace CosmeticRules

open Text PlainText

/-- Digits alone are a numeral without exponent. -/
theorem Decimal.read?_digits (n : Nat) : Decimal.read? (Nat.toDigits 10 n) = some ⟨n, 0⟩ := by
  have digits := List.all_eq_true.mp (Css.digits_all n)
  have whole : (Nat.toDigits 10 n).takeWhile Char.isDigit = Nat.toDigits 10 n := List.takeWhile_eq_self_iff.mpr digits
  have rest : (Nat.toDigits 10 n).dropWhile Char.isDigit = [] := List.dropWhile_eq_nil_iff.mpr digits
  have some := List.isEmpty_eq_false_iff.mpr (Nat.toDigits_ne_nil (n := n) (b := 10))
  simp [read?, whole, rest, some, exponent?, ofDigits_toDigits]

namespace XPath.Token

variable {rest : List Char} {tokens : List Token}

/-- Whether a character right behind a token would be read as a part of it. -/
def goesOn : Token → Char → Bool
  | slash, c => c == '/'
  | comparison _, c => c == '='
  | name _, c => isNameChar c
  | number _, c => isNumberChar c
  | _, _ => false

/-- Whether two tokens need something between them. -/
def merges : Token → Token → Bool
  | slash, slash | slash, doubleSlash | comparison _, comparison _ => true
  | name _, name _ | name _, number _ | number _, number _ => true
  | _, _ => false

/-- The tokens of printed expressions: whole numbers, literals without quotes of their own, and no dots. -/
def isPrintable : Token → Bool
  | dot | doubleDot => false
  | name word => isAttributeName word
  | literal text => !text.toList.contains '"'
  | number value => value.exponent == 0
  | _ => true

/-! One token. -/

theorem read_number (n : Nat) (ends : ∀ c, rest.head? = some c → isNumberChar c = false)
    (more : read rest = .ok tokens) : read (Nat.toDigits 10 n ++ rest) = .ok (number ⟨n, 0⟩ :: tokens) := by
  obtain ⟨c, later, split, digit⟩ := Css.exists_digits n
  have inside : ∀ d ∈ Nat.toDigits 10 n, isNumberChar d = true := fun d member => by
    rw [isNumberChar, Css.isDigit_of_mem_digits member, Bool.true_or]
  have taken : (Nat.toDigits 10 n ++ rest).takeWhile isNumberChar = Nat.toDigits 10 n ∧
      (Nat.toDigits 10 n ++ rest).dropWhile isNumberChar = rest := by
    rw [List.takeWhile_append_of_pos inside, List.dropWhile_append_of_pos inside]
    cases rest with
    | nil => simp
    | cons d rest => simp [ends d rfl]
  have dark := isBlank_of_isPlainChar (Css.isPlainChar_of_isDigit digit)
  have point : c ≠ '.' := Css.ne_of_isDigit digit (by decide)
  have starts : startsNumber (c :: (later ++ rest)) = true := by
    rw [startsNumber.eq_2 _ _ fun _ _ same => absurd same point, digit]
  have text : Nat.toDigits 10 n ++ rest = c :: (later ++ rest) := by rw [split, List.cons_append]
  have found : next c (later ++ rest) = .ok (number ⟨n, 0⟩, rest) := by
    rw [next, if_pos starts]
    simp only [← text, taken.1, taken.2, Decimal.read?_digits]
  rw [text]
  exact read_next dark found more

/-- The text of a token is read as the token where it ends. -/
theorem read_spelling {token : Token} (printable : token.isPrintable = true)
    (ends : ∀ c, rest.head? = some c → token.goesOn c = false) (more : read rest = .ok tokens) :
    read (token.spelling ++ rest) = .ok (token :: tokens) := by
  cases token with
  | dot | doubleDot => cases printable
  | slash =>
    have sign : sign? ('/' :: rest) = some (slash, rest) := by
      cases rest with
      | nil => rfl
      | cons c rest =>
        have other : c ≠ '/' := by simpa [goesOn] using ends c rfl
        simp [sign?, other]
    exact read_sign (by decide) sign more
  | comparison comparison =>
    have single : sign? ('<' :: rest) = some (.comparison .less, rest) ∧
        sign? ('>' :: rest) = some (.comparison .greater, rest) := by
      cases rest with
      | nil => exact ⟨rfl, rfl⟩
      | cons c rest =>
        have other : c ≠ '=' := by simpa [goesOn] using ends c rfl
        simp [sign?, other]
    cases comparison with
    | equal | notEqual | lessEqual | greaterEqual => exact read_sign (by decide) rfl more
    | less => exact read_sign (by decide) single.1 more
    | greater => exact read_sign (by decide) single.2 more
  | name word => exact read_name printable ends more
  | literal text =>
    have unquoted : '"' ∉ text.toList := by simpa [isPrintable] using printable
    have read := read_literal unquoted more
    rw [String.ofList_toList] at read
    simpa [spelling] using read
  | number value =>
    obtain ⟨mantissa, exponent⟩ := value
    obtain rfl : exponent = 0 := by simpa [isPrintable] using printable
    exact read_number mantissa ends more
  | doubleSlash | atSign | star | doubleColon | openBracket | closeBracket | openParenthesis | closeParenthesis |
    comma | bar => exact read_sign (by decide) rfl more

/-! Tokens in a row. -/

/-- Tokens that can be read from their texts although nothing stands between these. -/
def Legible : List Token → Prop
  | [] => True
  | token :: rest =>
    token.isPrintable = true ∧ (∀ next, rest.head? = some next → token.merges next = false) ∧ Legible rest

/-- Spaces and most signs begin a new token wherever they stand. -/
theorem goesOn_sign (token : Token) {c : Char} (signs : c ∈ ' ' :: '"' :: signChars) (other : c ∉ ['/', '=']) :
    token.goesOn c = false := by
  have noNumber : ∀ c ∈ ' ' :: '"' :: signChars, isNumberChar c = false := by decide
  simp only [List.mem_cons, List.not_mem_nil, or_false, not_or] at other
  cases token with
  | slash => exact beq_false_of_ne other.1
  | comparison _ => exact beq_false_of_ne other.2
  | name _ => exact (no_name_of_sign c signs).2
  | number _ => exact noNumber c signs
  | _ => rfl

/-- No token goes on with the text of one that it does not merge with. -/
theorem exists_spelling_eq_cons {token next : Token} (printable : next.isPrintable = true)
    (apart : token.merges next = false) : ∃ c later, next.spelling = c :: later ∧ token.goesOn c = false := by
  cases next with
  | dot | doubleDot => cases printable
  | slash | doubleSlash =>
    refine ⟨'/', _, rfl, ?_⟩
    cases token with
    | slash => cases apart
    | name _ => exact (no_name_of_sign '/' (by decide)).2
    | _ => rfl
  | comparison comparison =>
    cases comparison with
    | equal =>
      refine ⟨'=', _, rfl, ?_⟩
      cases token with
      | comparison _ => cases apart
      | name _ => exact (no_name_of_sign '=' (by decide)).2
      | _ => rfl
    | notEqual | less | lessEqual | greater | greaterEqual => exact ⟨_, _, rfl, goesOn_sign token (by decide) (by decide)⟩
  | name word =>
    obtain ⟨c, later, split, first, _⟩ := isAttributeName_iff.mp printable
    have plain := (plain_of_isAttributeName printable c (split ▸ List.mem_cons_self)).1
    obtain ⟨_, digit, others⟩ := (classes_of_isPlainChar plain).2.2.2 first
    simp only [List.mem_cons, List.not_mem_nil, or_false, not_or] at others
    obtain ⟨point, _, _, slash, equal⟩ := others
    refine ⟨c, later, split, ?_⟩
    cases token with
    | name _ => cases apart
    | slash => exact beq_false_of_ne slash
    | comparison _ => exact beq_false_of_ne equal
    | number _ => simp [goesOn, isNumberChar, digit, point]
    | _ => rfl
  | number value =>
    obtain ⟨c, later, split, digit⟩ := Css.exists_digits value.mantissa
    refine ⟨c, later, split, ?_⟩
    cases token with
    | name _ | number _ => cases apart
    | slash => exact beq_eq_false_iff_ne.mpr (Css.ne_of_isDigit digit (by decide))
    | comparison _ => exact beq_eq_false_iff_ne.mpr (Css.ne_of_isDigit digit (by decide))
    | _ => rfl
  | literal _ | atSign | star | doubleColon | openBracket | closeBracket | openParenthesis | closeParenthesis | comma |
    bar => exact ⟨_, _, rfl, goesOn_sign token (by decide) (by decide)⟩

theorem read_spaces (count : Nat) : read (List.replicate count ' ' ++ rest) = read rest := by
  induction count with
  | zero => rfl
  | succ count ih =>
    rw [List.replicate_succ, List.cons_append, read_blank rfl, ih]

theorem goesOn_spaces {token : Token} (count : Nat) (ends : ∀ c, rest.head? = some c → token.goesOn c = false) :
    ∀ c, (List.replicate count ' ' ++ rest).head? = some c → token.goesOn c = false := by
  cases count with
  | zero => exact ends
  | succ count =>
    rintro c same
    obtain rfl := Option.some.inj same
    exact goesOn_sign token List.mem_cons_self (by decide)

/-- The text of legible tokens is read as these tokens. -/
theorem read_spaced (margin : Token → Nat) {tokens : List Token} (legible : Legible tokens) :
    read (spaced margin tokens) = .ok tokens := by
  induction tokens with
  | nil => rw [spaced, List.flatMap_nil, read_nil]
  | cons token rest ih =>
    obtain ⟨printable, apart, later⟩ := legible
    have text : spaced margin (token :: rest) = List.replicate (margin token) ' ' ++ (token.spelling ++
        (List.replicate (margin token) ' ' ++ spaced margin rest)) := by
      simp [spaced]
    have ends : ∀ c, (spaced margin rest).head? = some c → token.goesOn c = false := by
      cases rest with
      | nil =>
        rintro c same
        cases same
      | cons next others =>
        obtain ⟨c, more, split, stops⟩ := exists_spelling_eq_cons later.1 (apart next rfl)
        have text : spaced margin (next :: others) = List.replicate (margin next) ' ' ++ (c :: (more ++
            (List.replicate (margin next) ' ' ++ spaced margin others))) := by
          simp [spaced, split]
        rw [text]
        refine goesOn_spaces (margin next) ?_
        rintro d same
        exact Option.some.inj same ▸ stops
    rw [text, read_spaces]
    exact read_spelling printable (goesOn_spaces _ ends) ((read_spaces _).trans (ih later))

end XPath.Token

end CosmeticRules
