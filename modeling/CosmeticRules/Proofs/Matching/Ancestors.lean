import CosmeticRules.Proofs.Page.SingleDocument
import CosmeticRules.Proofs.XPath.NodeSets
import CosmeticRules.Proofs.XPath.Positions
import Mathlib.Logic.Function.Iterate

/-!
The pseudo-classes that lead upwards by a number of steps. A whole number in decimal asks for so many parents, the
elements without as many are dropped, and the path expression for the ancestor of this number finds the same.
-/

namespace CosmeticRules

/-! Digits as a number. -/

section digits

open Text

theorem digits_ne {s : List Char} {c : Char} (member : c ∈ s) (other : c.isDigit = false) (n : Nat) :
    Nat.toDigits 10 n ≠ s := by
  rintro rfl
  exact Bool.false_ne_true (other.symm.trans (Css.isDigit_of_mem_digits member))

theorem trim_digits (n : Nat) : trim (Nat.toDigits 10 n) = Nat.toDigits 10 n :=
  (Css.Solid.of_plain Nat.toDigits_ne_nil fun _ member =>
    Css.isPlainChar_of_isDigit (Css.isDigit_of_mem_digits member)).trim_eq

theorem Binary64.read?_digits {n : Nat} (narrow : n.log2 ≤ 52) :
    Binary64.read? (Nat.toDigits 10 n) = some (Float.ofNat n) := by
  have lower : (Nat.toDigits 10 n).map Char.toLower = Nat.toDigits 10 n := by
    refine (List.map_congr_left fun c member => ?_).trans (List.map_id _)
    have digit := Css.isDigit_of_mem_digits member
    obtain ⟨_, lower, small, _⟩ := classes_of_isPlainChar (Css.isPlainChar_of_isDigit digit)
    exact lower (small (by simp [digit]))
  have word {s : String} {c : Char} (member : c ∈ s.toList) (other : c.isDigit = false) :
      (String.ofList (Nat.toDigits 10 n) == s) = false := by
    refine beq_false_of_ne fun same => digits_ne member other n ?_
    rw [← same, String.toList_ofList]
  unfold Binary64.read?
  split
  rename_i negative unsigned sign
  split at sign
  · rename_i same
    exact absurd same (digits_ne List.mem_cons_self (by decide) n)
  · rename_i same
    exact absurd same (digits_ne List.mem_cons_self (by decide) n)
  · obtain ⟨rfl, rfl⟩ := Prod.mk.inj sign
    have inf : (String.ofList (Nat.toDigits 10 n) == "inf") = false := word (c := 'i') (by decide) (by decide)
    have infinity : (String.ofList (Nat.toDigits 10 n) == "infinity") = false := word (c := 'i') (by decide) (by decide)
    have nan : (String.ofList (Nat.toDigits 10 n) == "nan") = false := word (c := 'n') (by decide) (by decide)
    simp only [lower, inf, infinity, nan, Bool.or_self, Bool.false_eq_true, if_false, Decimal.read?_digits,
      Option.map_some, toFloat_whole narrow]

namespace Matching

theorem number?_digits {n : Nat} (narrow : n.log2 ≤ 52) : number? (Nat.toDigits 10 n) = some (Float.ofNat n) := by
  have unsigned : unsigned? (Nat.toDigits 10 n) = some (Float.ofNat n) := by
    have numeral : (Nat.toDigits 10 n).all isNumeralChar = true := List.all_eq_true.mpr fun c member => by
      simp [isNumeralChar, Css.isDigit_of_mem_digits member]
    have digit : (Nat.toDigits 10 n).any Char.isDigit = true := by
      obtain ⟨c, rest, split, first⟩ := Css.exists_digits n
      rw [split, List.any_cons, first, Bool.true_or]
    have other : (Nat.toDigits 10 n == "Infinity".toList) = false :=
      beq_false_of_ne (digits_ne (c := 'I') (by decide) (by decide) n)
    rw [unsigned?, other, numeral, digit]
    exact Binary64.read?_digits narrow
  unfold number?
  rw [trim_digits]
  split
  case h_1 same => exact absurd same Nat.toDigits_ne_nil
  case h_2 | h_3 =>
    rename_i same
    exact absurd same (digits_ne List.mem_cons_self (by decide) n)
  case h_10 => exact unsigned
  -- The letter of a base is the second character.
  all_goals
    rename_i same
    exact absurd same (digits_ne (List.mem_cons_of_mem _ List.mem_cons_self) (by decide) n)

theorem narrow_of_depth {a : Nat} (positive : 1 ≤ a) (bound : a ≤ 255) : a.log2 ≤ 52 :=
  Nat.le_trans (Binary64.log2_le_log2 positive bound) (by decide)

/-- A whole number below the limit asks for so many steps. -/
theorem ancestorDepth?_toString {a : Nat} (positive : 1 ≤ a) (bound : a ≤ 255) :
    ancestorDepth? (toString a) = some a := by
  have narrow := narrow_of_depth positive bound
  have low : (1 : Float) ≤ Float.ofNat a := (Binary64.ofNat_le_ofNat (m := 1) (by decide) a).mpr positive
  have high : Float.ofNat a < Float.ofNat depthLimit :=
    (Binary64.ofNat_lt_ofNat narrow _).mpr (Nat.lt_succ_of_le bound)
  have digits : (toString a).toList = Nat.toDigits 10 a := by simp
  rw [ancestorDepth?, digits, number?_digits narrow]
  simp only [low, high, decide_true, Bool.and_self, if_true]
  have inRange : a ∈ List.range (depthLimit + 1) := List.mem_range.mpr (Nat.lt_succ_of_le (Nat.le_succ_of_le bound))
  refine List.find?_range_eq_some.mpr ⟨?_, inRange, fun j before => ?_⟩
  · exact decide_eq_true ((Binary64.ofNat_le_ofNat narrow a).mpr (Nat.le_refl a))
  · have less := mt (Binary64.ofNat_le_ofNat narrow j).mp (Nat.not_le_of_lt before)
    simp [less]

end Matching

end digits

namespace Logged

theorem result_bind_of_ok {ε α β : Type} {x : Logged ε α} {f : α → Logged ε β} {a : α} (found : x.result = .ok a) :
    (x >>= f).result = (f a).result := by
  rw [result_bind, found]
  rfl

/-- A run over a list that succeeds everywhere. -/
theorem result_mapM_of_ok {ε α β : Type} {f : α → Logged ε β} {g : α → β} (each : ∀ x, (f x).result = .ok (g x))
    (xs : List α) : (xs.mapM f).result = .ok (xs.map g) := by
  induction xs with
  | nil => rfl
  | cons x rest ih =>
    simp only [List.mapM_cons, result_bind, each, ih]
    rfl

end Logged

/-! Walks upwards. -/

namespace PageTree

variable {t : PageTree}

/-- The parent element taken so many times. -/
def nthParent? (t : PageTree) (steps : Nat) (n : NodeId) : Option NodeId :=
  (fun found => found.bind t.parentElement?)^[steps] (some n)

end PageTree

namespace Matching

open Logged PageTree

variable {t : PageTree} {a : Nat}

theorem bind_ancestorAt? (t : PageTree) (steps : Nat) (start : Option NodeId) :
    start.bind (ancestorAt? t steps) = (fun found => found.bind t.parentElement?)^[steps] start := by
  induction steps generalizing start with
  | zero => cases start <;> rfl
  | succ steps ih =>
    rw [Function.iterate_succ_apply, ← ih, Option.bind_assoc]
    rfl

theorem ancestorAt?_eq_nthParent? (steps : Nat) : ancestorAt? t steps = t.nthParent? steps :=
  funext fun n => bind_ancestorAt? t steps (some n)

theorem ancestorAt?_add (a b : Nat) (n : NodeId) :
    ancestorAt? t (a + b) n = (ancestorAt? t a n).bind (ancestorAt? t b) := by
  induction a generalizing n with
  | zero => rw [Nat.zero_add]; rfl
  | succ a ih =>
    rw [Nat.succ_add, ancestorAt?, ancestorAt?, Option.bind_assoc]
    exact congrArg _ (funext ih)

theorem getElem?_iterate (t : PageTree) {steps count : Nat} (inside : steps < count) (n : NodeId) :
    (iterate t.parentElement? count n)[steps]? = ancestorAt? t (steps + 1) n := by
  induction count generalizing steps n with
  | zero => cases inside
  | succ count ih =>
    rw [iterate, ancestorAt?]
    cases t.parentElement? n with
    | none => rfl
    | some parent =>
      cases steps with
      | zero => rfl
      | succ steps => exact ih (Nat.lt_of_succ_lt_succ inside) parent

/-- The ancestors that the steps lead to are the ancestor elements, one after the other. -/
theorem getElem?_ancestorElements (wf : t.WellFormed) (positive : 1 ≤ a) (n : NodeId) :
    (t.ancestorElements n)[a - 1]? = ancestorAt? t a n := by
  have short : (iterate t.parentElement? t.size n).length < t.size := by
    rw [iterate_parentElement?]
    exact Nat.lt_of_le_of_lt (List.takeWhile_sublist _).length_le (wf.level_lt n)
  have same : iterate t.parentElement? (t.size + a) n = t.ancestorElements n := iterate_of_length_lt short a
  have inside : a - 1 < t.size + a := by omega
  rw [← same, getElem?_iterate t inside, Nat.sub_add_cancel positive]

theorem isElement_of_ancestorAt? (wf : t.WellFormed) (positive : 1 ≤ a) {n m : NodeId}
    (is : ancestorAt? t a n = some m) : t.isElement m = true := by
  rw [← getElem?_ancestorElements wf positive] at is
  exact isElement_of_mem_ancestorElements (List.mem_of_getElem? is)

/-! Lists of elements. -/

variable {page : Page}

theorem result_nthAncestors (wf : page.tree.WellFormed) (pseudo : PseudoClass) (positive : 1 ≤ a) (bound : a ≤ 255)
    (elements : List NodeId) :
    (nthAncestors page pseudo (toString a) elements).result = .ok (elements.filterMap (ancestorAt? page.tree a)) := by
  have entries : (elements.map (ancestorAt? page.tree a)).filterMap id = elements.filterMap (ancestorAt? page.tree a) :=
    List.filterMap_map
  have isElement : ∀ m ∈ elements.filterMap (ancestorAt? page.tree a), page.tree.isElement m = true := by
    intro m member
    obtain ⟨n, _, is⟩ := List.mem_filterMap.mp member
    exact isElement_of_ancestorAt? wf positive is
  unfold nthAncestors
  rw [ancestorDepth?_toString positive bound]
  simp only []
  rw [result_bind_of_ok (result_mapM_of_ok (g := ancestorAt? page.tree a) ?_ elements), entries,
    List.filter_eq_self.mpr isElement]
  · rfl
  · intro n
    cases ancestorAt? page.tree a n <;> rfl

/-- On a number of steps, both pseudo-classes for ancestors do the same. -/
theorem byAbsolute_digits (view : View) (narrow : a.log2 ≤ 52) (elements : List NodeId) {pseudo : PseudoClass}
    (upwards : pseudo = .nthAncestor ∨ pseudo = .upward) :
    byAbsolute view pseudo (toString a) elements = nthAncestors view.page pseudo (toString a) elements := by
  rcases upwards with rfl | rfl
  · rfl
  · have digits : (toString a).toList = Nat.toDigits 10 a := by simp
    rw [byAbsolute, upward, digits, number?_digits narrow]
    rfl

theorem result_byPath_stepsUp (doc : page.tree.IsDocument) (positive : 1 ≤ a) (narrow : a.log2 ≤ 52)
    (elements : List NodeId) :
    (byPath page s!"ancestor::*[{a}]" elements).result = .ok (elements.filterMap (ancestorAt? page.tree a)) := by
  have valid : XPath.validate s!"ancestor::*[{a}]" = .ok () := by
    rw [XPath.validate, XPath.read_stepsUp]
    rfl
  unfold byPath
  rw [valid]
  simp only []
  rw [result_bind_of_ok (result_mapM_of_ok (g := fun n => (ancestorAt? page.tree a n).toList) ?_ elements),
    List.filterMap_eq_flatMap_toList]
  · rfl
  · intro n
    rw [result_reportAs, result_ofExcept, XPath.evaluate_stepsUp doc narrow positive,
      getElem?_ancestorElements doc.wellFormed positive]
    rfl

/-- Ancestors so many steps up: what is selected is the list of those that exist. Steps after steps select what both
together do, and so does the path expression for the ancestor of this number. -/
theorem nthAncestors_agree {page : Page} (built : Page.Built page) (source : TextSource) {a b : Nat}
    (positive : 1 ≤ a ∧ 1 ≤ b) (bound : a + b ≤ 255) (pseudo pseudo' : PseudoClass) (elements : List NodeId) :
    (nthAncestors page pseudo (toString a) elements).result = .ok (elements.filterMap (page.tree.nthParent? a)) ∧
      (∀ upwards ∈ [PseudoClass.nthAncestor, .upward], byAbsolute ⟨page, source⟩ upwards (toString a) elements =
        nthAncestors page upwards (toString a) elements) ∧
      (nthAncestors page pseudo (toString a) elements >>= nthAncestors page pseudo' (toString b)).result =
        (nthAncestors page pseudo (toString (a + b)) elements).result ∧
      (byPath page s!"ancestor::*[{a}]" elements).result =
        (nthAncestors page pseudo (toString a) elements).result := by
  have doc := built.isDocument
  have wf := doc.wellFormed
  have below : a ≤ 255 := by omega
  have narrow := narrow_of_depth positive.1 below
  have first := result_nthAncestors wf pseudo positive.1 below elements
  refine ⟨?_, fun upwards member => ?_, ?_, ?_⟩
  · rw [first, ancestorAt?_eq_nthParent?]
  · exact byAbsolute_digits _ narrow elements (by simpa using member)
  · have second := result_nthAncestors wf pseudo' positive.2 (by omega : b ≤ 255)
      (elements.filterMap (ancestorAt? page.tree a))
    have together := result_nthAncestors wf pseudo (by omega : 1 ≤ a + b) bound elements
    rw [result_bind_of_ok first, second, together, List.filterMap_filterMap]
    exact congrArg Except.ok (List.filterMap_congr fun n _ => (ancestorAt?_add a b n).symm)
  · rw [first, result_byPath_stepsUp doc positive.1 narrow]

/-- From the link twice, the root element and the last item: the root element has no ancestor. -/
theorem nthAncestors_agree_twoItems :
    Page.Built XPath.twoItems ∧
      (byPath XPath.twoItems "ancestor::*[2]" [⟨3⟩, ⟨6⟩, ⟨3⟩, ⟨5⟩]).result = .ok [⟨1⟩, ⟨1⟩, ⟨7⟩] ∧
      (nthAncestors XPath.twoItems .upward "2" [⟨3⟩, ⟨6⟩, ⟨3⟩, ⟨5⟩] >>=
        nthAncestors XPath.twoItems .nthAncestor "1").result = .ok [⟨7⟩, ⟨7⟩, ⟨6⟩] := by
  have built := XPath.built_twoItems
  obtain ⟨twice, _, together, path⟩ := nthAncestors_agree built .visible (a := 2) (b := 1) (by decide) (by decide)
    .upward .nthAncestor [⟨3⟩, ⟨6⟩, ⟨3⟩, ⟨5⟩]
  obtain ⟨thrice, _⟩ := nthAncestors_agree built .visible (a := 2 + 1) (b := 1) (by decide) (by decide)
    .upward .upward [⟨3⟩, ⟨6⟩, ⟨3⟩, ⟨5⟩]
  have second : [⟨3⟩, ⟨6⟩, ⟨3⟩, ⟨5⟩].filterMap (XPath.twoItems.tree.nthParent? 2) = [⟨1⟩, ⟨1⟩, ⟨7⟩] := by
    decide +kernel
  have third : [⟨3⟩, ⟨6⟩, ⟨3⟩, ⟨5⟩].filterMap (XPath.twoItems.tree.nthParent? (2 + 1)) = [⟨7⟩, ⟨7⟩, ⟨6⟩] := by
    decide +kernel
  exact ⟨built, path.trans (twice.trans (congrArg Except.ok second)),
    together.trans (thrice.trans (congrArg Except.ok third))⟩

end Matching

end CosmeticRules
