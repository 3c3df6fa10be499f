import CosmeticRules.Css.Matching
import CosmeticRules.Proofs.Page.DocumentOrder
import CosmeticRules.Proofs.Text.Search
import Mathlib.Data.Int.Order.Lemmas
import Mathlib.Data.Int.DivMod

/-!
What native selectors say about the elements of a page: conditions on attributes, positions among siblings,
and the assignments of elements to the compound selectors of a chain.
-/

namespace CosmeticRules.Css

open Text PageTree

/-! Positions. -/

/-- The positions that a formula stands for. -/
def Nth.Selects (formula : Nth) (position : Nat) : Prop :=
  match formula with
  | .exact n => position = n
  | .odd => position % 2 = 1
  | .even => position % 2 = 0
  | .linear a b => ∃ n : Nat, (position : Int) = a.toInt * n + b.toInt

/-- Whether so many positions, and their distances from the summand where these count, fit into 64 bits. -/
def Nth.Fits (count : Nat) : Nth → Prop
  | .linear a b => (count : Int) < 2 ^ 63 ∧ (a = 0 ∨ (count : Int) - b.toInt < 2 ^ 63)
  | _ => True

theorem exists_factor_iff {a d : Int} (factor : a ≠ 0) : d.tmod a = 0 ∧ 0 ≤ d.tdiv a ↔ ∃ n : Nat, d = a * n := by
  constructor
  · rintro ⟨whole, positive⟩
    refine ⟨(d.tdiv a).toNat, ?_⟩
    rw [Int.toNat_of_nonneg positive, Int.mul_tdiv_cancel_of_dvd (Int.dvd_of_tmod_eq_zero whole)]
  · rintro ⟨n, rfl⟩
    rw [Int.mul_tmod_right, Int.mul_tdiv_cancel_left _ factor]
    exact ⟨rfl, Int.natCast_nonneg n⟩

theorem Nth.selects_linear {a b : Int64} {count position : Nat} (fits : (Nth.linear a b).Fits count)
    (bound : position ≤ count) :
    (Nth.linear a b).selects position = true ↔ (Nth.linear a b).Selects position := by
  have low := Int64.toInt_lt b
  have high := Int64.le_toInt b
  obtain ⟨small, fits⟩ := fits
  have position_eq : (Int64.ofNat position).toInt = position := Int64.toInt_ofNat_of_lt (by omega)
  simp only [Nth.selects, Nth.Selects]
  split
  · rename_i zero
    have zero : a = 0 := by simpa using zero
    rw [beq_iff_eq, ← Int64.toInt_inj, position_eq, zero]
    simp
  · rename_i nonzero
    have fits := fits.resolve_left fun zero => nonzero (beq_iff_eq.mpr zero)
    have distance : (Int64.ofNat position - b).toInt = position - b.toInt := by
      rw [Int64.toInt_sub, position_eq, Int.bmod_eq_of_le] <;> omega
    have factor : a.toInt ≠ 0 := by
      intro zero
      refine nonzero (beq_iff_eq.mpr (Int64.toInt_inj.mp ?_))
      rw [zero]
      rfl
    -- Only the quotient of the least number by -1 would not be the exact one.
    have proper : Int64.ofNat position - b ≠ Int64.minValue := by
      intro least
      rw [least, Int64.toInt_minValue] at distance
      omega
    rw [Bool.and_eq_true, beq_iff_eq, decide_eq_true_iff, ← Int64.toInt_inj, ge_iff_le, Int64.le_iff_toInt_le,
      Int64.toInt_mod, Int64.toInt_div_of_ne_left _ _ proper, distance, Int64.toInt_zero, exists_factor_iff factor]
    exact exists_congr fun n => by omega

theorem Nth.selects_iff {formula : Nth} {count position : Nat} (fits : formula.Fits count)
    (bound : position ≤ count) : formula.selects position = true ↔ formula.Selects position := by
  cases formula with
  | exact n => simp [Nth.selects, Nth.Selects]
  | odd => simp [Nth.selects, Nth.Selects]
  | even => simp [Nth.selects, Nth.Selects]
  | linear a b => exact Nth.selects_linear fits bound

/-! Conditions on attributes. -/

/-- What an operator says about the value of an attribute and the expected text. -/
def AttributeOperator.Relates (operator : AttributeOperator) (actual expected : List Char) : Prop :=
  match operator with
  | .equals => actual = expected
  | .startsWith => expected ≠ [] ∧ expected <+: actual
  | .endsWith => expected ≠ [] ∧ expected <:+ actual
  | .contains => expected ≠ [] ∧ expected <:+: actual
  | .includes => expected ∈ fields actual
  | .dashMatch => actual = expected ∨ expected ++ ['-'] <+: actual

theorem append_dash_isPrefix {expected actual : List Char} :
    expected ++ ['-'] <+: actual ↔ ∃ rest, afterStart? expected actual = some ('-' :: rest) := by
  simp only [afterStart?_eq_some_iff]
  constructor
  · rintro ⟨rest, rfl⟩
    exact ⟨rest, by simp⟩
  · rintro ⟨rest, rfl⟩
    exact ⟨rest, by simp⟩

theorem AttributeOperator.holds_iff {operator : AttributeOperator} {actual expected : List Char} :
    operator.holds actual expected = true ↔ operator.Relates actual expected := by
  cases operator with
  | equals => simp [AttributeOperator.holds, Relates]
  | startsWith => simp [AttributeOperator.holds, Relates]
  | endsWith => simp [AttributeOperator.holds, Relates]
  | contains => simp [AttributeOperator.holds, Relates, occursIn_iff]
  | includes => simp [AttributeOperator.holds, Relates]
  | dashMatch =>
    rw [AttributeOperator.holds, Relates, Bool.or_eq_true, beq_iff_eq, append_dash_isPrefix]
    refine or_congr_right ?_
    split
    · rename_i c rest found
      simp [found]
    · rename_i other
      simpa using fun rest found => other '-' rest found

/-- An element has an attribute of the given name and value. -/
def HasAttribute (e : Element) (name value : String) : Prop := ⟨name, value⟩ ∈ e.attributes

theorem attribute?_eq_some_iff {e : Element} (named : e.WellNamed) {name value : String} :
    e.attribute? name = some value ↔ HasAttribute e name value := by
  have found (attributes : List Attribute) (distinct : (attributes.map (·.name)).Nodup) :
      (attributes.find? (·.name == name)).map (·.value) = some value ↔ ⟨name, value⟩ ∈ attributes := by
    induction attributes with
    | nil => simp
    | cons a rest ih =>
      obtain ⟨fresh, distinct⟩ := List.nodup_cons.mp distinct
      rw [List.find?_cons, List.mem_cons]
      split
      · rename_i same
        obtain rfl : a.name = name := by simpa using same
        have unlisted : ⟨a.name, value⟩ ∉ rest := fun member => fresh (List.mem_map_of_mem (f := (·.name)) member)
        rw [Option.map_some, Option.some.injEq, or_iff_left unlisted]
        exact ⟨fun same => same ▸ rfl, fun same => (congrArg Attribute.value same).symm⟩
      · rename_i other
        have differs : ⟨name, value⟩ ≠ a := by
          rintro rfl
          simp at other
        rw [ih distinct, or_iff_right differs]
  exact found e.attributes named.distinct

/-- The text of an attribute as it is compared. -/
def compared (ignoreCase : Bool) (text : String) : List Char := if ignoreCase then lower text.toList else text.toList

/-- What a test says about the attributes of an element. -/
def AttributeTest.Describes (test : AttributeTest) (e : Element) : Prop :=
  match test with
  | .has key => ∃ value, HasAttribute e key value
  | .compare key operator expected ignoreCase =>
    ∃ value, HasAttribute e key value ∧
      operator.Relates (compared ignoreCase value) (compared ignoreCase expected)

theorem AttributeTest.holds_iff {test : AttributeTest} {e : Element} (named : e.WellNamed) :
    test.holds e = true ↔ test.Describes e := by
  cases test with
  | has key => simp only [AttributeTest.holds, Describes, Option.isSome_iff_exists, attribute?_eq_some_iff named]
  | compare key operator expected ignoreCase =>
    simp only [AttributeTest.holds, Describes, ← attribute?_eq_some_iff named]
    cases e.attribute? key with
    | none => simp
    | some actual =>
      simp only [Option.some.injEq, exists_eq_left', ← AttributeOperator.holds_iff, compared]
      cases ignoreCase <;> rfl

theorem hasClass_iff {e : Element} (named : e.WellNamed) {name : String} : e.hasClass name = true ↔
    ∃ value, HasAttribute e "class" value ∧ name.toList ∈ fields value.toList := by
  simp only [Element.hasClass, ← attribute?_eq_some_iff named]
  cases e.attribute? "class" with
  | none => simp
  | some actual =>
    simp only [List.any_eq_true, beq_iff_eq, Option.some.injEq, exists_eq_left']
    constructor
    · rintro ⟨word, member, rfl⟩
      rwa [String.toList_ofList]
    · intro member
      exact ⟨_, member, String.ofList_toList⟩

/-! Places among the siblings. -/

section places

variable (t : PageTree) (n : NodeId)

/-- No element sibling stands before the node. -/
def IsFirstChild : Prop := ∀ m, t.Before m n → t.isElement m = false

/-- No element sibling stands after the node. -/
def IsLastChild : Prop := ∀ m, t.Before n m → t.isElement m = false

/-- The first element of the document itself. -/
def IsDocumentElement : Prop := t.parent? n = some root ∧ t.isElement n = true ∧ IsFirstChild t n

/-- Whether positions are counted from the last sibling on. -/
def Counting.fromEnd : Counting → Bool
  | .fromLast | .ofTypeFromLast => true
  | .fromFirst | .ofTypeFromFirst => false

/-- Whether only siblings with the tag of the node are counted. -/
def Counting.sameType : Counting → Bool
  | .ofTypeFromFirst | .ofTypeFromLast => true
  | .fromFirst | .fromLast => false

/-- Whether a sibling is counted. -/
def Counts (counting : Counting) (m : NodeId) : Bool :=
  t.isElement m && (!counting.sameType || t.tag? m == t.tag? n)

/-- The node is at a position, counted from one on, among the siblings that are counted. -/
def HasPosition (counting : Counting) (position : Nat) : Prop :=
  ∃ parent before after, t.parent? n = some parent ∧
    (t.children parent).filter (Counts t n counting) = before ++ n :: after ∧
    position = (if counting.fromEnd then after else before).length + 1

end places

variable {t : PageTree} {n m : NodeId}

theorem isNone_previousElement? (wf : t.WellFormed) :
    (t.previousElement? n).isNone = true ↔ IsFirstChild t n := by
  cases is : t.parent? n with
  | none =>
    refine iff_of_true (by simp [previousElement?, previousElements, is]) fun m before => ?_
    exact absurd before (wf.not_before_of_loose is).1
  | some parent =>
    obtain ⟨before, after, split, fresh⟩ := wf.exists_siblings is
    rw [previousElement?, previousElements_eq is split fresh.1, List.head?_reverse, Option.isNone_iff_eq_none,
      List.getLast?_eq_none_iff, List.filter_eq_nil_iff]
    simp only [IsFirstChild, wf.before_iff split fresh, Bool.not_eq_true]

theorem isNone_nextElement? (wf : t.WellFormed) : (t.nextElement? n).isNone = true ↔ IsLastChild t n := by
  cases is : t.parent? n with
  | none =>
    refine iff_of_true (by simp [nextElement?, nextElements, is]) fun m after => ?_
    exact absurd after (wf.not_before_of_loose is).2
  | some parent =>
    obtain ⟨before, after, split, fresh⟩ := wf.exists_siblings is
    rw [nextElement?, nextElements_eq is split fresh.1, Option.isNone_iff_eq_none, List.head?_eq_none_iff,
      List.filter_eq_nil_iff]
    simp only [IsLastChild, wf.after_iff split fresh, Bool.not_eq_true]

theorem documentElement?_eq_some_iff (wf : t.WellFormed) :
    t.documentElement? = some n ↔ IsDocumentElement t n := by
  rw [documentElement?, childElements, List.head?_filter]
  constructor
  · intro found
    obtain ⟨element, before, after, split, others⟩ := List.find?_eq_some_iff_append.mp found
    have is : t.parent? n = some root := (wf.mem_children root n).mp (by simp [split])
    have fresh := wf.fresh_of_split split
    exact ⟨is, element, fun m earlier => by simpa using others m ((wf.before_iff split fresh).mp earlier)⟩
  · rintro ⟨is, element, first⟩
    obtain ⟨before, after, split, fresh⟩ := wf.exists_siblings is
    refine List.find?_eq_some_iff_append.mpr ⟨element, before, after, split, fun m member => ?_⟩
    simp [first m ((wf.before_iff split fresh).mpr member)]

theorem countedSiblings_eq {parent : NodeId} (is : t.parent? n = some parent) (counting : Counting) :
    countedSiblings t counting n =
      if counting.fromEnd then ((t.children parent).filter (Counts t n counting)).reverse
      else (t.children parent).filter (Counts t n counting) := by
  have counted : (t.children parent).filter (Counts t n counting) =
      if counting.sameType then (t.childElements parent).filter (fun m => t.tag? m == t.tag? n)
      else t.childElements parent := by
    rw [childElements, List.filter_filter]
    split
    · rename_i typed
      exact List.filter_congr fun m _ => by rw [Counts, typed, Bool.and_comm]; rfl
    · rename_i all
      exact List.filter_congr fun m _ => by rw [Counts, eq_false_of_ne_true all]; simp
  rw [countedSiblings, is, counted]
  cases counting <;> rfl

/-- The place of an item that a list holds once. -/
theorem idxOf?_eq_some_iff {items : List NodeId} (distinct : items.Nodup) {i : Nat} :
    items.idxOf? n = some i ↔ ∃ before after, items = before ++ n :: after ∧ i = before.length := by
  rw [List.idxOf?_eq_some_iff]
  constructor
  · rintro ⟨inside, rfl, _⟩
    refine ⟨items.take i, items.drop (i + 1), ?_, by simp; omega⟩
    rw [List.getElem_cons_drop, List.take_append_drop]
  · rintro ⟨before, after, rfl, rfl⟩
    rw [List.nodup_middle, List.nodup_cons, List.mem_append, not_or] at distinct
    refine ⟨by simp, by simp, fun j earlier same => distinct.1.1 ?_⟩
    rw [List.getElem_append_left earlier] at same
    exact same ▸ List.getElem_mem earlier

theorem position?_eq_some_iff (wf : t.WellFormed) {counting : Counting} {position : Nat} :
    position? t counting n = some position ↔ HasPosition t n counting position := by
  cases is : t.parent? n with
  | none => simp [position?, countedSiblings, HasPosition, is]
  | some parent =>
    have distinct := (wf.nodup_children parent).filter (Counts t n counting)
    have only (P : NodeId → Prop) : (∃ p, some parent = some p ∧ P p) ↔ P parent := by simp
    simp only [position?, countedSiblings_eq is, HasPosition, exists_and_left, is, only, Option.map_eq_some_iff]
    cases counting.fromEnd with
    | false =>
      simp only [Bool.false_eq_true, if_false, idxOf?_eq_some_iff distinct]
      constructor
      · rintro ⟨_, ⟨before, after, split, rfl⟩, rfl⟩
        exact ⟨before, after, split, rfl⟩
      · rintro ⟨before, after, split, rfl⟩
        exact ⟨_, ⟨before, after, split, rfl⟩, rfl⟩
    | true =>
      simp only [if_true, idxOf?_eq_some_iff (List.nodup_reverse.mpr distinct)]
      constructor
      · rintro ⟨_, ⟨before, after, split, rfl⟩, rfl⟩
        exact ⟨after.reverse, before.reverse, by simpa using congrArg List.reverse split, by simp⟩
      · rintro ⟨before, after, split, rfl⟩
        exact ⟨_, ⟨after.reverse, before.reverse, by simp [split], by simp⟩, rfl⟩

theorem HasPosition.le_size (wf : t.WellFormed) {counting : Counting} {position : Nat}
    (has : HasPosition t n counting position) : position ≤ t.size := by
  obtain ⟨parent, before, after, _, split, rfl⟩ := has
  have counted : (before ++ n :: after).length ≤ t.size := by
    rw [← split]
    refine (List.length_filter_le _ _).trans (length_le_size (wf.nodup_children parent) fun m member => ?_)
    exact contains_of_parent? ((wf.mem_children parent m).mp member)
  rw [List.length_append, List.length_cons] at counted
  split <;> omega

/-- What a pseudo-class without argument says about an element. -/
def Structural.Describes (t : PageTree) (scope : NodeId → Prop) (pseudo : Structural) (n : NodeId) : Prop :=
  match pseudo with
  | .scope => scope n
  | .root => IsDocumentElement t n
  | .firstChild => IsFirstChild t n
  | .lastChild => IsLastChild t n
  | .onlyChild => IsFirstChild t n ∧ IsLastChild t n
  | .firstOfType => HasPosition t n .ofTypeFromFirst 1
  | .lastOfType => HasPosition t n .ofTypeFromLast 1
  | .onlyOfType => HasPosition t n .ofTypeFromFirst 1 ∧ HasPosition t n .ofTypeFromLast 1
  | .empty => ∀ m, t.parent? m = some n → ∃ text, t.content? m = some (.comment text)

theorem isComment_iff : isComment t m = true ↔ ∃ text, t.content? m = some (.comment text) := by
  unfold isComment
  split
  · rename_i text content
    simp [content]
  · rename_i other
    simpa using other

theorem Structural.holds_iff (wf : t.WellFormed) {bound : Option NodeId} {scope : NodeId → Prop}
    (binds : ∀ n, bound = some n ↔ scope n) {pseudo : Structural} :
    pseudo.holds t bound n = true ↔ pseudo.Describes t scope n := by
  cases pseudo with
  | scope => rw [Structural.holds, beq_iff_eq, binds, Describes]
  | root => rw [Structural.holds, beq_iff_eq, documentElement?_eq_some_iff wf, Describes]
  | firstChild => exact isNone_previousElement? wf
  | lastChild => exact isNone_nextElement? wf
  | onlyChild =>
    rw [Structural.holds, Bool.and_eq_true, isNone_previousElement? wf, isNone_nextElement? wf, Describes]
  | firstOfType => rw [Structural.holds, beq_iff_eq, position?_eq_some_iff wf, Describes]
  | lastOfType => rw [Structural.holds, beq_iff_eq, position?_eq_some_iff wf, Describes]
  | onlyOfType =>
    rw [Structural.holds, Bool.and_eq_true, beq_iff_eq, beq_iff_eq, position?_eq_some_iff wf,
      position?_eq_some_iff wf, Describes]
  | empty => simp only [Structural.holds, List.all_eq_true, isComment_iff, Describes, wf.mem_children]

/-! Chains. -/

/-- How a combinator relates the element on its left to the one on its right. -/
def Combinator.Relates (t : PageTree) (combinator : Combinator) (left right : NodeId) : Prop :=
  match combinator with
  | .child => t.parent? right = some left
  | .descendant => t.IsBelow right left
  | .nextSibling => t.Before left right ∧ ∀ m, t.Before left m → t.Before m right → t.isElement m = false
  | .laterSibling => t.Before left right

theorem mem_previousElements (wf : t.WellFormed) :
    m ∈ t.previousElements n ↔ t.isElement m = true ∧ t.Before m n := by
  cases is : t.parent? n with
  | none =>
    exact iff_of_false (by simp [previousElements, is]) fun before => (wf.not_before_of_loose is).1 before.2
  | some parent =>
    obtain ⟨before, after, split, fresh⟩ := wf.exists_siblings is
    rw [previousElements_eq is split fresh.1, List.mem_reverse, List.mem_filter, wf.before_iff split fresh, and_comm]

theorem previousElement?_eq_some_iff (wf : t.WellFormed) : t.previousElement? n = some m ↔
    t.isElement m = true ∧ Combinator.nextSibling.Relates t m n := by
  cases is : t.parent? n with
  | none =>
    exact iff_of_false (by simp [previousElement?, previousElements, is])
      fun before => (wf.not_before_of_loose is).1 before.2.1
  | some parent =>
    obtain ⟨before, after, split, fresh⟩ := wf.exists_siblings is
    have found : t.previousElement? n = before.reverse.find? t.isElement := by
      rw [previousElement?, previousElements_eq is split fresh.1, ← List.filter_reverse, List.head?_filter]
    rw [found, List.find?_eq_some_iff_append]
    refine and_congr_right fun element => ?_
    constructor
    · -- The search goes back from the node, so what it has passed stands between.
      rintro ⟨later, earlier, reversed, none⟩
      have between : before = earlier.reverse ++ m :: later.reverse := by
        simpa using congrArg List.reverse reversed
      have around : t.children parent = earlier.reverse ++ m :: (later.reverse ++ n :: after) := by
        rw [split, between, List.append_assoc, List.cons_append]
      refine ⟨(wf.before_iff split fresh).mpr (by simp [between]), fun k behind ahead => ?_⟩
      have inBefore := (wf.before_iff split fresh).mp ahead
      have inLater := (wf.after_iff around (wf.fresh_of_split around)).mp behind
      have apart : k ∉ n :: after := by
        have distinct := split ▸ wf.nodup_children parent
        exact fun again => List.disjoint_of_nodup_append distinct inBefore again
      rcases List.mem_append.mp inLater with inside | outside
      · simpa using none k (List.mem_reverse.mp inside)
      · exact absurd outside apart
    · rintro ⟨ahead, none⟩
      obtain ⟨earlier, later, between⟩ := List.append_of_mem ((wf.before_iff split fresh).mp ahead)
      have around : t.children parent = earlier ++ m :: (later ++ n :: after) := by
        rw [split, between, List.append_assoc, List.cons_append]
      refine ⟨later.reverse, earlier.reverse, by simp [between], fun k inside => ?_⟩
      have member := List.mem_reverse.mp inside
      have behind := (wf.after_iff around (wf.fresh_of_split around)).mpr (List.mem_append_left _ member)
      have ahead : t.Before k n := (wf.before_iff split fresh).mpr (by simp [between, member])
      simp [none k behind ahead]

theorem mem_related (doc : t.IsDocument) {combinator : Combinator} :
    m ∈ related t combinator n ↔ t.isElement m = true ∧ combinator.Relates t m n := by
  cases combinator with
  | child => simp [related, parentElement?, Combinator.Relates, Option.filter_eq_some_iff, and_comm]
  | descendant => exact doc.mem_ancestorElements
  | nextSibling => rw [related, Option.mem_toList, previousElement?_eq_some_iff doc.wellFormed]
  | laterSibling => exact mem_previousElements doc.wellFormed

mutual

/-- What a simple selector says about an element, with the element that `:scope` stands for. -/
def Simple.Describes (t : PageTree) (scope : NodeId → Prop) : Simple → NodeId → Prop
  | .universal, _ => True
  | .tag name, n => t.tag? n = some name
  | .id name, n => ∃ e, t.element? n = some e ∧ HasAttribute e "id" name
  | .className name, n =>
    ∃ e value, t.element? n = some e ∧ HasAttribute e "class" value ∧ name.toList ∈ fields value.toList
  | .attribute test, n => ∃ e, t.element? n = some e ∧ test.Describes e
  | .structural pseudo, n => pseudo.Describes t scope n
  | .nth counting formula, n => ∃ position, HasPosition t n counting position ∧ formula.Selects position
  | .isAny alternatives, n => AnyAssigned t scope alternatives n
  | .whereAny alternatives, n => AnyAssigned t scope alternatives n
  | .notAny alternatives, n => ¬AnyAssigned t scope alternatives n

/-- What a compound selector says about an element. -/
def CompoundDescribes (t : PageTree) (scope : NodeId → Prop) : List Simple → NodeId → Prop
  | [], _ => True
  | simple :: rest, n => simple.Describes t scope n ∧ CompoundDescribes t scope rest n

/-- The elements can be assigned to the compound selectors of a chain, the last one first. -/
def Chain.Assigned (t : PageTree) (scope : NodeId → Prop) : Chain → List NodeId → Prop
  | .single compound, [n] => t.isElement n = true ∧ CompoundDescribes t scope compound n
  | .link before combinator compound, n :: m :: rest =>
    t.isElement n = true ∧ CompoundDescribes t scope compound n ∧ combinator.Relates t m n ∧
      before.Assigned t scope (m :: rest)
  | _, _ => False

/-- Elements that end in the given one can be assigned to one of the chains. -/
def AnyAssigned (t : PageTree) (scope : NodeId → Prop) : List Chain → NodeId → Prop
  | [], _ => False
  | chain :: rest, n => (∃ above, chain.Assigned t scope (n :: above)) ∨ AnyAssigned t scope rest n

end

theorem anyAssigned_iff {scope : NodeId → Prop} {chains : List Chain} :
    AnyAssigned t scope chains n ↔ ∃ chain ∈ chains, ∃ above, chain.Assigned t scope (n :: above) := by
  induction chains with
  | nil => simp [AnyAssigned]
  | cons chain rest ih => rw [AnyAssigned, ih, List.exists_mem_cons_iff]

end CosmeticRules.Css
