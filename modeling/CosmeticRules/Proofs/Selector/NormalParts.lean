import CosmeticRules.Log
import CosmeticRules.Proofs.Selector.FoldedShape
import Mathlib.Data.List.Chain

/-!
Parts in which there is nothing left to fold, and how each step of the fold keeps them so. Only the text of the last
regular part changes, and it never becomes a lone `*`.
-/

namespace CosmeticRules.SelectorTree

variable {parts done before after : List SelectorTree} {part tree : SelectorTree} {value : String}

theorem isExtended_of_isRegular (regular : part.isRegular = true) : part.isExtended = false := by
  simp only [isRegular, beq_iff_eq] at regular
  rw [isExtended, regular]
  rfl

/-! The last regular part. -/

theorem mapFirstRegular_append {children : List SelectorTree} (f : String → String)
    (none : ∀ part ∈ before, part.isRegular = false) :
    mapFirstRegular f (before ++ node (.regular value) children :: after) =
      before ++ node (.regular (f value)) children :: after := by
  induction before with
  | nil => rfl
  | cons first rest ih =>
    obtain ⟨other, none⟩ := List.forall_mem_cons.mp none
    rw [List.cons_append, mapFirstRegular, if_neg (by simp [other]), ih none, List.cons_append]

theorem mapLastRegular_append {children : List SelectorTree} (f : String → String)
    (none : ∀ part ∈ after, part.isRegular = false) :
    mapLastRegular f (before ++ node (.regular value) children :: after) =
      before ++ node (.regular (f value)) children :: after := by
  rw [mapLastRegular, List.reverse_append, List.reverse_cons, List.append_assoc, List.singleton_append,
    mapFirstRegular_append f fun part member => none part (List.mem_reverse.mp member)]
  simp

theorem lastRegularValue_append {children : List SelectorTree} (none : ∀ part ∈ after, part.isRegular = false)
    (filled : value ≠ "") :
    lastRegularValue (before ++ node (.regular value) children :: after) = .ok value := by
  have here : (before ++ node (.regular value) children :: after).reverse.find? (·.isRegular) =
      some (node (.regular value) children) :=
    List.find?_eq_some_iff_append.mpr ⟨rfl, after.reverse, before.reverse, by simp, by simpa using none⟩
  have isEmpty : value.isEmpty = false := by rwa [← Bool.not_eq_true, String.isEmpty_iff]
  rw [lastRegularValue, here]
  simp only [requiredValue, value?, isEmpty, Bool.false_eq_true, if_false]

/-- The last regular part and what stands around it. -/
theorem exists_lastRegular (last : lastRegularValue parts = .ok value) : ∃ before children after,
    parts = before ++ node (.regular value) children :: after ∧ value ≠ "" ∧
      ∀ part ∈ after, part.isRegular = false := by
  rw [lastRegularValue] at last
  split at last
  · rename_i part found
    obtain ⟨regular, after, before, around, none⟩ := List.find?_eq_some_iff_append.mp found
    obtain ⟨kind, children⟩ := part
    obtain ⟨text, rfl⟩ : ∃ text, kind = .regular text := by
      cases kind <;> first | exact ⟨_, rfl⟩ | cases regular
    simp only [requiredValue, value?] at last
    split at last
    · cases last
    · rename_i filled
      obtain rfl := Except.ok.inj last
      refine ⟨before.reverse, children, after.reverse, ?_, by rwa [String.isEmpty_iff] at filled, by simpa using none⟩
      rw [← List.reverse_reverse parts, around]
      simp
  · cases last

theorem lastRegularValue_mapLastRegular {f : String → String} (last : lastRegularValue parts = .ok value)
    (filled : f value ≠ "") : lastRegularValue (mapLastRegular f parts) = .ok (f value) := by
  obtain ⟨before, children, after, rfl, _, none⟩ := exists_lastRegular last
  rw [mapLastRegular_append f none, lastRegularValue_append none filled]

/-! Parts that are left as they are when they are folded again. -/

/-- The text before a part allows it to stay: it is no lone `*` before an `:is()` or `:not()`. -/
def Allows (value : String) (part : SelectorTree) : Prop :=
  value = "*" → (part.children.head?.bind (·.pseudo?)).any (·.isFoldable) = false

/-- Parts in which nothing is left to fold. -/
structure Normal (parts : List SelectorTree) : Prop where
  folded : ∀ part ∈ parts, part.isExtended = true → part.isFoldable = false
  apart : (parts.map toClass).IsChain fun c next => ¬(c = .regular ∧ next = .regular)
  behind : ∀ before part after, parts = before ++ part :: after → part.isExtended = true →
    ∃ value, lastRegularValue before = .ok value ∧ Allows value part

theorem cons_eq_concat {x : SelectorTree} (same : parts ++ [x] = before ++ part :: after) :
    (before = parts ∧ part = x ∧ after = []) ∨ ∃ rest, parts = before ++ part :: rest := by
  rcases List.eq_nil_or_concat after with rfl | ⟨rest, last, rfl⟩
  · obtain ⟨rfl, one⟩ := List.append_inj' same rfl
    exact .inl ⟨rfl, (List.cons.inj one).1.symm, rfl⟩
  · rw [List.concat_eq_append, ← List.cons_append, ← List.append_assoc] at same
    exact .inr ⟨rest, (List.append_inj' same rfl).1⟩

namespace Normal

theorem first (regular : part.isRegular = true) : Normal [part] := by
  have other := isExtended_of_isRegular regular
  refine ⟨by simp [other], List.isChain_singleton _, fun before next after same extended => ?_⟩
  obtain ⟨_, rfl⟩ : before = [] ∧ next = part := by
    cases before with
    | nil => exact ⟨rfl, (List.cons.inj same).1.symm⟩
    | cons _ _ => simp at same
  exact absurd (other.symm.trans extended) Bool.false_ne_true

/-- The text of the last regular part may become another that is no lone `*`. -/
theorem mapLastRegular (normal : Normal parts) (last : lastRegularValue parts = .ok value) {f : String → String}
    (filled : f value ≠ "") (other : f value ≠ "*") : Normal (mapLastRegular f parts) := by
  have classes := map_mapFirstRegular f parts.reverse
  obtain ⟨before, children, after, rfl, _, none⟩ := exists_lastRegular last
  rw [mapLastRegular_append f none]
  refine ⟨fun part member => ?_, ?_, fun start part rest same extended => ?_⟩
  · rcases List.mem_append.mp member with member | member
    · exact normal.folded part (List.mem_append_left _ member)
    · rcases List.mem_cons.mp member with rfl | member
      · exact nofun
      · exact normal.folded part (List.mem_append_right _ (List.mem_cons_of_mem _ member))
  · have apart := normal.apart
    rw [List.map_append, List.map_cons] at apart ⊢
    exact apart
  · rcases List.append_eq_append_iff.mp same with ⟨middle, rfl, tail⟩ | ⟨middle, rfl, tail⟩
    · cases middle with
      | nil =>
        obtain ⟨rfl, _⟩ := List.cons.inj tail
        cases extended
      | cons _ middle =>
        obtain ⟨rfl, rfl⟩ := List.cons.inj tail
        have none : ∀ part ∈ middle, part.isRegular = false := fun part member => none part (by simp [member])
        exact ⟨f value, lastRegularValue_append none filled, fun same => absurd same other⟩
    · cases middle with
      | nil =>
        obtain ⟨rfl, _⟩ := List.cons.inj tail
        cases extended
      | cons _ middle =>
        obtain ⟨rfl, rfl⟩ := List.cons.inj tail
        exact normal.behind start part (middle ++ node (.regular value) children :: after) (by simp) extended

theorem push (normal : Normal parts) (folded : part.isExtended = true → part.isFoldable = false)
    (apart : ∀ last ∈ parts.getLast?, ¬(last.isRegular = true ∧ part.isRegular = true))
    (behind : part.isExtended = true → ∃ value, lastRegularValue parts = .ok value ∧ Allows value part) :
    Normal (parts ++ [part]) := by
  refine ⟨fun other member => ?_, ?_, fun before other after same extended => ?_⟩
  · rcases List.mem_append.mp member with member | member
    · exact normal.folded other member
    · obtain rfl := List.mem_singleton.mp member
      exact folded
  · rw [List.map_append, List.isChain_append]
    refine ⟨normal.apart, List.isChain_singleton _, fun c last next is => ?_⟩
    obtain ⟨one, atEnd, rfl⟩ := Option.map_eq_some_iff.mp ((List.getLast?_map ..).symm.trans last)
    obtain rfl := Option.some.inj is
    simpa [isRegular] using apart one atEnd
  · rcases cons_eq_concat same with ⟨rfl, rfl, _⟩ | ⟨rest, rfl⟩
    · exact behind extended
    · exact normal.behind before other rest rfl extended

/-- What is written behind the text of the last regular part makes it longer than one sign. -/
theorem mapLastRegular_append (normal : Normal parts) (last : lastRegularValue parts = .ok value) {more : String}
    (added : more ≠ "") : Normal (SelectorTree.mapLastRegular (· ++ more) parts) := by
  obtain ⟨before, children, after, _, filled, _⟩ := exists_lastRegular last
  refine normal.mapLastRegular last (fun none => filled (String.append_eq_empty_iff.mp none).1) fun lone => ?_
  have length := congrArg String.length lone
  have first : value.length ≠ 0 := mt String.length_eq_zero_iff.mp filled
  have second : more.length ≠ 0 := mt String.length_eq_zero_iff.mp added
  rw [String.length_append, show "*".length = 1 from rfl] at length
  omega

theorem foldInto (normal : Normal parts) {pseudo : PseudoClass} {list : SelectorTree} {result : List SelectorTree}
    (is : foldInto parts pseudo list = .ok result) : Normal result := by
  obtain ⟨value, last, is⟩ := exists_of_bind_eq_ok is
  obtain ⟨alternatives, _, is⟩ := exists_of_bind_eq_ok is
  obtain rfl := Except.ok.inj is
  exact normal.mapLastRegular_append last fun none => absurd (String.append_eq_empty_iff.mp none).2 (by decide)

theorem keepExtended (normal : Normal parts) (extended : part.isExtended = true) (folded : part.isFoldable = false)
    {result : List SelectorTree} (is : keepExtended parts part = .ok result) : Normal result := by
  have other (last : SelectorTree) : ¬(last.isRegular = true ∧ part.isRegular = true) :=
    fun both => Bool.false_ne_true ((isExtended_of_isRegular both.2).symm.trans extended)
  obtain ⟨value, last, is⟩ := exists_of_bind_eq_ok is
  dsimp only at is
  split at is
  · obtain rfl := Except.ok.inj is
    have inside : anyInsideRoot ≠ "" ∧ anyInsideRoot ≠ "*" := by decide
    have changed := normal.mapLastRegular (f := fun _ => anyInsideRoot) last inside.1 inside.2
    refine changed.push (fun _ => folded) (fun last _ => other last) fun _ => ?_
    exact ⟨anyInsideRoot, lastRegularValue_mapLastRegular last inside.1, fun same => absurd same inside.2⟩
  · rename_i free
    obtain rfl := Except.ok.inj is
    refine normal.push (fun _ => folded) (fun last _ => other last) fun _ => ⟨value, last, fun same => ?_⟩
    rw [same] at free
    simpa using free

theorem joinRegular (normal : Normal parts) (regular : part.isRegular = true)
    {result : List SelectorTree} (is : joinRegular parts part = .ok result) : Normal result := by
  rw [SelectorTree.joinRegular] at is
  split at is
  · obtain ⟨value, last, is⟩ := exists_of_bind_eq_ok is
    obtain ⟨text, _, is⟩ := exists_of_bind_eq_ok is
    obtain rfl := Except.ok.inj is
    exact normal.mapLastRegular_append last fun none => absurd (String.append_eq_empty_iff.mp none).1 (by decide)
  · rename_i alone
    obtain rfl := Except.ok.inj is
    have other := isExtended_of_isRegular regular
    refine normal.push (by simp [other]) (fun last atEnd both => alone ?_) (by simp [other])
    rw [atEnd]
    exact both.1

end Normal

/-! Extended parts. -/

/-- The extended part that asks a pseudo-class about a list. -/
def holding (pseudo : PseudoClass) (list : SelectorTree) : SelectorTree :=
  node .extended [node (.relative pseudo) [list]]

variable {pseudo : PseudoClass} {list : SelectorTree} {selectors : List SelectorTree}

/-- An extended part of a tree in which no pseudo-class has a second argument. -/
theorem extended_cases (shaped : part.Everywhere (Shape True)) (is : part.toClass = .extended) :
    (∃ pseudo list, part = holding pseudo list) ∨ ∃ kind, part = node .extended [leaf kind] := by
  obtain ⟨kind, children⟩ := part
  obtain rfl := NodeKind.eq_extended is
  obtain ⟨inner, rfl, around⟩ :
      ∃ inner, children = [inner] ∧ (inner.toClass = .absolute ∨ inner.toClass = .relative) := by
    rcases shaped.row.1 with only | only
    · obtain ⟨inner, rfl, absolute⟩ := List.map_eq_singleton_iff.mp only
      exact ⟨inner, rfl, .inl absolute⟩
    · obtain ⟨inner, rfl, relative⟩ := List.map_eq_singleton_iff.mp only
      exact ⟨inner, rfl, .inr relative⟩
  have inside := (shaped.child (List.mem_singleton.mpr rfl)).row
  obtain ⟨kind, lists⟩ := inner
  cases kind with
  | absolute pseudo argument =>
    obtain rfl : lists = [] := List.map_eq_nil_iff.mp inside.1
    exact .inr ⟨_, rfl⟩
  | relative pseudo =>
    match lists, inside.2 trivial rfl with
    | [], _ => exact .inr ⟨_, rfl⟩
    | [list], _ => exact .inl ⟨pseudo, list, rfl⟩
  | _ => exact around.elim nofun nofun

theorem isFoldable_holding : (holding pseudo list).isFoldable =
    ((pseudo.isFoldable && list.children.all isPlain) || anyFoldable list.children) := by
  obtain ⟨kind, selectors⟩ := list
  rw [holding, isFoldable, children_node]

theorem isFoldable_leaf (kind : NodeKind) : (node .extended [leaf kind]).isFoldable = false := by
  rw [leaf, isFoldable]
  simp

theorem exists_of_foldInside (folds : (holding pseudo list).foldInside = .ok part) :
    ∃ folded, list.foldList = .ok folded ∧ part = holding pseudo folded := by
  rw [holding, foldInside, foldLists, foldLists] at folds
  obtain ⟨lists, each, same⟩ := exists_of_bind_eq_ok folds
  obtain rfl := Except.ok.inj same
  obtain ⟨folded, inside, same⟩ := exists_of_bind_eq_ok each
  obtain rfl := Except.ok.inj same
  exact ⟨folded, inside, rfl⟩

theorem anyPartFoldable_eq_false_iff :
    anyPartFoldable parts = false ↔ ∀ part ∈ parts, part.isExtended = true → part.isFoldable = false := by
  induction parts with
  | nil => simp [anyPartFoldable]
  | cons part rest ih => rw [anyPartFoldable, Bool.or_eq_false_iff, ih, List.forall_mem_cons, Bool.and_eq_false_imp]

theorem anyFoldable_eq_false_iff :
    anyFoldable selectors = false ↔ ∀ selector ∈ selectors, anyPartFoldable selector.children = false := by
  induction selectors with
  | nil => simp [anyFoldable]
  | cons selector rest ih =>
    obtain ⟨kind, parts⟩ := selector
    rw [anyFoldable, Bool.or_eq_false_iff, ih, List.forall_mem_cons, children_node]

/-- A part inside which there is nothing to fold. It may disappear as a whole. -/
def Whole (part : SelectorTree) : Prop :=
  part.isExtended = true ∧ (part.isFoldable = true → ∃ pseudo list, part = holding pseudo list ∧
    pseudo.isFoldable = true ∧ list.children.all isPlain = true)

theorem settle_of_stays (stays : part.isFoldable = false) : settle done part = keepExtended done part := by
  rw [settle.eq_def]
  split
  · rename_i kind pseudo list lists more
    obtain ⟨inner, selectors⟩ := list
    rw [isFoldable, Bool.or_eq_false_iff] at stays
    rw [if_neg (by simp [stays.1])]
  · rfl

theorem settle_of_plain (pseudoFolds : pseudo.isFoldable = true) (plain : list.children.all isPlain = true) :
    settle done (holding pseudo list) = foldInto done pseudo list := by
  rw [holding, settle, if_pos (by rw [pseudoFolds, plain]; rfl)]

theorem Normal.settle (normal : Normal done) (whole : Whole part) {result : List SelectorTree}
    (is : settle done part = .ok result) : Normal result := by
  cases folds : part.isFoldable with
  | true =>
    obtain ⟨pseudo, list, rfl, pseudoFolds, plain⟩ := whole.2 folds
    exact normal.foldInto ((settle_of_plain pseudoFolds plain).symm.trans is)
  | false => exact normal.keepExtended whole.1 folds ((settle_of_stays folds).symm.trans is)

end CosmeticRules.SelectorTree
