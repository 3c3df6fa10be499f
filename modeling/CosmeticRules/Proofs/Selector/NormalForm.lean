import CosmeticRules.Proofs.Selector.NormalParts

/-!
What folding leads to. No `:is()` or `:not()` is left that native matching could take over, the regular parts of a
folded selector stand apart, and folding once more changes nothing.
-/

namespace CosmeticRules.SelectorTree

variable {parts done selectors : List SelectorTree} {part tree list : SelectorTree} {pseudo : PseudoClass}

/-! Whole trees. -/

mutual

theorem foldList_normal (list : SelectorTree) (shaped : list.Everywhere (Shape True))
    (is : list.toClass = .selectorList) {result : SelectorTree} (folds : list.foldList = .ok result) :
    ∀ selector ∈ result.children, Normal selector.children := by
  match list with
  | .node kind selectors =>
    obtain rfl := NodeKind.eq_selectorList is
    rw [foldList] at folds
    obtain ⟨folded, each, same⟩ := exists_of_bind_eq_ok folds
    obtain rfl := Except.ok.inj same
    exact foldSelectors_normal selectors (fun tree member => shaped.child member)
      (fun tree member => shaped.row.1.2 _ (List.mem_map_of_mem member)) each

theorem foldSelectors_normal (selectors : List SelectorTree)
    (shaped : ∀ tree ∈ selectors, tree.Everywhere (Shape True)) (are : ∀ tree ∈ selectors, tree.toClass = .selector)
    {result : List SelectorTree} (folds : foldSelectors selectors = .ok result) :
    ∀ selector ∈ result, Normal selector.children := by
  match selectors with
  | [] =>
    obtain rfl := Except.ok.inj folds
    exact nofun
  | selector :: rest =>
    obtain ⟨first, later⟩ := List.forall_mem_cons.mp shaped
    obtain ⟨is, are⟩ := List.forall_mem_cons.mp are
    rw [foldSelectors] at folds
    obtain ⟨folded, here, folds⟩ := exists_of_bind_eq_ok folds
    obtain ⟨others, after, same⟩ := exists_of_bind_eq_ok folds
    obtain rfl := Except.ok.inj same
    exact List.forall_mem_cons.mpr
      ⟨foldSelector_normal selector first is here, foldSelectors_normal rest later are after⟩

theorem foldSelector_normal (selector : SelectorTree) (shaped : selector.Everywhere (Shape True))
    (is : selector.toClass = .selector) {result : SelectorTree} (folds : selector.foldSelector = .ok result) :
    Normal result.children := by
  match selector with
  | .node kind [] =>
    obtain rfl := NodeKind.eq_selector is
    cases shaped.row.1.1
  | .node kind (first :: rest) =>
    obtain rfl := NodeKind.eq_selector is
    rw [foldSelector] at folds
    obtain ⟨parts, all, same⟩ := exists_of_bind_eq_ok folds
    obtain rfl := Except.ok.inj same
    have regular : first.isRegular = true := beq_iff_eq.mpr (Option.some.inj shaped.row.1.1)
    exact foldParts_normal [first] rest (.first regular)
      (fun part member => shaped.child (List.mem_cons_of_mem _ member)) all

theorem foldParts_normal (done rest : List SelectorTree) (normal : Normal done)
    (shaped : ∀ part ∈ rest, part.Everywhere (Shape True)) {result : List SelectorTree}
    (folds : foldParts done rest = .ok result) : Normal result := by
  match rest with
  | [] =>
    obtain rfl := Except.ok.inj folds
    exact normal
  | part :: rest =>
    obtain ⟨first, later⟩ := List.forall_mem_cons.mp shaped
    rw [foldParts] at folds
    split at folds
    · rename_i extended
      split at folds
      · obtain ⟨inside, folded, folds⟩ := exists_of_bind_eq_ok folds
        obtain ⟨next, settled, folds⟩ := exists_of_bind_eq_ok folds
        have whole := foldInside_whole part first (beq_iff_eq.mp extended) folded
        exact foldParts_normal next rest (normal.settle whole settled) later folds
      · rename_i stays
        obtain ⟨next, kept, folds⟩ := exists_of_bind_eq_ok folds
        have stays := Bool.eq_false_iff.mpr stays
        exact foldParts_normal next rest (normal.keepExtended extended stays kept) later folds
    · split at folds
      · rename_i regular
        obtain ⟨next, joined, folds⟩ := exists_of_bind_eq_ok folds
        exact foldParts_normal next rest (normal.joinRegular regular joined) later folds
      · exact foldParts_normal done rest normal later folds

theorem foldInside_whole (part : SelectorTree) (shaped : part.Everywhere (Shape True))
    (is : part.toClass = .extended) {result : SelectorTree} (folds : part.foldInside = .ok result) : Whole result := by
  match part with
  | .node kind [] => rcases extended_cases shaped is with ⟨_, _, same⟩ | ⟨_, same⟩ <;> cases same
  | .node kind (.node pseudo [] :: rest) =>
    obtain ⟨inner, same⟩ : ∃ inner, node kind (node pseudo [] :: rest) = node .extended [leaf inner] := by
      rcases extended_cases shaped is with ⟨_, _, same⟩ | leaf
      · cases same
      · exact leaf
    rw [same, leaf, foldInside, foldLists] at folds
    obtain rfl := Except.ok.inj folds
    exact ⟨rfl, fun foldable => absurd ((isFoldable_leaf inner).symm.trans foldable) Bool.false_ne_true⟩
  | .node kind (.node inner (list :: lists) :: rest) =>
    obtain ⟨pseudo, rfl, rfl, rfl, rfl⟩ :
        ∃ pseudo, kind = .extended ∧ inner = .relative pseudo ∧ lists = [] ∧ rest = [] := by
      rcases extended_cases shaped is with ⟨pseudo, _, same⟩ | ⟨_, same⟩
      · cases same
        exact ⟨pseudo, rfl, rfl, rfl, rfl⟩
      · cases same
    have argument : (node (.relative pseudo) [list]).Everywhere (Shape True) := shaped.child List.mem_cons_self
    have isList : list.toClass = .selectorList := argument.row.1 _ List.mem_cons_self
    obtain ⟨folded, inside, rfl⟩ := exists_of_foldInside folds
    refine ⟨rfl, fun foldable => ⟨pseudo, folded, rfl, ?_⟩⟩
    have normal := foldList_normal list (argument.child List.mem_cons_self) isList inside
    have none : anyFoldable folded.children = false :=
      anyFoldable_eq_false_iff.mpr fun selector member =>
        anyPartFoldable_eq_false_iff.mpr (normal selector member).folded
    rw [isFoldable_holding, none, Bool.or_false, Bool.and_eq_true] at foldable
    exact foldable

end

/-! No pseudo-class is left that native matching could take over. -/

/-- There is nothing to fold in a node. -/
def Clean : SelectorTree → Prop
  | node .selectorList selectors => anyFoldable selectors = false
  | node .selector parts => anyPartFoldable parts = false
  | node .extended children => (node .extended children).isFoldable = false
  | node (.relative pseudo) lists =>
    ∀ list ∈ lists, (pseudo.isFoldable && list.children.all isPlain) = false ∧ anyFoldable list.children = false
  | _ => True

theorem clean_leaf (kind : NodeKind) : Clean (leaf kind) := by
  cases kind with
  | relative pseudo => exact nofun
  | extended => exact isFoldable.eq_2 _ (by simp)
  | selectorList => rfl
  | selector => rfl
  | _ => trivial

theorem Clean.child (clean : Clean tree) (shaped : tree.Everywhere (Shape True)) {child : SelectorTree}
    (member : child ∈ tree.children) : Clean child := by
  have row := shaped.row.1
  have inside := List.mem_map_of_mem (f := toClass) member
  obtain ⟨kind, children⟩ := tree
  cases kind with
  | selectorList =>
    obtain ⟨kind, parts⟩ := child
    obtain rfl := NodeKind.eq_selector (row.2 _ inside)
    exact anyFoldable_eq_false_iff.mp clean _ member
  | selector =>
    have none := anyPartFoldable_eq_false_iff.mp clean child member
    obtain ⟨kind, children⟩ := child
    rcases row.2 _ inside with is | is
    · cases kind <;> trivial
    · obtain rfl := NodeKind.eq_extended is
      exact none rfl
  | extended =>
    rcases extended_cases shaped rfl with ⟨pseudo, list, same⟩ | ⟨kind, same⟩
    · cases same
      obtain rfl := List.mem_singleton.mp member
      have none : (holding pseudo list).isFoldable = false := clean
      rw [isFoldable_holding, Bool.or_eq_false_iff] at none
      exact List.forall_mem_singleton.mpr none
    · cases same
      exact List.mem_singleton.mp member ▸ clean_leaf kind
  | relative pseudo =>
    obtain ⟨kind, selectors⟩ := child
    obtain rfl := NodeKind.eq_selectorList (row _ inside)
    exact (clean _ member).2
  | regular value => cases (List.map_eq_nil_iff.mp row ▸ member : child ∈ [])
  | absolute pseudo argument => cases (List.map_eq_nil_iff.mp row ▸ member : child ∈ [])

theorem Clean.at? (clean : Clean tree) (shaped : tree.Everywhere (Shape True)) {path : List Nat} {node : SelectorTree}
    (here : tree.at? path = some node) : Clean node := by
  induction path generalizing tree with
  | nil => exact Option.some.inj here ▸ clean
  | cons i path ih =>
    obtain ⟨child, is, here⟩ := Option.bind_eq_some_iff.mp here
    have member := List.mem_of_getElem? is
    exact ih (clean.child shaped member) (shaped.child member) here

/-! Folding once more. -/

theorem foldParts_again {rest : List SelectorTree} (normal : Normal (done ++ rest))
    (are : ∀ part ∈ rest, part.isRegular = true ∨ part.isExtended = true) :
    foldParts done rest = .ok (done ++ rest) := by
  induction rest generalizing done with
  | nil => rw [foldParts, List.append_nil]; rfl
  | cons part rest ih =>
    obtain ⟨is, are⟩ := List.forall_mem_cons.mp are
    have next : foldParts (done ++ [part]) rest = .ok (done ++ part :: rest) := by
      rw [ih (by simpa using normal) are, List.append_assoc, List.singleton_append]
    rw [foldParts]
    rcases is with regular | extended
    · have alone : done.getLast?.any (·.isRegular) = false := by
        cases atEnd : done.getLast? with
        | none => rfl
        | some last =>
          have apart := normal.apart
          rw [List.map_append, List.isChain_append] at apart
          have other := apart.2.2 last.toClass (by rw [List.getLast?_map, atEnd]; rfl) part.toClass rfl
          exact beq_eq_false_iff_ne.mpr fun is => other ⟨is, beq_iff_eq.mp regular⟩
      rw [if_neg (by simp [isExtended_of_isRegular regular]), if_pos regular, joinRegular, if_neg (by simp [alone])]
      exact next
    · have stays := normal.folded part (by simp) extended
      obtain ⟨value, last, allows⟩ := normal.behind done part rest rfl extended
      have kept : keepExtended done part = .ok (done ++ [part]) := by
        rw [keepExtended, last]
        refine if_neg fun both => ?_
        obtain ⟨lone, pseudo⟩ := Bool.and_eq_true_iff.mp both
        exact Bool.false_ne_true ((allows (beq_iff_eq.mp lone)).symm.trans pseudo)
      rw [if_pos extended, if_neg (by simp [stays]), kept]
      exact next

theorem foldSelectors_again (shaped : ∀ selector ∈ selectors, selector.Everywhere (Shape True))
    (are : ∀ selector ∈ selectors, selector.toClass = .selector)
    (normal : ∀ selector ∈ selectors, Normal selector.children) : foldSelectors selectors = .ok selectors := by
  induction selectors with
  | nil => rfl
  | cons selector rest ih =>
    obtain ⟨kind, parts⟩ := selector
    obtain rfl := NodeKind.eq_selector (are _ List.mem_cons_self)
    have row := (shaped _ List.mem_cons_self).row.1
    have here : (node .selector parts).foldSelector = .ok (node .selector parts) := by
      cases parts with
      | nil => cases row.1
      | cons first parts =>
        have again : foldParts [first] parts = .ok (first :: parts) := by
          refine foldParts_again (normal _ List.mem_cons_self) fun part member => ?_
          have is := row.2 _ (List.mem_map_of_mem (List.mem_cons_of_mem _ member))
          exact is.imp beq_iff_eq.mpr beq_iff_eq.mpr
        rw [foldSelector, again]
        rfl
    rw [foldSelectors, here, ih (fun _ member => shaped _ (List.mem_cons_of_mem _ member))
      (fun _ member => are _ (List.mem_cons_of_mem _ member)) fun _ member => normal _ (List.mem_cons_of_mem _ member)]
    rfl

end CosmeticRules.SelectorTree
