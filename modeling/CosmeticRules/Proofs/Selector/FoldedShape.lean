import CosmeticRules.Selector.Folding
import CosmeticRules.Proofs.Selector.Standing

/-!
Folding keeps the shape of a tree. What can make it fail is a part without text or a list that is not plain.
-/

namespace CosmeticRules.SelectorTree

/-- A folded value with a property, or a fault that lies in the selector. -/
def Folds {α : Type} (P : α → Prop) (x : Except TreeFault α) : Prop := Yields P (x.mapError .tree)

namespace Folds

variable {α β : Type} {P : α → Prop} {Q : β → Prop} {x : Except TreeFault α}

theorem bind {f : α → Except TreeFault β} (first : Folds P x) (next : ∀ a, P a → Folds Q (f a)) :
    Folds Q (x >>= f) := by
  cases x with
  | ok a => exact next a first
  | error fault => exact first

end Folds

variable {single : Prop} {parts : List SelectorTree} {part tree : SelectorTree}

/-! The texts that are folded. -/

theorem folds_requiredValue (tree : SelectorTree) : Folds (fun _ => True) tree.requiredValue := by
  rw [requiredValue]
  split
  · split
    · rfl
    · trivial
  · rfl

theorem folds_plainListText (list : SelectorTree) : Folds (fun _ => True) list.plainListText := by
  have each (tree : SelectorTree) : Folds (fun _ => True) tree.plainValue := by
    rw [plainValue.eq_def]
    split
    · split
      · exact folds_requiredValue _
      · rfl
    · rfl
  have all (trees : List SelectorTree) : Folds (fun _ => True) (trees.mapM plainValue) := by
    induction trees with
    | nil => trivial
    | cons first rest ih =>
      rw [List.mapM_cons]
      exact (each first).bind fun _ _ => ih.bind fun _ _ => trivial
  have texts := all list.children
  rw [plainListText]
  cases values : list.children.mapM plainValue with
  | ok values => trivial
  | error fault =>
    rw [values] at texts
    exact texts

/-! The parts of a selector. -/

/-- Parts of which a selector of the right shape can consist. -/
def Parts (single : Prop) (parts : List SelectorTree) : Prop :=
  (node .selector parts).Everywhere (Shape single)

theorem Parts.lastRegularValue (done : Parts single parts) : Folds (fun _ => True) (lastRegularValue parts) := by
  have first : (parts.map toClass).head? = some .regular := done.row.1.1
  rw [SelectorTree.lastRegularValue]
  split
  · exact folds_requiredValue _
  · rename_i none
    cases parts with
    | nil => nomatch first
    | cons part rest =>
      have other := List.find?_eq_none.mp none part (by simp)
      exact absurd (by simpa [isRegular] using first) other

theorem map_mapFirstRegular (f : String → String) (parts : List SelectorTree) :
    (mapFirstRegular f parts).map toClass = parts.map toClass := by
  induction parts with
  | nil => rfl
  | cons part rest ih =>
    rw [mapFirstRegular]
    split
    · rw [List.map_cons, List.map_cons, toClass_mapValue]
    · rw [List.map_cons, List.map_cons, ih]

theorem forall_mapFirstRegular (f : String → String)
    (shaped : ∀ part ∈ parts, part.Everywhere (Shape single)) :
    ∀ part ∈ mapFirstRegular f parts, part.Everywhere (Shape single) := by
  induction parts with
  | nil => exact shaped
  | cons first rest ih =>
    have later : ∀ part ∈ rest, part.Everywhere (Shape single) :=
      fun part member => shaped part (List.mem_cons_of_mem _ member)
    rw [mapFirstRegular]
    split
    · exact List.forall_mem_cons.mpr ⟨(shaped first List.mem_cons_self).mapValue f, later⟩
    · exact List.forall_mem_cons.mpr ⟨shaped first List.mem_cons_self, ih later⟩

theorem Parts.mapLastRegular (done : Parts single parts) (f : String → String) :
    Parts single (mapLastRegular f parts) := by
  have classes : (SelectorTree.mapLastRegular f parts).map toClass = parts.map toClass := by
    rw [SelectorTree.mapLastRegular, List.map_reverse, map_mapFirstRegular, List.map_reverse, List.reverse_reverse]
  refine .node (classes ▸ done.row) fun part member => ?_
  refine forall_mapFirstRegular f (fun part member => ?_) part (List.mem_reverse.mp member)
  exact done.child (List.mem_reverse.mp member)

theorem Parts.append (done : Parts single parts) (shaped : part.Everywhere (Shape single))
    (is : part.toClass = .regular ∨ part.toClass = .extended) : Parts single (parts ++ [part]) := by
  have above : part.toClass.above = .selector := is.elim (fun is => is ▸ rfl) fun is => is ▸ rfl
  exact done.push (done.row.push above nofun nofun) shaped

theorem Parts.foldInto (done : Parts single parts) (pseudo : PseudoClass) (list : SelectorTree) :
    Folds (Parts single) (foldInto parts pseudo list) :=
  done.lastRegularValue.bind fun _ _ => (folds_plainListText list).bind fun _ _ => done.mapLastRegular _

theorem Parts.keepExtended (done : Parts single parts) (shaped : part.Everywhere (Shape single))
    (is : part.toClass = .extended) : Folds (Parts single) (keepExtended parts part) := by
  refine done.lastRegularValue.bind fun value _ => ?_
  simp only
  split
  · exact (done.mapLastRegular _).append shaped (.inr is)
  · exact done.append shaped (.inr is)

theorem Parts.joinRegular (done : Parts single parts) (shaped : part.Everywhere (Shape single))
    (is : part.toClass = .regular) : Folds (Parts single) (joinRegular parts part) := by
  rw [SelectorTree.joinRegular]
  split
  · exact done.lastRegularValue.bind fun _ _ => (folds_requiredValue part).bind fun _ _ => done.mapLastRegular _
  · exact done.append shaped (.inl is)

theorem Parts.settle (done : Parts single parts) (shaped : part.Everywhere (Shape single))
    (is : part.toClass = .extended) : Folds (Parts single) (settle parts part) := by
  rw [settle.eq_def]
  split
  · split
    · exact done.foldInto _ _
    · exact done.keepExtended shaped is
  · exact done.keepExtended shaped is

/-! Whole trees. -/

/-- Nodes of given classes, all of the right shape. -/
structure Siblings (single : Prop) (classes : List NodeClass) (trees : List SelectorTree) : Prop where
  map_toClass : trees.map toClass = classes
  shaped : ∀ tree ∈ trees, tree.Everywhere (Shape single)

theorem Siblings.cons {trees : List SelectorTree} {classes : List NodeClass} {c : NodeClass}
    (first : tree.toClass = c ∧ tree.Everywhere (Shape single)) (later : Siblings single classes trees) :
    Siblings single (c :: classes) (tree :: trees) :=
  ⟨by rw [List.map_cons, first.1, later.map_toClass], List.forall_mem_cons.mpr ⟨first.2, later.shaped⟩⟩

theorem Siblings.node {trees : List SelectorTree} {kind : NodeKind} {classes : List NodeClass}
    (row : Siblings single classes trees) (fits : Shape single kind classes) :
    (SelectorTree.node kind trees).Everywhere (Shape single) :=
  .node (row.map_toClass ▸ fits) row.shaped

/-- The children of a pseudo-class. -/
theorem toClass_argument {pseudo : NodeKind} {classes : List NodeClass} (takes : pseudo.Takes classes)
    (is : pseudo.toClass = .absolute ∨ pseudo.toClass = .relative) : ∀ c ∈ classes, c = .selectorList := by
  cases pseudo with
  | absolute pseudo argument =>
    obtain rfl : classes = [] := takes
    exact nofun
  | relative pseudo => exact takes
  | _ => exact is.elim nofun nofun

mutual

theorem foldList_folds (list : SelectorTree) (shaped : list.Everywhere (Shape single))
    (is : list.toClass = .selectorList) :
    Folds (fun folded => folded.toClass = .selectorList ∧ folded.Everywhere (Shape single)) list.foldList := by
  match list with
  | .node kind selectors =>
    obtain rfl := NodeKind.eq_selectorList is
    have selector (tree : SelectorTree) (member : tree ∈ selectors) : tree.toClass = .selector :=
      shaped.row.1.2 _ (List.mem_map_of_mem member)
    rw [foldList]
    refine (foldSelectors_folds selectors (fun tree member => shaped.child member) selector).bind fun folded row => ?_
    exact ⟨rfl, row.node shaped.row⟩

theorem foldSelectors_folds (selectors : List SelectorTree)
    (shaped : ∀ tree ∈ selectors, tree.Everywhere (Shape single))
    (are : ∀ tree ∈ selectors, tree.toClass = .selector) :
    Folds (Siblings single (selectors.map toClass)) (foldSelectors selectors) := by
  match selectors with
  | [] => exact ⟨rfl, shaped⟩
  | selector :: rest =>
    rw [foldSelectors]
    obtain ⟨first, later⟩ := List.forall_mem_cons.mp shaped
    obtain ⟨is, are⟩ := List.forall_mem_cons.mp are
    refine (foldSelector_folds selector first is).bind fun folded good => ?_
    refine (foldSelectors_folds rest later are).bind fun others row => ?_
    rw [List.map_cons, is]
    exact row.cons good

theorem foldSelector_folds (selector : SelectorTree) (shaped : selector.Everywhere (Shape single))
    (is : selector.toClass = .selector) :
    Folds (fun folded => folded.toClass = .selector ∧ folded.Everywhere (Shape single)) selector.foldSelector := by
  match selector with
  | .node kind [] => exact ⟨is, shaped⟩
  | .node kind (first :: rest) =>
    obtain rfl := NodeKind.eq_selector is
    have row := shaped.row.1
    have begins : Parts single [first] :=
      .node ⟨⟨row.1, fun c member => row.2 c (List.mem_cons.mpr (.inl (List.mem_singleton.mp member)))⟩, nofun⟩
        fun tree member => shaped.child (List.mem_cons.mpr (.inl (List.mem_singleton.mp member)))
    rw [foldSelector]
    refine (foldParts_folds [first] rest begins (fun tree member => shaped.child (List.mem_cons_of_mem _ member))
      fun tree member => row.2 _ (List.mem_map_of_mem (List.mem_cons_of_mem _ member))).bind fun folded good => ?_
    exact ⟨rfl, good⟩

theorem foldParts_folds (done rest : List SelectorTree) (begins : Parts single done)
    (shaped : ∀ part ∈ rest, part.Everywhere (Shape single))
    (are : ∀ part ∈ rest, part.toClass = .regular ∨ part.toClass = .extended) :
    Folds (Parts single) (foldParts done rest) := by
  match rest with
  | [] => exact begins
  | part :: rest =>
    obtain ⟨first, later⟩ := List.forall_mem_cons.mp shaped
    obtain ⟨is, are⟩ := List.forall_mem_cons.mp are
    have next (done : List SelectorTree) (begins : Parts single done) :
        Folds (Parts single) (foldParts done rest) := foldParts_folds done rest begins later are
    rw [foldParts]
    split
    · rename_i extended
      have extended : part.toClass = .extended := by simpa [isExtended] using extended
      split
      · refine (foldInside_folds part first extended).bind fun folded good => ?_
        exact (begins.settle good.2 good.1).bind next
      · exact (begins.keepExtended first extended).bind next
    · split
      · rename_i regular
        exact (begins.joinRegular first (by simpa [isRegular] using regular)).bind next
      · exact next done begins

theorem foldInside_folds (part : SelectorTree) (shaped : part.Everywhere (Shape single))
    (is : part.toClass = .extended) :
    Folds (fun folded => folded.toClass = .extended ∧ folded.Everywhere (Shape single)) part.foldInside := by
  match part with
  | .node kind [] => exact ⟨is, shaped⟩
  | .node kind (.node pseudo lists :: rest) =>
    obtain rfl := NodeKind.eq_extended is
    have inside : (node pseudo lists).Everywhere (Shape single) := shaped.child List.mem_cons_self
    have around : pseudo.toClass = .absolute ∨ pseudo.toClass = .relative :=
      shaped.row.1.imp (fun only => (List.cons.inj only).1) fun only => (List.cons.inj only).1
    have argument (tree : SelectorTree) (member : tree ∈ lists) : tree.toClass = .selectorList :=
      toClass_argument inside.row.1 around _ (List.mem_map_of_mem member)
    rw [foldInside]
    refine (foldLists_folds lists (fun tree member => inside.child member) argument).bind fun folded row => ?_
    refine ⟨rfl, .node shaped.row (List.forall_mem_cons.mpr ⟨row.node inside.row, fun tree member => ?_⟩)⟩
    exact shaped.child (List.mem_cons_of_mem _ member)

theorem foldLists_folds (lists : List SelectorTree)
    (shaped : ∀ tree ∈ lists, tree.Everywhere (Shape single))
    (are : ∀ tree ∈ lists, tree.toClass = .selectorList) :
    Folds (Siblings single (lists.map toClass)) (foldLists lists) := by
  match lists with
  | [] => exact ⟨rfl, shaped⟩
  | list :: rest =>
    obtain ⟨first, later⟩ := List.forall_mem_cons.mp shaped
    obtain ⟨is, are⟩ := List.forall_mem_cons.mp are
    rw [foldLists]
    refine (foldList_folds list first is).bind fun folded good => ?_
    refine (foldLists_folds rest later are).bind fun others row => ?_
    rw [List.map_cons, is]
    exact row.cons good

end

end CosmeticRules.SelectorTree
