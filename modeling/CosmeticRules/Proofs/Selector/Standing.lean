import CosmeticRules.Proofs.Selector.OpenDraft
import CosmeticRules.Proofs.Selector.Shape

/-!
Drafts whose tree has its shape and whose open node is there. Every change that the reader makes to such a
draft leads to another one, or is refused for a reason that lies in the selector.
-/

namespace CosmeticRules

open SelectorTree

namespace SelectorError

/-- The errors that no selector causes: a draft would have to be open at the wrong place. -/
def isInternal : SelectorError → Bool
  | noParent | nothingOpen | nothingToContinue | openHasNoValue | noSelector | patternOutside => true
  | tree .noRegular | tree .notRelative | tree .noPseudo => true
  | _ => false

end SelectorError

/-- A result with a property, or an error that lies in the selector. -/
def Yields {α : Type} (P : α → Prop) : Except SelectorError α → Prop
  | .ok a => P a
  | .error e => e.isInternal = false

namespace Yields

variable {α β : Type} {P : α → Prop} {Q : β → Prop} {x : Except SelectorError α}

theorem bind {f : α → Except SelectorError β} (first : Yields P x) (next : ∀ a, P a → Yields Q (f a)) :
    Yields Q (x >>= f) := by
  cases x with
  | ok a => exact next a first
  | error e => exact first

theorem mono {P' : α → Prop} (yields : Yields P x) (weaker : ∀ a, P a → P' a) : Yields P' x := by
  cases x with
  | ok a => exact weaker a yields
  | error e => exact yields

theorem map {f : α → β} (yields : Yields P x) (next : ∀ a, P a → Q (f a)) : Yields Q (x.map f) := by
  cases x with
  | ok a => exact next a yields
  | error e => exact yields

end Yields

namespace NodeClass

/-- The class of the nodes below which nodes of a class stand. -/
def above : NodeClass → NodeClass
  | regular | extended => selector
  | absolute | relative => extended
  | selector => selectorList
  | selectorList => relative

theorem eq_selector {c : NodeClass} (inList : c.above = selectorList) : c = selector := by
  cases c <;> first | rfl | nomatch inList

theorem eq_part {c : NodeClass} (inSelector : c.above = selector) : c = regular ∨ c = extended := by
  cases c <;> first | exact .inl rfl | exact .inr rfl | nomatch inSelector

theorem eq_selectorList {c : NodeClass} (inRelative : c.above = relative) : c = selectorList := by
  cases c <;> first | rfl | nomatch inRelative

end NodeClass

namespace SelectorTree

/-- The shape of the trees that are read. Where every pseudo-class is to have a single argument, that is part
of the shape. -/
def Shape (single : Prop) (kind : NodeKind) (classes : List NodeClass) : Prop :=
  kind.Takes classes ∧ (single → kind.TakesOneList classes)

variable {single : Prop} {tree node parent : SelectorTree} {path way : List Nat}

/-- One more child of a class that stands below the kind. -/
theorem Shape.push {kind : NodeKind} {classes : List NodeClass} (row : Shape single kind classes)
    {c : NodeClass} (below : c.above = kind.toClass) (other : kind.toClass ≠ .extended)
    (first : single → kind.toClass = .relative → classes = []) : Shape single kind (classes ++ [c]) := by
  refine ⟨?_, fun is relative => by simp [first is relative]⟩
  have takes := row.1
  cases kind with
  | selectorList =>
    obtain rfl := NodeClass.eq_selector below
    refine ⟨by simp, fun other member => ?_⟩
    rcases List.mem_append.mp member with old | new
    · exact takes.2 other old
    · exact List.mem_singleton.mp new
  | selector =>
    refine ⟨by rw [List.head?_append, takes.1, Option.some_or], fun other member => ?_⟩
    rcases List.mem_append.mp member with old | new
    · exact takes.2 other old
    · obtain rfl := List.mem_singleton.mp new
      exact NodeClass.eq_part below
  | relative pseudo =>
    intro other member
    rcases List.mem_append.mp member with old | new
    · exact takes other old
    · obtain rfl := List.mem_singleton.mp new
      exact NodeClass.eq_selectorList below
  | extended => exact absurd rfl other
  | regular value => cases c <;> nomatch below
  | absolute pseudo argument => cases c <;> nomatch below

theorem Everywhere.mapValue (shaped : tree.Everywhere (Shape single)) (f : String → String) :
    (tree.mapValue f).Everywhere (Shape single) := by
  obtain ⟨kind, nodes⟩ := tree
  have row := shaped.row
  cases kind with
  | regular value => exact .node row fun child member => shaped.child member
  | absolute pseudo argument => exact .node row fun child member => shaped.child member
  | _ => exact shaped

@[simp] theorem toClass_mapValue (f : String → String) (tree : SelectorTree) :
    (tree.mapValue f).toClass = tree.toClass := by
  obtain ⟨kind, nodes⟩ := tree
  cases kind <;> rfl

@[simp] theorem children_mapValue (f : String → String) (tree : SelectorTree) :
    (tree.mapValue f).children = tree.children := by
  obtain ⟨kind, nodes⟩ := tree
  cases kind <;> rfl

theorem Everywhere.push (shaped : tree.Everywhere (Shape single)) {child : SelectorTree}
    (fits : Shape single tree.kind (tree.children.map toClass ++ [child.toClass]))
    (inside : child.Everywhere (Shape single)) : (tree.push child).Everywhere (Shape single) := by
  refine .node ?_ ?_
  · rw [List.map_append]
    exact fits
  · intro other member
    rcases List.mem_append.mp member with old | new
    · exact shaped.child old
    · exact List.mem_singleton.mp new ▸ inside

theorem everywhere_leaf {kind : NodeKind} (fits : Shape single kind []) :
    (leaf kind).Everywhere (Shape single) := .node fits (by simp)

theorem everywhere_regular (value : String) : (leaf (.regular value)).Everywhere (Shape single) :=
  everywhere_leaf ⟨rfl, fun _ => nofun⟩

/-- The selector with which a list begins. -/
def firstSelector (value : String) : SelectorTree := .node .selector [leaf (.regular value)]

theorem everywhere_firstSelector (value : String) : (firstSelector value).Everywhere (Shape single) := by
  refine .node ⟨⟨rfl, by simp [leaf, toClass, kind, NodeKind.toClass]⟩, fun _ => nofun⟩ ?_
  intro child member
  exact List.mem_singleton.mp member ▸ everywhere_regular value

/-- The list with which an argument begins. -/
def firstList (value : String) : SelectorTree := .node .selectorList [firstSelector value]

theorem everywhere_firstList (value : String) : (firstList value).Everywhere (Shape single) := by
  refine .node ⟨⟨by simp, by simp [firstSelector, toClass, kind, NodeKind.toClass]⟩,
    fun _ => nofun⟩ ?_
  intro child member
  exact List.mem_singleton.mp member ▸ everywhere_firstSelector value

theorem toClass_of_takes {kind : NodeKind} {classes : List NodeClass} {c : NodeClass}
    (takes : kind.Takes classes) (member : c ∈ classes) : kind.toClass = c.above := by
  cases kind with
  | selectorList => exact (takes.2 c member) ▸ rfl
  | selector => rcases takes.2 c member with rfl | rfl <;> rfl
  | extended =>
    rcases takes with rfl | rfl
    · exact List.mem_singleton.mp member ▸ rfl
    · exact List.mem_singleton.mp member ▸ rfl
  | relative pseudo => exact (takes c member) ▸ rfl
  | regular value => exact absurd (takes ▸ member) (by simp)
  | absolute pseudo argument => exact absurd (takes ▸ member) (by simp)

/-- The node around the end of a path. -/
theorem exists_parent (shaped : tree.Everywhere (Shape single)) {i : Nat}
    (here : tree.at? (way ++ [i]) = some node) :
    ∃ parent, tree.at? way = some parent ∧ parent.toClass = node.toClass.above := by
  rw [at?_append] at here
  obtain ⟨parent, around, inside⟩ := Option.bind_eq_some_iff.mp here
  obtain ⟨child, is, same⟩ := Option.bind_eq_some_iff.mp inside
  obtain rfl := Option.some.inj same
  have row := (shaped.at? around).row.1
  exact ⟨parent, around, toClass_of_takes row (List.mem_map_of_mem (List.mem_of_getElem? is))⟩

theorem closest?_self (is : node.toClass = .selector) (here : tree.at? path = some node) :
    tree.closest? .selector path = some path := by
  have self : node.closest? .selector [] = some [] := if_pos is
  have whole := closest?_append here self
  rwa [List.append_nil] at whole

/-! Places where a combinator leads to no argument that is there already. -/

/-- The last part of the selector that is open has no argument yet. -/
def EndsFresh (tree : SelectorTree) (path : List Nat) : Prop :=
  ∀ way n m, tree.closest? .selector path = some way → tree.degree? way = some (n + 1) →
    tree.degree? (way ++ [n, 0]) = some m → m = 0

theorem EndsFresh.of_closest? (fresh : tree.EndsFresh path) {other : List Nat}
    (same : tree.closest? .selector other = tree.closest? .selector path) : tree.EndsFresh other :=
  fun way n m closest => fresh way n m (same ▸ closest)

theorem EndsFresh.mapValue (fresh : tree.EndsFresh path) (f : String → String) :
    (tree.modifyAt (·.mapValue f) path).EndsFresh path := by
  intro way n m closest width inner
  rw [degree?_modifyAt (children_mapValue f)] at width inner
  rw [closest?_modifyAt (toClass_mapValue f)] at closest
  exact fresh way n m closest width inner

/-- The last part of a selector, seen from a node in it. -/
theorem endsFresh_of_selector {rest : List Nat} (here : tree.at? way = some node)
    (closest : node.closest? .selector rest = some [])
    (inner : ∀ n m, node.children.length = n + 1 → node.degree? [n, 0] = some m → m = 0) :
    tree.EndsFresh (way ++ rest) := by
  intro found n m closest' width degree
  obtain rfl : way = found := by
    have same := (closest?_append here closest).symm.trans closest'
    rw [List.append_nil] at same
    exact Option.some.inj same
  rw [degree?_of_at? here] at width
  rw [degree?, at?_append, here] at degree
  exact inner n m (Option.some.inj width) degree

/-! A branch that is added below the node at the end of a path. -/

section grafted

variable {branch : SelectorTree} {rest : List Nat}

theorem at?_grafted (here : tree.at? path = some parent) :
    (tree.modifyAt (·.push branch) path).at? (path ++ parent.children.length :: rest) = branch.at? rest := by
  rw [at?_append, at?_modifyAt_self here]
  exact at?_last parent.kind parent.children branch rest

/-- A branch that has a selector of its own. -/
theorem endsFresh_grafted_list (branch : SelectorTree) (way rest : List Nat)
    (here : tree.at? path = some parent)
    (inside : branch.at? way = some node) (closest : node.closest? .selector rest = some [])
    (inner : ∀ n m, node.children.length = n + 1 → node.degree? [n, 0] = some m → m = 0) :
    (tree.modifyAt (·.push branch) path).EndsFresh
      (path ++ parent.children.length :: (way ++ rest)) := by
  have reached : (tree.modifyAt (·.push branch) path).at? (path ++ parent.children.length :: way) = some node :=
    (at?_grafted here).trans inside
  have grouped : path ++ parent.children.length :: (way ++ rest) =
      (path ++ parent.children.length :: way) ++ rest := by simp
  rw [grouped]
  exact endsFresh_of_selector reached closest inner

/-- A part that has been added to a selector. -/
theorem endsFresh_grafted_part (branch : SelectorTree) (rest : List Nat) (here : tree.at? path = some parent)
    (is : parent.toClass = .selector) (closest : branch.closest? .selector rest = none)
    (inner : ∀ m, branch.degree? [0] = some m → m = 0) :
    (tree.modifyAt (·.push branch) path).EndsFresh (path ++ parent.children.length :: rest) := by
  -- The selector is the parent itself, and the branch is its last part.
  refine endsFresh_of_selector (at?_modifyAt_self here) ?_ ?_
  · refine (closest?_last parent.kind parent.children branch rest .selector).trans ?_
    rw [closest]
    exact if_pos is
  · intro n m width degree
    have last : n = parent.children.length := by
      rw [children_push, List.length_append] at width
      simpa using width.symm
    subst last
    refine inner m (Eq.trans ?_ degree)
    rw [degree?, degree?]
    exact congrArg _ (at?_last parent.kind parent.children branch [0]).symm

end grafted

end SelectorTree

namespace Draft

variable {single : Prop} {place : NodeClass} {d : Draft} {tree node : SelectorTree}

/-- The tree of the draft has its shape, and a node of it is open. -/
structure OpensAt (single : Prop) (d : Draft) (tree node : SelectorTree) : Prop where
  holds : d.tree = some tree
  root : tree.toClass = .selectorList
  shaped : tree.Everywhere (Shape single)
  here : tree.at? d.path = some node

/-- No combinator leads from an open node of the given class to an argument that is there already. While no
pseudo-class is open, a combinator leads to no argument at all. -/
structure Fresh (d : Draft) (tree : SelectorTree) (place : NodeClass) : Prop where
  part : place = .regular ∨ place = .absolute ∨ place = .relative → d.pseudoNames ≠ [] →
    tree.EndsFresh d.path
  empty : place = .relative → tree.degree? d.path = some 0

theorem fresh_of_ne (regular : place ≠ .regular) (absolute : place ≠ .absolute)
    (relative : place ≠ .relative) : d.Fresh tree place :=
  ⟨fun is => (is.elim regular fun is => is.elim absolute relative).elim, fun is => absurd is relative⟩

/-- A node of the given class is open. -/
def Stands (single : Prop) (place : NodeClass) (d : Draft) : Prop :=
  ∃ tree node, d.OpensAt single tree node ∧ node.toClass = place ∧ (single → d.Fresh tree place)

/-- A node is open that takes tokens of every kind. -/
def Settled (single : Prop) (d : Draft) : Prop := ∃ place, place ≠ .extended ∧ Stands single place d

theorem Stands.settled (stands : Stands single place d) (outside : place ≠ .extended) : Settled single d :=
  ⟨place, outside, stands⟩

theorem OpensAt.open? (opens : d.OpensAt single tree node) : d.open? = some node := by
  rw [Draft.open?, nodeAt?, opens.holds]
  exact opens.here

theorem Stands.openClass? (stands : Stands single place d) : d.openClass? = some place := by
  obtain ⟨tree, node, opens, rfl, _⟩ := stands
  rw [Draft.openClass?, opens.open?, Option.map_some]

/-- Of what else a draft holds, only the names of the open pseudo-classes count. -/
theorem Stands.of_same (stands : Stands single place d) {d' : Draft} (tree : d'.tree = d.tree)
    (path : d'.path = d.path) (fewer : d.pseudoNames = [] → d'.pseudoNames = []) :
    Stands single place d' := by
  obtain ⟨t, node, opens, is, fresh⟩ := stands
  refine ⟨t, node, ⟨tree.trans opens.holds, opens.root, opens.shaped, path ▸ opens.here⟩, is,
    fun one => ⟨fun part names => ?_, fun relative => ?_⟩⟩
  · rw [path]
    exact (fresh one).part part fun none => names (fewer none)
  · rw [path]
    exact (fresh one).empty relative

theorem OpensAt.path_ne_nil (opens : d.OpensAt single tree node) (inside : node.toClass ≠ .selectorList) :
    d.path ≠ [] := by
  intro nothing
  have here := opens.here
  rw [nothing] at here
  exact inside (Option.some.inj here ▸ opens.root)

/-! Going up. -/

theorem OpensAt.moved (opens : d.OpensAt single tree node) {way : List Nat} {mid : SelectorTree}
    (here : tree.at? way = some mid) : OpensAt single { d with path := way } tree mid :=
  ⟨opens.holds, opens.root, opens.shaped, here⟩

theorem ascend_eq_of_closest? (is : d.tree = some tree) {target : NodeClass} {way : List Nat}
    (closest : tree.closest? target d.path = some way) : d.ascend target = { d with path := way } := by
  rw [ascend, is, Option.bind_some, closest]

theorem OpensAt.closest?_selector (opens : d.OpensAt single tree node) (inside : node.toClass ≠ .selectorList) :
    ∃ way selector, tree.closest? .selector d.path = some way ∧ tree.at? way = some selector ∧
      selector.toClass = .selector := by
  have found : ∃ way, tree.closest? .selector d.path = some way := by
    obtain ⟨i, rest, same⟩ := List.exists_cons_of_ne_nil (opens.path_ne_nil inside)
    have here := opens.here
    rw [same] at here ⊢
    obtain ⟨child, is, _⟩ := Option.bind_eq_some_iff.mp here
    have around := toClass_of_takes opens.shaped.row.1 (List.mem_map_of_mem (List.mem_of_getElem? is))
    have selector : child.toClass = .selector := NodeClass.eq_selector (around.symm.trans opens.root)
    obtain ⟨way, closest⟩ := closest?_isSome_of_toClass selector rest
    refine ⟨i :: way, ?_⟩
    simp only [closest?, is, Option.bind_eq_bind, Option.bind_some, closest]
  obtain ⟨way, closest⟩ := found
  obtain ⟨rest, selector, _, here, is⟩ := closest?_eq_some closest
  exact ⟨way, selector, closest, here, is⟩

theorem Stands.ascend_selector (stands : Stands single place d) (inside : place ≠ .selectorList) :
    Stands single .selector (d.ascend .selector) := by
  obtain ⟨tree, node, opens, rfl, _⟩ := stands
  obtain ⟨way, selector, closest, here, is⟩ := opens.closest?_selector inside
  rw [ascend_eq_of_closest? opens.holds closest]
  exact ⟨tree, selector, opens.moved here, is, fun _ => fresh_of_ne (by decide) (by decide) (by decide)⟩

theorem Stands.ascend_selectorList (stands : Stands single place d) :
    Stands single .selectorList (d.ascend .selectorList) := by
  obtain ⟨tree, node, opens, rfl, _⟩ := stands
  obtain ⟨way, closest⟩ := closest?_isSome_of_toClass opens.root d.path
  obtain ⟨rest, list, _, here, is⟩ := closest?_eq_some closest
  rw [ascend_eq_of_closest? opens.holds closest]
  exact ⟨tree, list, opens.moved here, is, fun _ => fresh_of_ne (by decide) (by decide) (by decide)⟩

/-- Leaving an argument: there need not be one. -/
theorem Stands.leave (stands : Stands single place d) (inside : place ≠ .selectorList) :
    Stands single .selector ((d.ascend .extended).ascend .selector) := by
  obtain ⟨tree, node, opens, rfl, fresh⟩ := stands
  cases closest : tree.closest? .extended d.path with
  | none =>
    have stays : d.ascend .extended = d := by rw [ascend, opens.holds, Option.bind_some, closest]
    rw [stays]
    exact Stands.ascend_selector ⟨tree, node, opens, rfl, fresh⟩ inside
  | some way =>
    obtain ⟨_, part, _, here, is⟩ := closest?_eq_some closest
    rw [ascend_eq_of_closest? opens.holds closest]
    have around : Stands single .extended { d with path := way } :=
      ⟨tree, part, opens.moved here, is, fun _ => fresh_of_ne (by decide) (by decide) (by decide)⟩
    exact around.ascend_selector (by decide)

theorem Stands.closePseudo (stands : Stands single place d) (inside : place ≠ .selectorList) :
    Stands single .selector d.closePseudo := by
  rw [Draft.closePseudo]
  refine Stands.leave ?_ inside
  exact stands.of_same rfl rfl (congrArg List.tail)

/-! Adding nodes. -/

/-- Adds a branch below the open node and opens a node in it. -/
def graft (branch : SelectorTree) (way : List Nat) (d : Draft) : Draft :=
  match d.tree, d.open? with
  | some tree, some parent =>
    { d with
      tree := some (tree.modifyAt (·.push branch) d.path)
      path := d.path ++ parent.children.length :: way }
  | _, _ => d

section graft

variable {branch parent inner : SelectorTree} {way : List Nat}

theorem OpensAt.graft_eq (opens : d.OpensAt single tree parent) (branch : SelectorTree) (way : List Nat) :
    d.graft branch way = { d with
      tree := some (tree.modifyAt (·.push branch) d.path)
      path := d.path ++ parent.children.length :: way } := by
  rw [graft, opens.open?, opens.holds]

theorem OpensAt.add_eq (opens : d.OpensAt single tree parent) (kind : NodeKind) :
    d.add kind = .ok (d.graft (leaf kind) []) := by
  rw [add, opens.graft_eq, opens.open?, opens.holds]

theorem OpensAt.add_graft (opens : d.OpensAt single tree parent) (branch : SelectorTree) (way : List Nat)
    (inside : branch.at? way = some inner) (kind : NodeKind) :
    (d.graft branch way).add kind =
      .ok (d.graft (branch.modifyAt (·.push (leaf kind)) way) (way ++ [inner.children.length])) := by
  have reached : (d.graft branch way).open? = some inner := by
    rw [opens.graft_eq]
    exact (at?_grafted opens.here).trans inside
  rw [add, reached, opens.graft_eq, opens.graft_eq]
  simp only [Except.ok.injEq, Draft.mk.injEq, and_true, Option.some.injEq]
  refine ⟨?_, by simp⟩
  rw [modifyAt_modifyAt]
  refine modifyAt_congr opens.here ?_
  rw [push, modifyAt_last]
  rfl

theorem OpensAt.graft (opens : d.OpensAt single tree parent) (inside : branch.at? way = some inner)
    (shaped : branch.Everywhere (Shape single))
    (fits : Shape single parent.kind (parent.children.map toClass ++ [branch.toClass])) :
    (d.graft branch way).OpensAt single (tree.modifyAt (·.push branch) d.path) inner := by
  have around := opens.shaped.at? opens.here
  rw [opens.graft_eq]
  exact ⟨rfl, (toClass_modifyAt opens.here rfl).trans opens.root,
    opens.shaped.modifyAt opens.here (around.push fits shaped) rfl,
    (at?_grafted opens.here).trans inside⟩

/-- A branch that is open at its last part. -/
theorem OpensAt.stands_graft (opens : d.OpensAt single tree parent) (inside : branch.at? way = some inner)
    (shaped : branch.Everywhere (Shape single))
    (fits : Shape single parent.kind (parent.children.map toClass ++ [branch.toClass]))
    (fresh : (tree.modifyAt (·.push branch) d.path).EndsFresh (d.path ++ parent.children.length :: way))
    (empty : inner.children = []) : Stands single inner.toClass (d.graft branch way) := by
  have grafted := opens.graft inside shaped fits
  refine ⟨_, inner, grafted, rfl, fun _ => ⟨fun _ _ => ?_, fun _ => ?_⟩⟩
  · rw [opens.graft_eq]
    exact fresh
  · rw [degree?_of_at? grafted.here, empty, List.length_nil]

end graft

theorem Stands.addRegular (stands : Stands single .selector d) (value : String) :
    Yields (Stands single .regular) (d.addRegular value) := by
  obtain ⟨tree, selector, opens, is, _⟩ := stands
  have kind : selector.kind.toClass = .selector := is
  have row := (opens.shaped.at? opens.here).row
  have fits := row.push (c := .regular) kind.symm (by simp [kind]) (by simp [kind])
  have last := endsFresh_grafted_part (leaf (.regular value)) [] opens.here is rfl nofun
  rw [Draft.addRegular, opens.add_eq]
  exact opens.stands_graft rfl (everywhere_regular value) fits last rfl

/-- The part with which a selector begins has no argument. -/
theorem firstSelector_inner (value : String) (n m : Nat) (width : (firstSelector value).children.length = n + 1)
    (degree : (firstSelector value).degree? [n, 0] = some m) : m = 0 := by
  obtain rfl : 0 = n := Nat.succ.inj width
  exact absurd degree nofun

theorem Stands.addSelector (stands : Stands single .selectorList d) (value : String) :
    Yields (Stands single .regular) (d.addSelector value) := by
  obtain ⟨tree, list, opens, is, _⟩ := stands
  have kind : list.kind.toClass = .selectorList := is
  have row := (opens.shaped.at? opens.here).row
  have fits := row.push (c := .selector) kind.symm (by simp [kind]) (by simp [kind])
  have last := endsFresh_grafted_list (firstSelector value) [] [0] opens.here rfl rfl
    (firstSelector_inner value)
  have added : d.addSelector value = .ok (d.graft (firstSelector value) [0]) := by
    rw [Draft.addSelector, opens.add_eq]
    exact opens.add_graft (leaf .selector) [] rfl _
  rw [added]
  exact opens.stands_graft rfl (everywhere_firstSelector value) fits last rfl

theorem Stands.addList (stands : Stands single .relative d) (value : String) :
    Yields (Stands single .regular) (d.addList value) := by
  obtain ⟨tree, pseudo, opens, is, fresh⟩ := stands
  have kind : pseudo.kind.toClass = .relative := is
  have row := (opens.shaped.at? opens.here).row
  have fits := row.push (c := .selectorList) kind.symm (by simp [kind]) fun one _ => by
    have nothing := (degree?_of_at? opens.here).symm.trans ((fresh one).empty rfl)
    rw [List.map_eq_nil_iff, ← List.length_eq_zero_iff]
    exact Option.some.inj nothing
  have last := endsFresh_grafted_list (firstList value) [0] [0] opens.here rfl rfl
    (firstSelector_inner value)
  have added : d.addList value = .ok (d.graft (firstList value) [0, 0]) := by
    rw [Draft.addList, opens.add_eq]
    have second := opens.add_graft (leaf .selectorList) [] rfl .selector
    have third := opens.add_graft (SelectorTree.node .selectorList [leaf .selector]) [0] rfl (.regular value)
    exact (congrArg (· >>= Draft.addRegular value) second).trans third
  rw [added]
  exact opens.stands_graft rfl (everywhere_firstList value) fits last rfl

theorem start_yields (d : Draft) (value : String) : Yields (Stands single .regular) (d.start value) := by
  have started : d.start value = .ok { d with tree := some (firstList value), path := [0, 0] } := rfl
  have first : (firstList value).at? [0] = some (firstSelector value) := rfl
  have fresh : (firstList value).EndsFresh ([0] ++ [0]) :=
    endsFresh_of_selector first rfl (firstSelector_inner value)
  rw [started]
  refine ⟨firstList value, leaf (.regular value), ⟨rfl, rfl, everywhere_firstList value, rfl⟩, rfl,
    fun _ => ⟨fun _ _ => fresh, nofun⟩⟩

/-- A part that has no pseudo-class yet is open. -/
def Awaits (single : Prop) (d : Draft) : Prop :=
  ∃ before tree selector, OpensAt single before tree selector ∧ selector.toClass = .selector ∧
    d = before.graft (leaf .extended) []

theorem Stands.addExtended (stands : Stands single .selector d) : Yields (Awaits single) (d.add .extended) := by
  obtain ⟨tree, selector, opens, is, _⟩ := stands
  rw [opens.add_eq]
  exact ⟨d, tree, selector, opens, is, rfl⟩

theorem Awaits.of_same (awaits : Awaits single d) (d' : Draft) (tree : d'.tree = d.tree)
    (path : d'.path = d.path) : Awaits single d' := by
  obtain ⟨before, t, selector, opens, is, rfl⟩ := awaits
  have opens' : OpensAt single { d' with tree := before.tree, path := before.path } t selector :=
    ⟨opens.holds, opens.root, opens.shaped, opens.here⟩
  rw [opens.graft_eq] at tree path
  refine ⟨_, t, selector, opens', is, ?_⟩
  rw [opens'.graft_eq]
  cases d'
  cases tree
  cases path
  rfl

/-- The class of a node that is open, but has no pseudo-class yet. -/
theorem Awaits.openClass? (awaits : Awaits single d) : d.openClass? = some .extended := by
  obtain ⟨before, tree, selector, opens, _, rfl⟩ := awaits
  have reached : (before.graft (leaf .extended) []).open? = some (leaf .extended) := by
    rw [opens.graft_eq]
    exact at?_grafted opens.here
  rw [Draft.openClass?, reached, Option.map_some]
  rfl

theorem Awaits.add (awaits : Awaits single d) (kind : NodeKind)
    (pseudo : kind.toClass = .absolute ∨ kind.toClass = .relative) :
    Yields (Stands single kind.toClass) (d.add kind) := by
  obtain ⟨before, tree, selector, opens, is, rfl⟩ := awaits
  have around : selector.kind.toClass = .selector := is
  have row := (opens.shaped.at? opens.here).row
  have fits := row.push (c := .extended) around.symm (by simp [around]) (by simp [around])
  have shaped : (SelectorTree.node .extended [leaf kind]).Everywhere (Shape single) := by
    refine .node ⟨pseudo.imp (congrArg ([·])) (congrArg ([·])), fun _ => nofun⟩ ?_
    intro child member
    refine List.mem_singleton.mp member ▸ everywhere_leaf ?_
    cases kind with
    | absolute pseudo argument => exact ⟨rfl, fun _ => nofun⟩
    | relative pseudo => exact ⟨by simp [NodeKind.Takes], fun _ _ => Nat.zero_le 1⟩
    | _ => exact pseudo.elim nofun nofun
  have closest : (SelectorTree.node .extended [leaf kind]).closest? .selector [0] = none := by
    cases kind with
    | selector => exact pseudo.elim nofun nofun
    | _ => rfl
  have last := endsFresh_grafted_part (.node .extended [leaf kind]) [0] opens.here is closest
    fun m degree => (Option.some.inj degree).symm
  rw [opens.add_graft (leaf .extended) [] rfl kind]
  have first : (SelectorTree.node .extended [leaf kind]).at? [0] = some (leaf kind) := rfl
  exact opens.stands_graft first shaped fits last rfl

/-! Writing. -/

theorem value?_of_toClass (valued : node.toClass = .regular ∨ node.toClass = .absolute) :
    node.value?.isNone = false := by
  obtain ⟨kind, nodes⟩ := node
  cases kind <;> first | rfl | exact valued.elim nofun nofun

theorem Stands.write (stands : Stands single place d) (valued : place = .regular ∨ place = .absolute)
    (text : String) : Yields (Stands single place) (d.write text) := by
  obtain ⟨tree, node, opens, rfl, fresh⟩ := stands
  have same := toClass_mapValue (· ++ text) node
  have changed := at?_modifyAt_self (f := (·.mapValue (· ++ text))) opens.here
  rw [Draft.write, opens.open?, opens.holds]
  simp only [value?_of_toClass valued, Bool.false_eq_true, if_false]
  refine ⟨_, _, ⟨rfl, (toClass_modifyAt opens.here same).trans opens.root,
    opens.shaped.modifyAt opens.here ((opens.shaped.at? opens.here).mapValue _) same, changed⟩, same,
    fun one => ⟨fun part names => ((fresh one).part part names).mapValue _, fun relative => ?_⟩⟩
  exact (degree?_modifyAt (children_mapValue _) tree _ _).trans ((fresh one).empty relative)

/-! Going back. -/

theorem findIdx?_reverse {parts : List SelectorTree} {back : Nat}
    (found : parts.reverse.findIdx? (·.isRegular) = some back) :
    ∃ part, parts[parts.length - 1 - back]? = some part ∧ part.toClass = .regular := by
  obtain ⟨inside, regular, _⟩ := List.findIdx?_eq_some_iff_getElem.mp found
  rw [List.getElem_reverse] at regular
  exact ⟨_, List.getElem?_eq_getElem (by simp at inside; omega), by simpa [isRegular] using regular⟩

theorem exists_regular (parts : List SelectorTree) (first : (parts.map toClass).head? = some .regular) :
    ∃ back, parts.reverse.findIdx? (·.isRegular) = some back := by
  cases parts with
  | nil => nomatch first
  | cons part rest =>
    have regular : part.isRegular = true := by simpa [isRegular] using first
    have member : part ∈ (part :: rest).reverse := by simp
    exact Option.isSome_iff_exists.mp (List.findIdx?_isSome.trans (List.any_eq_true.mpr ⟨part, member, regular⟩))

/-- From a part that is no selector, the selector around it is closest. -/
theorem OpensAt.closest?_part (opens : d.OpensAt single tree node) (is : node.toClass = .selector) {i : Nat}
    {rest : List Nat} {part : SelectorTree} (here : node.children[i]? = some part)
    (inside : part.closest? .selector rest = none) :
    tree.closest? .selector (d.path ++ i :: rest) = tree.closest? .selector d.path := by
  have below : node.closest? .selector (i :: rest) = some [] := by
    rw [closest?, here, Option.bind_eq_bind, Option.bind_some, inside]
    exact if_pos is
  rw [closest?_self is opens.here, closest?_append opens.here below, List.append_nil]

theorem closest?_regular {part : SelectorTree} (regular : part.toClass = .regular) :
    part.closest? .selector [] = none := by
  rw [closest?, regular]
  rfl

theorem OpensAt.reopenRegular (opens : d.OpensAt single tree node) (is : node.toClass = .selector)
    (fresh : single → d.pseudoNames ≠ [] → tree.EndsFresh d.path) :
    Yields (Stands single .regular) d.reopenRegular := by
  have row := (opens.shaped.at? opens.here).row.1
  obtain ⟨kind, parts⟩ := node
  obtain rfl : kind = .selector := by cases kind <;> first | rfl | cases is
  obtain ⟨back, found⟩ := exists_regular parts row.1
  obtain ⟨part, here, regular⟩ := findIdx?_reverse found
  have reached : tree.at? (d.path ++ [parts.length - 1 - back]) = some part := by
    rw [at?_append, opens.here, Option.bind_some, SelectorTree.at?, children_node, here]
    rfl
  simp only [Draft.reopenRegular, opens.open?, found]
  refine ⟨tree, part, opens.moved reached, regular, fun one => ⟨fun _ names => ?_, fun is => absurd is (by decide)⟩⟩
  exact (fresh one names).of_closest? (opens.closest?_part is here (closest?_regular regular))

theorem Stands.reopened (stands : Stands single .selector d) (quiet : single → d.pseudoNames = []) :
    Yields (Stands single .regular) d.reopenRegular := by
  obtain ⟨tree, selector, opens, is, _⟩ := stands
  exact opens.reopenRegular is fun one names => absurd (quiet one) names

theorem children_of_regular {part : SelectorTree} (shaped : part.Everywhere (Shape single))
    (regular : part.toClass = .regular) : part.children = [] := by
  obtain ⟨kind, nodes⟩ := part
  have row := shaped.row.1
  cases kind with
  | regular value => exact List.map_eq_nil_iff.mp row
  | _ => cases regular

theorem toClass_part {selector part : SelectorTree} (shaped : selector.Everywhere (Shape single))
    (is : selector.toClass = .selector) (member : part ∈ selector.children) :
    part.toClass = .regular ∨ part.toClass = .extended := by
  obtain ⟨kind, nodes⟩ := selector
  have row := shaped.row.1
  cases kind with
  | selector => exact row.2 _ (List.mem_map_of_mem member)
  | _ => cases is

/-- A selector whose last part is a regular one. -/
theorem OpensAt.endsFresh (opens : d.OpensAt single tree node) (is : node.toClass = .selector)
    (last : ∀ part, node.children.getLast? = some part → part.toClass ≠ .extended) : tree.EndsFresh d.path := by
  have shaped := opens.shaped.at? opens.here
  have self : node.closest? .selector [] = some [] := if_pos is
  have fresh := endsFresh_of_selector opens.here self fun n m width degree => by
    obtain ⟨child, here, _⟩ := Option.map_eq_some_iff.mp degree
    obtain ⟨part, atLast, inside⟩ := Option.bind_eq_some_iff.mp here
    have isLast : node.children.getLast? = some part := by
      rw [List.getLast?_eq_getElem?, width, Nat.add_sub_cancel]
      exact atLast
    have member := List.mem_of_getElem? atLast
    have regular := (toClass_part shaped is member).resolve_right (last part isLast)
    have nothing := children_of_regular (shaped.child member) regular
    rw [SelectorTree.at?, nothing] at inside
    simp at inside
  rwa [List.append_nil] at fresh

theorem pseudoNames_ne_nil {pseudo : PseudoClass} (unclosed : d.isUnclosed pseudo = true) :
    d.pseudoNames ≠ [] := by
  intro nothing
  rw [isUnclosed, nothing] at unclosed
  rcases Bool.or_eq_true_iff.mp unclosed with counted | named
  · simp at counted
    omega
  · simp at named

theorem OpensAt.unclosed (opens : d.OpensAt single tree node) (is : node.toClass = .selector)
    (fresh : single → d.pseudoNames ≠ [] → tree.EndsFresh d.path) {parts : List SelectorTree}
    (last : node.children.getLast? = some (.node .extended parts)) {child : SelectorTree}
    (first : parts.head? = some child) (inside : child.toClass ≠ .selector) (names : d.pseudoNames ≠ []) :
    Stands single child.toClass { d with path := d.path ++ [node.children.length - 1, 0] } := by
  rw [List.getLast?_eq_getElem?] at last
  have second : parts[0]? = some child := List.head?_eq_getElem?.symm.trans first
  have reached : tree.at? (d.path ++ [node.children.length - 1, 0]) = some child := by
    rw [at?_append, opens.here, Option.bind_some, SelectorTree.at?, last]
    exact congrArg (· >>= fun child => some child) second
  have around : (SelectorTree.node .extended parts).closest? .selector [0] = none := by
    rw [closest?, children_node, second, Option.bind_eq_bind, Option.bind_some, closest?, if_neg inside]
    rfl
  refine ⟨tree, child, opens.moved reached, rfl, fun one => ⟨fun _ _ => ?_, fun _ => ?_⟩⟩
  · exact (fresh one names).of_closest? (opens.closest?_part is last around)
  · have width : node.children.length - 1 + 1 = node.children.length := by
      have inside := (List.getElem?_eq_some_iff.mp last).1
      omega
    have degree := degree?_of_at? reached
    have nothing := fresh one names d.path _ _ (closest?_self is opens.here)
      ((degree?_of_at? opens.here).trans (congrArg some width.symm)) degree
    exact degree.trans (congrArg some nothing)

/-- A combinator in a selector leads to its last part or behind it. -/
theorem OpensAt.resumeSelector (opens : d.OpensAt single tree node) (is : node.toClass = .selector)
    (fresh : single → d.pseudoNames ≠ [] → tree.EndsFresh d.path) :
    Yields (Settled single)
      (match node.children.getLast? with
        | some (.node .extended parts) =>
          if d.nativeBrackets == 0 then
            match parts.head?.bind (·.pseudo?) with
            | some pseudo =>
              if d.isUnclosed pseudo then
                .ok { d with path := d.path ++ [node.children.length - 1, 0] }
              else .ok d
            | none => .ok d
          else d.reopenRegular
        | _ => d.reopenRegular) := by
  have stays : Stands single .selector d :=
    ⟨tree, node, opens, is, fun _ => fresh_of_ne (by decide) (by decide) (by decide)⟩
  have reopened (fresh : single → d.pseudoNames ≠ [] → tree.EndsFresh d.path) :
      Yields (Settled single) d.reopenRegular :=
    (opens.reopenRegular is fresh).mono fun d' stands => ⟨.regular, by decide, stands⟩
  split
  · rename_i parts last
    split
    · split
      · rename_i pseudo named
        split
        · rename_i unclosed
          obtain ⟨child, first, named⟩ := Option.bind_eq_some_iff.mp named
          have inside : child.toClass ≠ .selector ∧ child.toClass ≠ .extended := by
            obtain ⟨kind, nodes⟩ := child
            cases kind with
            | absolute pseudo argument => exact ⟨nofun, nofun⟩
            | relative pseudo => exact ⟨nofun, nofun⟩
            | _ => nomatch named
          exact ⟨child.toClass, inside.2,
            opens.unclosed is fresh last first inside.1 (pseudoNames_ne_nil unclosed)⟩
        · exact ⟨.selector, by decide, stays⟩
      · exact ⟨.selector, by decide, stays⟩
    · exact reopened fresh
  · rename_i other
    -- A last part that is regular has no argument, whatever is open.
    refine reopened fun _ _ => opens.endsFresh is ?_
    rintro ⟨kind, parts⟩ last extended
    cases kind with
    | extended => exact other parts last
    | _ => cases extended

/-- A list is the argument of a pseudo-class, if it is not the whole tree. -/
theorem OpensAt.parentClass?_list (opens : d.OpensAt single tree node) (is : node.toClass = .selectorList)
    (inside : d.path ≠ []) : d.parentClass? = some .relative := by
  have here := opens.here
  rw [← List.dropLast_concat_getLast inside] at here
  obtain ⟨parent, around, relative⟩ := exists_parent opens.shaped here
  rw [is] at relative
  rw [parentClass?, if_neg (by simpa using inside), nodeAt?, opens.holds, Option.bind_some, around,
    Option.map_some, relative]
  rfl

theorem OpensAt.resume_root (opens : d.OpensAt single tree node) (root : d.path = []) :
    (d.ascend .selector).open? = some tree ∧ (d.ascend .selector).reopenRegular = .error .notInSelector := by
  have stays : d.ascend .selector = d := by
    have none : tree.closest? .selector [] = none := by
      rw [closest?, opens.root]
      rfl
    rw [ascend, opens.holds, Option.bind_some, root, none]
  have same : node = tree := by
    have here := opens.here
    rw [root] at here
    exact (Option.some.inj here).symm
  have opened := same ▸ opens.open?
  refine ⟨by rw [stays]; exact opened, ?_⟩
  rw [stays, Draft.reopenRegular, opened]
  obtain ⟨kind, nodes⟩ := tree
  have is := opens.root
  obtain rfl : kind = .selectorList := by cases kind <;> first | rfl | cases is
  rfl

theorem Stands.resume (stands : Stands single place d) (outside : place ≠ .extended)
    (quiet : single → place = .selector → d.pseudoNames = []) :
    Yields (Settled single) d.resume := by
  rw [Draft.resume]
  split
  · exact ⟨place, outside, stands⟩
  · rename_i noArgument
    obtain ⟨tree, node, opens, rfl, fresh⟩ := stands
    by_cases list : node.toClass = .selectorList
    · have root : d.path = [] := by
        by_contra inside
        refine noArgument ?_
        rw [Draft.openClass?, opens.open?, Option.map_some, list, opens.parentClass?_list list inside]
        rfl
      -- The list is the whole tree, which has no regular part to go back to.
      have opened := opens.resume_root root
      simp only [opened.1, opened.2]
      split
      · rename_i parts last
        have member := List.mem_map_of_mem (f := toClass) (List.mem_of_getLast? last)
        have around := toClass_of_takes opens.shaped.row.1 member
        have selector := NodeClass.eq_selector (around.symm.trans opens.root)
        cases selector
      · rfl
    · obtain ⟨way, selector, closest, here, is⟩ := opens.closest?_selector list
      have moved := opens.moved here
      rw [ascend_eq_of_closest? opens.holds closest]
      simp only [moved.open?]
      refine moved.resumeSelector is fun one names => ?_
      have part : node.toClass = .regular ∨ node.toClass = .absolute ∨ node.toClass = .relative := by
        have open? : node.toClass ≠ .selector := fun selector => names (quiet one selector)
        cases same : node.toClass <;> simp_all
      refine ((fresh one).part part names).of_closest? ?_
      rw [closest?_self is here, closest]

end Draft

end CosmeticRules
