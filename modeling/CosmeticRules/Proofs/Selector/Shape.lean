import CosmeticRules.Selector.Draft
import Mathlib.Data.List.Basic

/-!
The shape of selector trees: which children a node of each kind has. A change at the end of a path keeps a
shape if the changed node has it and is of the same class as before.
-/

namespace CosmeticRules

namespace NodeKind

variable {kind : NodeKind}

theorem eq_selectorList (is : kind.toClass = .selectorList) : kind = .selectorList := by
  cases kind <;> first | rfl | nomatch is

theorem eq_selector (is : kind.toClass = .selector) : kind = .selector := by
  cases kind <;> first | rfl | nomatch is

theorem eq_extended (is : kind.toClass = .extended) : kind = .extended := by
  cases kind <;> first | rfl | nomatch is

end NodeKind

/-- Whether children of these classes may stand below a node. -/
def NodeKind.Takes (kind : NodeKind) (classes : List NodeClass) : Prop :=
  match kind with
  | .selectorList => classes ≠ [] ∧ ∀ c ∈ classes, c = .selector
  | .selector => classes.head? = some .regular ∧ ∀ c ∈ classes, c = .regular ∨ c = .extended
  | .extended => classes = [.absolute] ∨ classes = [.relative]
  | .relative _ => ∀ c ∈ classes, c = .selectorList
  | .regular _ => classes = []
  | .absolute _ _ => classes = []

/-- A pseudo-class has no second argument. -/
def NodeKind.TakesOneList (kind : NodeKind) (classes : List NodeClass) : Prop :=
  kind.toClass = .relative → classes.length ≤ 1

namespace SelectorTree

/-- What is required of the kind of a node and the classes of its children holds of every node. -/
inductive Everywhere (P : NodeKind → List NodeClass → Prop) : SelectorTree → Prop
  | node {kind : NodeKind} {children : List SelectorTree} (here : P kind (children.map toClass))
      (below : ∀ child ∈ children, Everywhere P child) : Everywhere P (.node kind children)

variable {P Q : NodeKind → List NodeClass → Prop} {tree node parent : SelectorTree} {path way : List Nat}
  {f : SelectorTree → SelectorTree} {target : NodeClass}

@[simp] theorem children_node (kind : NodeKind) (nodes : List SelectorTree) :
    (SelectorTree.node kind nodes).children = nodes := rfl

theorem Everywhere.row (all : tree.Everywhere P) : P tree.kind (tree.children.map toClass) := by
  cases all with
  | node here _ => exact here

theorem Everywhere.child (all : tree.Everywhere P) {child : SelectorTree}
    (member : child ∈ tree.children) : child.Everywhere P := by
  cases all with
  | node _ below => exact below child member

theorem Everywhere.mono (all : tree.Everywhere P) (weaker : ∀ kind classes, P kind classes → Q kind classes) :
    tree.Everywhere Q := by
  induction all with
  | node here _ ih => exact .node (weaker _ _ here) ih

theorem Everywhere.at? (all : tree.Everywhere P) (here : tree.at? path = some node) :
    node.Everywhere P := by
  induction path generalizing tree with
  | nil => exact Option.some.inj here ▸ all
  | cons i path ih =>
    obtain ⟨child, is, here⟩ := Option.bind_eq_some_iff.mp here
    exact ih (all.child (List.mem_of_getElem? is)) here

/-! Changes at the end of a path. -/

theorem at?_modifyAt (f : SelectorTree → SelectorTree) (tree : SelectorTree) (way rest : List Nat) :
    (tree.modifyAt f (way ++ rest)).at? way = (tree.at? way).map (·.modifyAt f rest) := by
  induction way generalizing tree with
  | nil => rfl
  | cons i way ih =>
    obtain ⟨kind, nodes⟩ := tree
    simp only [List.cons_append, modifyAt, SelectorTree.at?, children_node, List.getElem?_modify_eq]
    cases nodes[i]? with
    | none => rfl
    | some child => exact ih child

theorem at?_modifyAt_self (here : tree.at? path = some node) :
    (tree.modifyAt f path).at? path = some (f node) := by
  have changed := at?_modifyAt f tree path []
  rw [List.append_nil, here] at changed
  exact changed

theorem kind_modifyAt_cons (f : SelectorTree → SelectorTree) (tree : SelectorTree) (i : Nat) (rest : List Nat) :
    (tree.modifyAt f (i :: rest)).kind = tree.kind := by
  obtain ⟨kind, nodes⟩ := tree
  rfl

theorem length_modifyAt_cons (f : SelectorTree → SelectorTree) (tree : SelectorTree) (i : Nat)
    (rest : List Nat) : (tree.modifyAt f (i :: rest)).children.length = tree.children.length := by
  obtain ⟨kind, nodes⟩ := tree
  exact List.length_modify _ _ _

theorem toClass_modifyAt (here : tree.at? path = some node) (same : (f node).toClass = node.toClass) :
    (tree.modifyAt f path).toClass = tree.toClass := by
  cases path with
  | nil => exact Option.some.inj here ▸ same
  | cons i rest => rw [toClass, kind_modifyAt_cons, toClass]

theorem map_modify_eq {α β : Type} {g : α → β} {change : α → α} {xs : List α} {i : Nat} {x : α}
    (is : xs[i]? = some x) (same : g (change x) = g x) : (xs.modify i change).map g = xs.map g := by
  apply List.ext_getElem?
  intro j
  rw [List.getElem?_map, List.getElem?_modify, List.getElem?_map]
  by_cases here : i = j
  · subst here
    simp [is, same]
  · simp [here]

theorem Everywhere.modifyAt (all : tree.Everywhere P) (here : tree.at? path = some node)
    (changed : (f node).Everywhere P) (same : (f node).toClass = node.toClass) :
    (tree.modifyAt f path).Everywhere P := by
  induction path generalizing tree with
  | nil => exact Option.some.inj here ▸ changed
  | cons i path ih =>
    obtain ⟨kind, nodes⟩ := tree
    obtain ⟨child, is, here⟩ := Option.bind_eq_some_iff.mp here
    have is : nodes[i]? = some child := is
    refine .node ?_ ?_
    · rw [map_modify_eq is (toClass_modifyAt here same)]
      exact all.row
    · intro other member
      obtain ⟨j, atJ⟩ := List.getElem?_of_mem member
      rw [List.getElem?_modify] at atJ
      obtain ⟨old, wasAt, rfl⟩ := Option.map_eq_some_iff.mp atJ
      split
      · rename_i equal
        obtain rfl : child = old := Option.some.inj (is.symm.trans (equal ▸ wasAt))
        exact ih (all.child (List.mem_of_getElem? is)) here
      · exact all.child (List.mem_of_getElem? wasAt)

theorem modifyAt_congr {g : SelectorTree → SelectorTree} (here : tree.at? path = some node)
    (same : f node = g node) : tree.modifyAt f path = tree.modifyAt g path := by
  induction path generalizing tree with
  | nil => exact Option.some.inj here ▸ same
  | cons i path ih =>
    obtain ⟨kind, nodes⟩ := tree
    obtain ⟨child, is, here⟩ := Option.bind_eq_some_iff.mp here
    have is : nodes[i]? = some child := is
    refine congrArg (SelectorTree.node kind) (List.ext_getElem? fun j => ?_)
    rw [List.getElem?_modify, List.getElem?_modify]
    by_cases equal : i = j
    · subst equal
      simp [is, ih here]
    · simp [equal]

/-- Two changes one after the other, the second at or below the place of the first. -/
theorem modifyAt_modifyAt (f g : SelectorTree → SelectorTree) (tree : SelectorTree) (path rest : List Nat) :
    (tree.modifyAt f path).modifyAt g (path ++ rest) =
      tree.modifyAt (fun node => (f node).modifyAt g rest) path := by
  induction path generalizing tree with
  | nil => rfl
  | cons i path ih =>
    obtain ⟨kind, nodes⟩ := tree
    refine congrArg (SelectorTree.node kind) ?_
    rw [List.modify_modify_eq]
    exact congrArg (nodes.modify i ·) (funext fun child => ih child)

/-! Closest nodes on a path. -/

theorem closest?_eq_some (closest : tree.closest? target path = some way) :
    ∃ rest node, path = way ++ rest ∧ tree.at? way = some node ∧ node.toClass = target := by
  induction path generalizing tree way with
  | nil =>
    rw [closest?] at closest
    split at closest
    · rename_i is
      obtain rfl := Option.some.inj closest
      exact ⟨[], tree, rfl, rfl, is⟩
    · simp at closest
  | cons i path ih =>
    rw [closest?] at closest
    split at closest
    · rename_i found inside
      obtain rfl := Option.some.inj closest
      obtain ⟨child, is, inside⟩ := Option.bind_eq_some_iff.mp inside
      obtain ⟨rest, node, rfl, here, reached⟩ := ih inside
      exact ⟨rest, node, rfl, by rw [SelectorTree.at?, is]; exact here, reached⟩
    · split at closest
      · rename_i is
        obtain rfl := Option.some.inj closest
        exact ⟨i :: path, tree, rfl, rfl, is⟩
      · simp at closest

/-- What is closest seen from a node on the path is closest on the whole path. -/
theorem closest?_append {rest found : List Nat} (here : tree.at? way = some node)
    (inside : node.closest? target rest = some found) :
    tree.closest? target (way ++ rest) = some (way ++ found) := by
  induction way generalizing tree with
  | nil => exact Option.some.inj here ▸ inside
  | cons i way ih =>
    obtain ⟨child, is, here⟩ := Option.bind_eq_some_iff.mp here
    simp only [List.cons_append, closest?, is, Option.bind_eq_bind, Option.bind_some, ih here]

theorem closest?_isSome_of_toClass (is : tree.toClass = target) (path : List Nat) :
    ∃ way, tree.closest? target path = some way := by
  cases path with
  | nil => exact ⟨[], if_pos is⟩
  | cons i path =>
    rw [closest?]
    split
    · exact ⟨_, rfl⟩
    · exact ⟨[], if_pos is⟩

theorem closest?_modifyAt (same : ∀ node : SelectorTree, (f node).toClass = node.toClass)
    (tree : SelectorTree) (path : List Nat) :
    (tree.modifyAt f path).closest? target path = tree.closest? target path := by
  induction path generalizing tree with
  | nil => rw [modifyAt, closest?, closest?, same]
  | cons i path ih =>
    obtain ⟨kind, nodes⟩ := tree
    simp only [modifyAt, closest?, children_node, List.getElem?_modify_eq]
    cases nodes[i]? with
    | none => rfl
    | some child =>
      simp only [Option.map_eq_map, Option.map_some, Option.bind_eq_bind, Option.bind_some, ih child]
      rfl

/-! Numbers of children. -/

/-- How many children the node at the end of a path has. -/
def degree? (tree : SelectorTree) (path : List Nat) : Option Nat :=
  (tree.at? path).map (·.children.length)

theorem degree?_of_at? (here : tree.at? path = some node) : tree.degree? path = some node.children.length := by
  rw [degree?, here, Option.map_some]

theorem degree?_modifyAt (same : ∀ node : SelectorTree, (f node).children = node.children)
    (tree : SelectorTree) (path way : List Nat) :
    (tree.modifyAt f path).degree? way = tree.degree? way := by
  induction path generalizing tree way with
  | nil =>
    cases way with
    | nil => exact congrArg some (congrArg List.length (same tree))
    | cons j way => rw [degree?, degree?, modifyAt, SelectorTree.at?, SelectorTree.at?, same]
  | cons i path ih =>
    cases way with
    | nil => exact congrArg some (length_modifyAt_cons f tree i path)
    | cons j way =>
      obtain ⟨kind, nodes⟩ := tree
      simp only [degree?, modifyAt, SelectorTree.at?, children_node, List.getElem?_modify]
      by_cases equal : i = j
      · subst equal
        cases nodes[i]? with
        | none => rfl
        | some child => simpa [degree?] using ih child way
      · simp [equal]

end SelectorTree

end CosmeticRules
