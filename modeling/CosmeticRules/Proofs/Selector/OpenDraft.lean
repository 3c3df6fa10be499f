import CosmeticRules.Selector.Draft
import Mathlib.Data.List.Basic

/-!
The drafts that occur while nested selectors are read: around the list that is open stands one frame for
each pseudo-class whose argument it is in.
-/

namespace CosmeticRules

namespace SelectorTree

section last

variable (kind : NodeKind) (before : List SelectorTree) (child : SelectorTree) (path : List Nat)

@[simp] theorem at?_last :
    (node kind (before ++ [child])).at? (before.length :: path) = child.at? path := by
  simp [at?, children]

@[simp] theorem at?_only : (node kind [child]).at? (0 :: path) = child.at? path :=
  at?_last kind [] child path

theorem modify_length_append (f : SelectorTree → SelectorTree) :
    (before ++ [child]).modify before.length f = before ++ [f child] := by
  induction before with
  | nil => rfl
  | cons first rest ih => simpa using ih

@[simp] theorem modifyAt_last (f : SelectorTree → SelectorTree) :
    (node kind (before ++ [child])).modifyAt f (before.length :: path) =
      node kind (before ++ [child.modifyAt f path]) := by
  rw [modifyAt, modify_length_append]

@[simp] theorem modifyAt_only (f : SelectorTree → SelectorTree) :
    (node kind [child]).modifyAt f (0 :: path) = node kind [child.modifyAt f path] :=
  modifyAt_last kind [] child path f

theorem closest?_last (target : NodeClass) :
    closest? target (node kind (before ++ [child])) (before.length :: path) =
      match child.closest? target path with
      | some found => some (before.length :: found)
      | none => if kind.toClass = target then some [] else none := by
  simp only [closest?, children, List.getElem?_concat_length]
  rfl

theorem closest?_only (target : NodeClass) :
    closest? target (node kind [child]) (0 :: path) =
      match child.closest? target path with
      | some found => some (0 :: found)
      | none => if kind.toClass = target then some [] else none :=
  closest?_last kind [] child path target

end last

end SelectorTree

open SelectorTree

/-- A list around a pseudo-class whose argument is open: the selectors that are finished, and the parts of
the open one before the pseudo-class. -/
structure Frame where
  selectors : List SelectorTree
  parts : List SelectorTree
  pseudo : PseudoClass

namespace Frame

/-- The list of a frame around a list of selectors. -/
def wrap (f : Frame) (inner : SelectorTree) : SelectorTree :=
  .node .selectorList
    (f.selectors ++ [.node .selector (f.parts ++ [.node .extended [.node (.relative f.pseudo) [inner]]])])

/-- The way from the list of a frame to the list inside. -/
def way (f : Frame) : List Nat := [f.selectors.length, f.parts.length, 0, 0]

variable (f : Frame) (inner : SelectorTree) (path : List Nat)

@[simp] theorem at?_wrap : (f.wrap inner).at? (f.way ++ path) = inner.at? path := by
  simp [wrap, way]

@[simp] theorem modifyAt_wrap (change : SelectorTree → SelectorTree) :
    (f.wrap inner).modifyAt change (f.way ++ path) = f.wrap (inner.modifyAt change path) := by
  simp [wrap, way]

theorem closest?_wrap_of_some {inner : SelectorTree} {target : NodeClass} {path found : List Nat}
    (inside : inner.closest? target path = some found) :
    (f.wrap inner).closest? target (f.way ++ path) = some (f.way ++ found) := by
  simp [wrap, way, closest?_last, closest?_only, inside]

/-- From inside, the closest extended part is that of the frame. -/
theorem closest?_extended_wrap {inner : SelectorTree} {path : List Nat}
    (inside : inner.closest? .extended path = none) :
    (f.wrap inner).closest? .extended (f.way ++ path) = some [f.selectors.length, f.parts.length] := by
  simp [wrap, way, closest?_last, closest?_only, inside, NodeKind.toClass]

end Frame

/-- A list inside frames, the outermost first. -/
def nest (frames : List Frame) (inner : SelectorTree) : SelectorTree := frames.foldr Frame.wrap inner

def wayThrough (frames : List Frame) : List Nat := frames.flatMap Frame.way

section nest

variable (frames : List Frame) (inner : SelectorTree) (path : List Nat)

theorem nest_append (more : List Frame) : nest (frames ++ more) inner = nest frames (nest more inner) :=
  List.foldr_append

theorem wayThrough_append (more : List Frame) :
    wayThrough (frames ++ more) = wayThrough frames ++ wayThrough more := List.flatMap_append

theorem at?_nest : (nest frames inner).at? (wayThrough frames ++ path) = inner.at? path := by
  induction frames with
  | nil => rfl
  | cons f rest ih =>
    rw [wayThrough, List.flatMap_cons, List.append_assoc]
    exact (f.at?_wrap _ _).trans ih

theorem modifyAt_nest (change : SelectorTree → SelectorTree) :
    (nest frames inner).modifyAt change (wayThrough frames ++ path) =
      nest frames (inner.modifyAt change path) := by
  induction frames with
  | nil => rfl
  | cons f rest ih =>
    rw [wayThrough, List.flatMap_cons, List.append_assoc]
    exact (f.modifyAt_wrap _ _ _).trans (congrArg f.wrap ih)

theorem closest?_nest {inner : SelectorTree} {target : NodeClass} {path found : List Nat}
    (inside : inner.closest? target path = some found) :
    (nest frames inner).closest? target (wayThrough frames ++ path) =
      some (wayThrough frames ++ found) := by
  induction frames with
  | nil => exact inside
  | cons f rest ih =>
    rw [wayThrough, List.flatMap_cons, List.append_assoc, List.append_assoc]
    exact f.closest?_wrap_of_some ih

end nest

namespace Draft

/-- The draft in which a list inside frames is open at some place, with these names and brackets still to be
closed. -/
def within (frames : List Frame) (names : List String) (brackets : Nat) (list : SelectorTree)
    (path : List Nat) : Draft :=
  { tree := some (nest frames list)
    path := wayThrough frames ++ path
    pseudoNames := names
    pseudoBrackets := brackets }

variable (frames : List Frame) (names : List String) (brackets : Nat) {list : SelectorTree}
  {path : List Nat}

theorem open?_within : (within frames names brackets list path).open? = list.at? path :=
  at?_nest frames list path

theorem openClass?_within :
    (within frames names brackets list path).openClass? = (list.at? path).map (·.toClass) := by
  rw [openClass?, open?_within]

theorem add_within {parent : SelectorTree} (here : list.at? path = some parent) (kind : NodeKind) :
    (within frames names brackets list path).add kind =
      .ok (within frames names brackets (list.modifyAt (·.push (.leaf kind)) path)
        (path ++ [parent.children.length])) := by
  have opened := (open?_within frames names brackets).trans here
  rw [add, opened]
  simp only [within, modifyAt_nest, List.append_assoc]

theorem write_within {node : SelectorTree} (here : list.at? path = some node)
    (valued : node.value?.isSome = true) (text : String) :
    (within frames names brackets list path).write text =
      .ok (within frames names brackets (list.modifyAt (·.mapValue (· ++ text)) path) path) := by
  have opened := (open?_within frames names brackets).trans here
  have kept : node.value?.isNone = false := by
    rw [← Option.not_isSome, valued]
    rfl
  rw [write, opened]
  simp only [kept, within, modifyAt_nest, Bool.and_false, Bool.false_eq_true, if_false]

theorem ascend_within {target : NodeClass} {found : List Nat}
    (closest : list.closest? target path = some found) :
    (within frames names brackets list path).ascend target = within frames names brackets list found := by
  have inside := closest?_nest frames closest
  simp only [ascend, within, Option.bind_some, inside]

/-- The innermost frame is a part of the list around it. -/
theorem within_append (f : Frame) :
    within (frames ++ [f]) names brackets list path =
      within frames names brackets (f.wrap list) (f.way ++ path) := by
  simp only [within, nest_append, wayThrough_append, List.append_assoc]
  simp [nest, wayThrough]

end Draft

end CosmeticRules
