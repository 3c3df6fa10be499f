import CosmeticRules.Proofs.Selector.OpenDraft

/-!
The places inside a list of selectors at which a draft can be open, and how it gets from one to another.
-/

namespace CosmeticRules

open SelectorTree

/-- A list whose last selector has these parts so far. -/
def openList (before parts : List SelectorTree) : SelectorTree :=
  .node .selectorList (before ++ [.node .selector parts])

section openList

variable (before parts : List SelectorTree) (part : SelectorTree) (path : List Nat)

@[simp] theorem at?_openList :
    (openList before parts).at? [before.length] = some (.node .selector parts) := at?_last _ _ _ _

@[simp] theorem modifyAt_openList (f : SelectorTree → SelectorTree) {changed : List SelectorTree}
    (same : f (.node .selector parts) = .node .selector changed) :
    (openList before parts).modifyAt f [before.length] = openList before changed := by
  rw [openList, modifyAt_last, modifyAt, same, openList]

@[simp] theorem at?_openList_last :
    (openList before (parts ++ [part])).at? (before.length :: parts.length :: path) = part.at? path := by
  rw [openList, at?_last, at?_last]

@[simp] theorem modifyAt_openList_last (f : SelectorTree → SelectorTree) :
    (openList before (parts ++ [part])).modifyAt f (before.length :: parts.length :: path) =
      openList before (parts ++ [part.modifyAt f path]) := by
  rw [openList, modifyAt_last, modifyAt_last, openList]

theorem closest?_selector_openList (inside : part.closest? .selector path = none) :
    (openList before (parts ++ [part])).closest? .selector (before.length :: parts.length :: path) =
      some [before.length] := by
  simp [openList, closest?_last, inside, NodeKind.toClass]

theorem closest?_list_openList (inside : part.closest? .selectorList path = none) :
    (openList before (parts ++ [part])).closest? .selectorList (before.length :: parts.length :: path) =
      some [] := by
  simp [openList, closest?_last, inside, NodeKind.toClass]

theorem closest?_extended_openList (inside : part.closest? .extended path = none) :
    (openList before (parts ++ [part])).closest? .extended (before.length :: parts.length :: path) =
      none := by
  simp [openList, closest?_last, inside, NodeKind.toClass]

end openList

/-- The names of the pseudo-classes around a list, the innermost first. -/
def openNames (frames : List Frame) : List String := (frames.map (·.pseudo.name)).reverse

namespace Draft

/-- A draft that is open somewhere in a list inside frames, with every parenthesis of theirs read. -/
def ready (frames : List Frame) (list : SelectorTree) (path : List Nat) : Draft :=
  within frames (openNames frames) frames.length list path

/-- Open at a list with these selectors. -/
def inList (frames : List Frame) (selectors : List SelectorTree) : Draft :=
  ready frames (.node .selectorList selectors) []

/-- Open at the last selector, which has these parts. -/
def inSelector (frames : List Frame) (before parts : List SelectorTree) : Draft :=
  ready frames (openList before parts) [before.length]

/-- Open at the last part, a regular one. -/
def inRegular (frames : List Frame) (before parts : List SelectorTree) (value : String) : Draft :=
  ready frames (openList before (parts ++ [.leaf (.regular value)])) [before.length, parts.length]

/-- Open at the last part, an extended one that is still empty. -/
def inExtended (frames : List Frame) (before parts : List SelectorTree) : Draft :=
  ready frames (openList before (parts ++ [.leaf .extended])) [before.length, parts.length]

/-- Open at the pseudo-class of the last part, with or without its parenthesis. -/
def inPseudo (frames : List Frame) (before parts : List SelectorTree) (pseudo : PseudoClass)
    (kind : NodeKind) (brackets : Nat) : Draft :=
  within frames (pseudo.name :: openNames frames) (frames.length + brackets)
    (openList before (parts ++ [.node .extended [.leaf kind]])) [before.length, parts.length, 0]

variable (frames : List Frame) (before parts : List SelectorTree)

theorem openClass?_inList : (inList frames before).openClass? = some .selectorList :=
  openClass?_within _ _ _

theorem openClass?_inSelector : (inSelector frames before parts).openClass? = some .selector := by
  rw [inSelector, ready, openClass?_within, at?_openList]
  rfl

theorem openClass?_inRegular (value : String) :
    (inRegular frames before parts value).openClass? = some .regular := by
  rw [inRegular, ready, openClass?_within, at?_openList_last]
  rfl

theorem openClass?_inExtended : (inExtended frames before parts).openClass? = some .extended := by
  rw [inExtended, ready, openClass?_within, at?_openList_last]
  rfl

section inPseudo

variable (pseudo : PseudoClass) (kind : NodeKind) (brackets : Nat)

theorem open?_inPseudo :
    (inPseudo frames before parts pseudo kind brackets).open? = some (.leaf kind) := by
  rw [inPseudo, open?_within, at?_openList_last]
  rfl

theorem openClass?_inPseudo :
    (inPseudo frames before parts pseudo kind brackets).openClass? = some kind.toClass := by
  rw [openClass?, open?_inPseudo]
  rfl

end inPseudo

theorem addRegular_inSelector (value : String) :
    (inSelector frames before parts).addRegular value = .ok (inRegular frames before parts value) := by
  rw [inSelector, ready, addRegular, add_within _ _ _ (at?_openList before parts),
    modifyAt_openList before parts _ rfl]
  rfl

theorem addExtended_inSelector :
    (inSelector frames before parts).add .extended = .ok (inExtended frames before parts) := by
  rw [inSelector, ready, add_within _ _ _ (at?_openList before parts),
    modifyAt_openList before parts _ rfl]
  rfl

theorem addSelector_inList (value : String) :
    (inList frames before).addSelector value = .ok (inRegular frames before [] value) := by
  rw [inList, ready, addSelector, add_within _ _ _ rfl]
  exact addRegular_inSelector frames before [] value

theorem start_empty (value : String) : start value {} = .ok (inRegular [] [] [] value) :=
  addSelector_inList [] [] value

theorem write_inRegular (value text : String) :
    (inRegular frames before parts value).write text =
      .ok (inRegular frames before parts (value ++ text)) := by
  rw [inRegular, ready, write_within _ _ _ (at?_openList_last before parts _ []) rfl,
    modifyAt_openList_last]
  rfl

/-- A pseudo-class opened in an extended part. -/
theorem add_inExtended (pseudo : PseudoClass) (kind : NodeKind) :
    { inExtended frames before parts with pseudoNames := pseudo.name :: openNames frames }.add kind =
      .ok (inPseudo frames before parts pseudo kind 0) := by
  have here : (openList before (parts ++ [.leaf .extended])).at? [before.length, parts.length] =
      some (.leaf .extended) := at?_openList_last before parts _ []
  refine (add_within frames _ _ here kind).trans ?_
  rw [modifyAt_openList_last]
  rfl

theorem ascend_inRegular (value : String) :
    (inRegular frames before parts value).ascend .selector =
      inSelector frames before (parts ++ [.leaf (.regular value)]) :=
  ascend_within _ _ _ (closest?_selector_openList before parts _ [] rfl)

/-- A comma after a regular part. -/
theorem ascend_list_inRegular (value : String) :
    (inRegular frames before parts value).ascend .selectorList =
      inList frames (before ++ [.node .selector (parts ++ [.leaf (.regular value)])]) :=
  ascend_within _ _ _ (closest?_list_openList before parts _ [] rfl)

/-- A comma after an extended part. -/
theorem ascend_list_inSelector :
    (inSelector frames before parts).ascend .selectorList =
      inList frames (before ++ [.node .selector parts]) := by
  refine ascend_within _ _ _ ?_
  rw [openList, closest?_last]
  rfl

theorem open?_inSelector : (inSelector frames before parts).open? = some (.node .selector parts) :=
  (open?_within _ _ _).trans (at?_openList before parts)

theorem reopenRegular_inSelector (value : String) :
    (inSelector frames before (parts ++ [.leaf (.regular value)])).reopenRegular =
      .ok (inRegular frames before parts value) := by
  have regular : ∀ more : List SelectorTree,
      (SelectorTree.leaf (.regular value) :: more).findIdx? (·.isRegular) = some 0 := fun _ => rfl
  rw [reopenRegular, open?_inSelector]
  simp [inSelector, inRegular, ready, within, regular]

/-- A combinator in a regular part stays there. -/
theorem resume_inRegular (value : String) :
    (inRegular frames before parts value).resume = .ok (inRegular frames before parts value) := by
  rw [resume, openClass?_inRegular, if_neg (by simp)]
  simp only [ascend_inRegular, open?_inSelector, children, List.getLast?_concat]
  exact reopenRegular_inSelector frames before parts value

/-- A combinator stays at the pseudo-class of the last part while that is unclosed. -/
theorem resume_within {names : List String} {brackets : Nat} {kind : NodeKind} {pseudo : PseudoClass}
    (named : (SelectorTree.leaf kind).pseudo? = some pseudo)
    (unclosed : (within frames names brackets (openList before (parts ++ [.node .extended [.leaf kind]]))
      [before.length]).isUnclosed pseudo = true) :
    (within frames names brackets (openList before (parts ++ [.node .extended [.leaf kind]]))
        [before.length, parts.length, 0]).resume =
      .ok (within frames names brackets (openList before (parts ++ [.node .extended [.leaf kind]]))
        [before.length, parts.length, 0]) := by
  have back : (within frames names brackets (openList before (parts ++ [.node .extended [.leaf kind]]))
      [before.length, parts.length, 0]).ascend .selector =
      within frames names brackets (openList before (parts ++ [.node .extended [.leaf kind]]))
        [before.length] :=
    ascend_within _ _ _ (closest?_selector_openList before parts _ [0] (by
      cases kind with
      | selector => exact nomatch named
      | _ => rfl))
  have outside : (openClass? (within frames names brackets
      (openList before (parts ++ [.node .extended [.leaf kind]])) [before.length, parts.length, 0]) ==
      some .selectorList) = false := by
    rw [openClass?_within, at?_openList_last]
    cases kind with
    | selectorList => exact nomatch named
    | _ => rfl
  rw [resume, outside, Bool.false_and, if_neg Bool.false_ne_true]
  simp only [back, open?_within, at?_openList, children, List.getLast?_concat, List.head?_cons,
    Option.bind_some, named]
  refine (if_pos rfl).trans ((if_pos unclosed).trans ?_)
  simp [within]

/-- A combinator in an argument that has just begun. -/
theorem resume_inPseudo {pseudo : PseudoClass} (relative : pseudo.isRelative = true) :
    (inPseudo frames before parts pseudo (.relative pseudo) 1).resume =
      .ok (inPseudo frames before parts pseudo (.relative pseudo) 1) := by
  refine resume_within frames before parts rfl ?_
  simp [isUnclosed, within, openNames, relative]

/-- Around a list in a frame stands the pseudo-class of the frame. -/
theorem parentClass?_inList (f : Frame) :
    (inList (frames ++ [f]) before).parentClass? = some .relative := by
  have path : (inList (frames ++ [f]) before).path =
      wayThrough frames ++ [f.selectors.length, f.parts.length, 0] ++ [0] := by
    simp [inList, ready, within, wayThrough, Frame.way]
  have tree : (inList (frames ++ [f]) before).tree =
      some (nest frames (f.wrap (.node .selectorList before))) :=
    congrArg some (nest_append frames _ [f])
  rw [parentClass?, path, if_neg (by simp), List.dropLast_concat, nodeAt?, tree, Option.bind_some,
    at?_nest, Frame.wrap, at?_last, at?_last, at?_only]
  rfl

/-- A combinator at the start of a selector in an argument. -/
theorem resume_inList {frames : List Frame} (inside : frames ≠ []) :
    (inList frames before).resume = .ok (inList frames before) := by
  obtain rfl | ⟨outer, f, rfl⟩ := List.eq_nil_or_concat' frames
  · exact absurd rfl inside
  · rw [resume, openClass?_inList, parentClass?_inList]
    rfl

/-! Pseudo-classes with a list of selectors. -/

theorem openNames_append (f : Frame) : openNames (frames ++ [f]) = f.pseudo.name :: openNames frames := by
  simp [openNames]

/-- The first selector of an argument. -/
theorem addList_inPseudo (pseudo : PseudoClass) (value : String) :
    (inPseudo frames before parts pseudo (.relative pseudo) 1).addList value =
      .ok (inRegular (frames ++ [⟨before, parts, pseudo⟩]) [] [] value) := by
  have opened : (inPseudo frames before parts pseudo (.relative pseudo) 1).add .selectorList =
      .ok (inList (frames ++ [⟨before, parts, pseudo⟩]) []) := by
    rw [inPseudo, add_within _ _ _ (at?_openList_last before parts _ [0]), modifyAt_openList_last, inList,
      ready, within_append, openNames_append, List.length_append]
    rfl
  rw [addList, opened]
  exact addSelector_inList _ [] value

/-- A closing parenthesis after the argument of a pseudo-class. -/
theorem closePseudo_ready (f : Frame) {list : SelectorTree} {path : List Nat}
    (apart : list.closest? .extended path = none) :
    (ready (frames ++ [f]) list path).closePseudo =
      inSelector frames f.selectors (f.parts ++ [.node .extended [.node (.relative f.pseudo) [list]]]) := by
  have part := f.closest?_extended_wrap apart
  have names : (openNames (frames ++ [f])).tail = openNames frames := by rw [openNames_append]; rfl
  have selector : (f.wrap list).closest? .selector [f.selectors.length, f.parts.length] =
      some [f.selectors.length] :=
    closest?_selector_openList f.selectors f.parts _ [] rfl
  have dropped : { ready (frames ++ [f]) list path with
      pseudoBrackets := (frames ++ [f]).length - 1, pseudoNames := (openNames (frames ++ [f])).tail } =
      within frames (openNames frames) frames.length (f.wrap list) (f.way ++ path) := by
    rw [names, ← within_append, List.length_append]
    rfl
  rw [closePseudo]
  show (ascend .extended { ready (frames ++ [f]) list path with
      pseudoBrackets := (frames ++ [f]).length - 1,
      pseudoNames := (openNames (frames ++ [f])).tail }).ascend .selector = _
  rw [dropped, ascend_within _ _ _ part, ascend_within _ _ _ selector]
  rfl

theorem closePseudo_inRegular (f : Frame) (value : String) :
    (inRegular (frames ++ [f]) before parts value).closePseudo =
      inSelector frames f.selectors (f.parts ++ [.node .extended [.node (.relative f.pseudo)
        [openList before (parts ++ [.leaf (.regular value)])]]]) :=
  closePseudo_ready frames f (closest?_extended_openList before parts _ [] rfl)

theorem closePseudo_inSelector (f : Frame) :
    (inSelector (frames ++ [f]) before parts).closePseudo =
      inSelector frames f.selectors (f.parts ++ [.node .extended [.node (.relative f.pseudo)
        [openList before parts]]]) := by
  refine closePseudo_ready frames f ?_
  rw [openList, closest?_last]
  rfl

end Draft

end CosmeticRules
