import CosmeticRules.Proofs.Selector.NormalForm
import CosmeticRules.Proofs.Selector.ParsedShape

/-!
A run of the fold: which selectors it folds, which parts it leaves alone, and the turns that it takes at a part that
can be folded.
-/

namespace CosmeticRules.SelectorTree

variable {parts done selectors : List SelectorTree} {part tree list : SelectorTree} {pseudo : PseudoClass}

/-! Which selectors are folded. -/

/-- The selectors of a list that are folded, with those inside a part that can be folded. -/
inductive Optimizes (list : SelectorTree) : SelectorTree → Prop
  | here {selector : SelectorTree} (member : selector ∈ list.children) : Optimizes list selector
  | inside {around selector inner : SelectorTree} {pseudo : PseudoClass} (outer : Optimizes list around)
    (part : holding pseudo inner ∈ around.children) (foldable : (holding pseudo inner).isFoldable = true)
    (member : selector ∈ inner.children) : Optimizes list selector

/-- A part that folding leaves alone, with all that is inside it. -/
def LeftAlone (list part : SelectorTree) : Prop :=
  ∃ around, Optimizes list around ∧ part ∈ around.children ∧ part.isExtended = true ∧ part.isFoldable = false

/-- Where an extended part comes from that is left after the fold of some parts. -/
def Origin (parts : List SelectorTree) (part : SelectorTree) : Prop :=
  ∃ original ∈ parts, original.isExtended = true ∧
    ((original.isFoldable = false ∧ original = part) ∨ (original.isFoldable = true ∧ original.foldInside = .ok part))

theorem mem_of_mem_mapFirstRegular {f : String → String} (member : part ∈ mapFirstRegular f parts)
    (extended : part.isExtended = true) : part ∈ parts := by
  induction parts with
  | nil => exact member
  | cons first rest ih =>
    rw [mapFirstRegular] at member
    split at member
    · rename_i regular
      rcases List.mem_cons.mp member with rfl | later
      · have changed : (first.mapValue f).isRegular = true := by rwa [isRegular, toClass_mapValue]
        exact absurd ((isExtended_of_isRegular changed).symm.trans extended) Bool.false_ne_true
      · exact List.mem_cons_of_mem _ later
    · rcases List.mem_cons.mp member with rfl | later
      · exact List.mem_cons_self
      · exact List.mem_cons_of_mem _ (ih later)

theorem mem_of_mem_mapLastRegular {f : String → String} (member : part ∈ mapLastRegular f parts)
    (extended : part.isExtended = true) : part ∈ parts :=
  List.mem_reverse.mp (mem_of_mem_mapFirstRegular (List.mem_reverse.mp member) extended)

section origin

variable {result : List SelectorTree} (extended : part.isExtended = true) (member : part ∈ result)

include extended member

theorem mem_of_foldInto (is : foldInto done pseudo list = .ok result) : part ∈ done := by
  obtain ⟨value, _, is⟩ := exists_of_bind_eq_ok is
  obtain ⟨alternatives, _, is⟩ := exists_of_bind_eq_ok is
  obtain rfl := Except.ok.inj is
  exact mem_of_mem_mapLastRegular member extended

theorem mem_of_keepExtended {kept : SelectorTree} (is : keepExtended done kept = .ok result) :
    part ∈ done ∨ part = kept := by
  obtain ⟨value, _, is⟩ := exists_of_bind_eq_ok is
  dsimp only at is
  split at is
  · obtain rfl := Except.ok.inj is
    exact (List.mem_append.mp member).imp (fun before => mem_of_mem_mapLastRegular before extended)
      List.mem_singleton.mp
  · obtain rfl := Except.ok.inj is
    exact (List.mem_append.mp member).imp_right List.mem_singleton.mp

theorem mem_of_settle {kept : SelectorTree} (is : settle done kept = .ok result) : part ∈ done ∨ part = kept := by
  rw [settle.eq_def] at is
  split at is
  · split at is
    · exact .inl (mem_of_foldInto extended member is)
    · exact mem_of_keepExtended extended member is
  · exact mem_of_keepExtended extended member is

theorem mem_of_joinRegular {regular : SelectorTree} (other : regular.isRegular = true)
    (is : joinRegular done regular = .ok result) : part ∈ done := by
  rw [joinRegular] at is
  split at is
  · obtain ⟨value, _, is⟩ := exists_of_bind_eq_ok is
    obtain ⟨text, _, is⟩ := exists_of_bind_eq_ok is
    obtain rfl := Except.ok.inj is
    exact mem_of_mem_mapLastRegular member extended
  · obtain rfl := Except.ok.inj is
    refine (List.mem_append.mp member).resolve_right fun last => ?_
    obtain rfl := List.mem_singleton.mp last
    exact Bool.false_ne_true ((isExtended_of_isRegular other).symm.trans extended)

theorem origin_of_foldParts {rest : List SelectorTree} (folds : foldParts done rest = .ok result) :
    part ∈ done ∨ Origin rest part := by
  induction rest generalizing done with
  | nil =>
    obtain rfl := Except.ok.inj folds
    exact .inl member
  | cons first rest ih =>
    have later (origin : Origin rest part) : Origin (first :: rest) part :=
      let ⟨original, member, is⟩ := origin
      ⟨original, List.mem_cons_of_mem _ member, is⟩
    rw [foldParts] at folds
    split at folds
    · rename_i isExtended
      split at folds
      · rename_i foldable
        obtain ⟨inside, folded, folds⟩ := exists_of_bind_eq_ok folds
        obtain ⟨next, settled, folds⟩ := exists_of_bind_eq_ok folds
        refine (ih folds).elim (fun before => ?_) fun origin => .inr (later origin)
        refine (mem_of_settle extended before settled).imp_right ?_
        rintro rfl
        exact ⟨first, List.mem_cons_self, isExtended, .inr ⟨foldable, folded⟩⟩
      · rename_i stays
        obtain ⟨next, kept, folds⟩ := exists_of_bind_eq_ok folds
        refine (ih folds).elim (fun before => ?_) fun origin => .inr (later origin)
        refine (mem_of_keepExtended extended before kept).imp_right ?_
        rintro rfl
        exact ⟨_, List.mem_cons_self, isExtended, .inl ⟨Bool.eq_false_iff.mpr stays, rfl⟩⟩
    · split at folds
      · rename_i regular
        obtain ⟨next, joined, folds⟩ := exists_of_bind_eq_ok folds
        exact (ih folds).imp (fun before => mem_of_joinRegular extended before regular joined) later
      · exact (ih folds).imp_right later

end origin

theorem exists_of_foldSelectors {result : List SelectorTree} (folds : foldSelectors selectors = .ok result)
    {folded : SelectorTree} (member : folded ∈ result) :
    ∃ selector ∈ selectors, selector.foldSelector = .ok folded := by
  induction selectors generalizing result with
  | nil =>
    obtain rfl := Except.ok.inj folds
    cases member
  | cons first rest ih =>
    rw [foldSelectors] at folds
    obtain ⟨one, here, folds⟩ := exists_of_bind_eq_ok folds
    obtain ⟨others, after, same⟩ := exists_of_bind_eq_ok folds
    obtain rfl := Except.ok.inj same
    rcases List.mem_cons.mp member with rfl | later
    · exact ⟨first, List.mem_cons_self, here⟩
    · obtain ⟨selector, member, is⟩ := ih after later
      exact ⟨selector, List.mem_cons_of_mem _ member, is⟩

theorem Folds.of_ok {α : Type} {P : α → Prop} {x : Except TreeFault α} {a : α} (folds : Folds P x) (is : x = .ok a) :
    P a := by
  subst is
  exact folds

theorem Optimizes.shaped {selector : SelectorTree} (optimizes : Optimizes tree selector)
    (shaped : tree.Everywhere (Shape True)) (is : tree.toClass = .selectorList) :
    selector.Everywhere (Shape True) ∧ selector.toClass = .selector := by
  have below {list selector : SelectorTree} (shaped : list.Everywhere (Shape True)) (is : list.toClass = .selectorList)
      (member : selector ∈ list.children) : selector.Everywhere (Shape True) ∧ selector.toClass = .selector := by
    refine ⟨shaped.child member, ?_⟩
    obtain ⟨kind, selectors⟩ := list
    obtain rfl := NodeKind.eq_selectorList is
    exact shaped.row.1.2 _ (List.mem_map_of_mem member)
  induction optimizes with
  | here member => exact below shaped is member
  | inside _ part _ member ih =>
    have argument := (ih.1.child part).child List.mem_cons_self
    exact below (argument.child List.mem_cons_self) (argument.row.1 _ List.mem_cons_self) member

/-- An extended part of a folded selector is left alone, or holds what a list has been folded to. -/
theorem origin_of_foldSelector {selector folded : SelectorTree} (shaped : selector.Everywhere (Shape True))
    (is : selector.toClass = .selector) (folds : selector.foldSelector = .ok folded) (member : part ∈ folded.children)
    (extended : part.isExtended = true) :
    (part ∈ selector.children ∧ part.isFoldable = false) ∨
      ∃ pseudo list inner, holding pseudo list ∈ selector.children ∧
        (holding pseudo list).isFoldable = true ∧ list.foldList = .ok inner ∧ part = holding pseudo inner := by
  obtain ⟨kind, parts⟩ := selector
  obtain rfl := NodeKind.eq_selector is
  cases parts with
  | nil => cases shaped.row.1.1
  | cons first rest =>
    rw [foldSelector] at folds
    obtain ⟨parts, all, same⟩ := exists_of_bind_eq_ok folds
    obtain rfl := Except.ok.inj same
    have regular : first.isRegular = true := beq_iff_eq.mpr (Option.some.inj shaped.row.1.1)
    rcases origin_of_foldParts extended member all with
      before | ⟨original, isIn, isExtended, ⟨stays, rfl⟩ | ⟨folds, inside⟩⟩
    · obtain rfl := List.mem_singleton.mp before
      exact absurd ((isExtended_of_isRegular regular).symm.trans extended) Bool.false_ne_true
    · exact .inl ⟨List.mem_cons_of_mem _ isIn, stays⟩
    · have isIn : original ∈ (node .selector (first :: rest)).children := List.mem_cons_of_mem _ isIn
      rcases extended_cases (shaped.child isIn) (beq_iff_eq.mp isExtended) with ⟨pseudo, list, rfl⟩ | ⟨kind, rfl⟩
      · obtain ⟨inner, isFolded, rfl⟩ := exists_of_foldInside inside
        exact .inr ⟨pseudo, list, inner, isIn, folds, isFolded, rfl⟩
      · exact absurd ((isFoldable_leaf kind).symm.trans folds) Bool.false_ne_true

/-- What a node of a folded tree comes from. -/
inductive Place (tree : SelectorTree) : SelectorTree → Prop
  | list {selectors folded : List SelectorTree} (each : ∀ selector ∈ selectors, Optimizes tree selector)
    (folds : foldSelectors selectors = .ok folded) : Place tree (node .selectorList folded)
  | selector {original folded : SelectorTree} (optimizes : Optimizes tree original)
    (folds : original.foldSelector = .ok folded) : Place tree folded
  | regular {value : String} : Place tree (node (.regular value) [])
  | part {pseudo : PseudoClass} {inner : SelectorTree} (place : Place tree inner) : Place tree (holding pseudo inner)
  | argument {pseudo : PseudoClass} {inner : SelectorTree} (place : Place tree inner) :
    Place tree (node (.relative pseudo) [inner])
  | left {part inside : SelectorTree} {way : List Nat} (alone : LeftAlone tree part)
    (here : part.at? way = some inside) : Place tree inside

theorem Place.of_foldList {folded : SelectorTree} (each : ∀ selector ∈ list.children, Optimizes tree selector)
    (is : list.toClass = .selectorList) (folds : list.foldList = .ok folded) : Place tree folded := by
  obtain ⟨kind, selectors⟩ := list
  obtain rfl := NodeKind.eq_selectorList is
  rw [foldList] at folds
  obtain ⟨results, all, same⟩ := exists_of_bind_eq_ok folds
  obtain rfl := Except.ok.inj same
  exact .list each all

section place

variable (shaped : tree.Everywhere (Shape True)) (is : tree.toClass = .selectorList) {inner : SelectorTree}

include shaped is

/-- Every part of a folded selector. -/
theorem Optimizes.place {original folded : SelectorTree} (optimizes : Optimizes tree original)
    (folds : original.foldSelector = .ok folded) (member : part ∈ folded.children) : Place tree part := by
  obtain ⟨below, isSelector⟩ := optimizes.shaped shaped is
  have good := (foldSelector_folds original below isSelector).of_ok folds
  cases extended : part.isExtended with
  | true =>
    rcases origin_of_foldSelector below isSelector folds member extended with
      ⟨old, stays⟩ | ⟨pseudo, list, inner, old, foldable, isFolded, rfl⟩
    · have alone : LeftAlone tree part := ⟨original, optimizes, old, extended, stays⟩
      exact .left alone (show part.at? [] = some part from rfl)
    · have argument := (below.child old).child List.mem_cons_self
      have isList := argument.row.1 _ List.mem_cons_self
      exact .part (.of_foldList (fun selector member => .inside optimizes old foldable member) isList isFolded)
  | false =>
    obtain ⟨kind, parts⟩ := folded
    obtain rfl := NodeKind.eq_selector good.1
    have regular := (good.2.row.1.2 _ (List.mem_map_of_mem member)).resolve_right
      fun is => Bool.false_ne_true (extended.symm.trans (beq_iff_eq.mpr is))
    have empty := (good.2.child member).row.1
    obtain ⟨kind, children⟩ := part
    cases kind with
    | regular value =>
      obtain rfl := List.map_eq_nil_iff.mp empty
      exact .regular
    | _ => cases regular

theorem Place.child (place : Place tree inner) {child : SelectorTree} (member : child ∈ inner.children) :
    Place tree child := by
  cases place with
  | list each folds =>
    obtain ⟨original, isIn, folds⟩ := exists_of_foldSelectors folds member
    exact .selector (each original isIn) folds
  | selector optimizes folds => exact optimizes.place shaped is folds member
  | regular => cases member
  | part place => exact List.mem_singleton.mp member ▸ .argument place
  | argument place => exact List.mem_singleton.mp member ▸ place
  | @left part _ way alone here =>
    obtain ⟨i, is⟩ := List.getElem?_of_mem member
    have further : part.at? (way ++ [i]) = some child := by
      rw [at?_append, here, Option.bind_some, SelectorTree.at?, is]
      rfl
    exact .left alone further

theorem Place.at? (place : Place tree inner) {path : List Nat} {node : SelectorTree}
    (here : inner.at? path = some node) : Place tree node := by
  induction path generalizing inner with
  | nil => exact Option.some.inj here ▸ place
  | cons i path ih =>
    obtain ⟨child, atI, here⟩ := Option.bind_eq_some_iff.mp here
    exact ih (place.child shaped is (List.mem_of_getElem? atI)) here

end place

/-- Every selector of the folded tree has been folded, or stands inside a part that is left alone. -/
theorem Place.of_selector {node : SelectorTree} (place : Place tree node) (selector : node.toClass = .selector) :
    (∃ original, Optimizes tree original ∧ original.foldSelector = .ok node) ∨
      ∃ part, LeftAlone tree part ∧ ∃ way, part.at? way = some node := by
  cases place with
  | selector optimizes folds => exact .inl ⟨_, optimizes, folds⟩
  | left alone here => exact .inr ⟨_, alone, _, here⟩
  | _ => cases selector

/-! The turns at an extended part. -/

/-- One turn at an extended part that can be folded. Without extended parts inside, it disappears into the regular part
before it; otherwise its lists are folded, and it is looked at again. -/
def turn (done : List SelectorTree) (part : SelectorTree) : Except TreeFault (List SelectorTree ⊕ SelectorTree) :=
  if done.any (·.isRegular) then
    match part with
    | node kind (node (.relative pseudo) (list :: more) :: rest) =>
      if list.hasExtended then (node kind (node (.relative pseudo) (list :: more) :: rest)).foldInside.map .inr
      else (foldInto done pseudo list).map .inl
    | _ => .error .notRelative
  else .error .noRegular

/-- Turns are taken as long as the part can be folded. -/
inductive Turns (done : List SelectorTree) : Nat → SelectorTree → Except TreeFault (List SelectorTree) → Prop
  | stays {part : SelectorTree} (stays : part.isFoldable = false) : Turns done 0 part (keepExtended done part)
  | fails {part : SelectorTree} {fault : TreeFault} (folds : part.isFoldable = true)
    (stops : turn done part = .error fault) : Turns done 1 part (.error fault)
  | folded {part : SelectorTree} {next : List SelectorTree} (folds : part.isFoldable = true)
    (ends : turn done part = .ok (.inl next)) : Turns done 1 part (.ok next)
  | again {part inside : SelectorTree} {count : Nat} {result : Except TreeFault (List SelectorTree)}
    (folds : part.isFoldable = true) (goesOn : turn done part = .ok (.inr inside))
    (rest : Turns done count inside result) : Turns done (count + 1) part result

theorem turn_holding (begins : done.any (·.isRegular) = true) : turn done (holding pseudo list) =
    if list.hasExtended then (holding pseudo list).foldInside.map .inr else (foldInto done pseudo list).map .inl := by
  unfold turn
  exact if_pos begins

theorem hasExtended_of_plain (plain : list.children.all isPlain = true) : list.hasExtended = false := by
  refine List.any_eq_false.mpr fun selector member => ?_
  have single := List.all_eq_true.mp plain selector member
  obtain ⟨kind, parts⟩ := selector
  match parts with
  | [] => nofun
  | [part] =>
    have regular : part.isRegular = true := single
    simp [isExtended_of_isRegular regular]
  | _ :: _ :: _ => cases single

theorem plain_of_foldable (folds : (holding pseudo list).isFoldable = true) (none : list.hasExtended = false) :
    pseudo.isFoldable = true ∧ list.children.all isPlain = true := by
  have nothing : anyFoldable list.children = false := by
    refine anyFoldable_eq_false_iff.mpr fun selector member =>
      anyPartFoldable_eq_false_iff.mpr fun part inside extended => ?_
    have other := List.any_eq_false.mp (Bool.eq_false_iff.mpr (List.any_eq_false.mp none selector member)) part inside
    exact absurd extended other
  rwa [isFoldable_holding, nothing, Bool.or_false, Bool.and_eq_true] at folds

/-- There is nothing to fold inside plain alternatives. -/
theorem foldInside_of_plain (plain : list.children.all isPlain = true) :
    (holding pseudo list).foldInside = .ok (holding pseudo list) := by
  obtain ⟨kind, selectors⟩ := list
  have same : foldSelectors selectors = .ok selectors := by
    rw [children_node] at plain
    induction selectors with
    | nil => rfl
    | cons selector rest ih =>
      obtain ⟨single, others⟩ := Bool.and_eq_true_iff.mp plain
      obtain ⟨kind, parts⟩ := selector
      match parts with
      | [] => cases single
      | [part] =>
        rw [foldSelectors, foldSelector, foldParts, ih others]
        rfl
      | _ :: _ :: _ => cases single
  rw [holding, foldInside, foldLists, foldLists, foldList, same]
  rfl

theorem turns_plain (begins : done.any (·.isRegular) = true) (folds : pseudo.isFoldable = true)
    (plain : list.children.all isPlain = true) : Turns done 1 (holding pseudo list) (foldInto done pseudo list) := by
  have foldable : (holding pseudo list).isFoldable = true := by rw [isFoldable_holding, folds, plain]; rfl
  have turned : turn done (holding pseudo list) = (foldInto done pseudo list).map .inl := by
    rw [turn_holding begins, hasExtended_of_plain plain]
    rfl
  cases result : foldInto done pseudo list with
  | ok next => exact .folded foldable (by rw [turned, result]; rfl)
  | error fault => exact .fails foldable (by rw [turned, result]; rfl)

/-- What an extended part adds to the parts before it. -/
def added (done : List SelectorTree) (part : SelectorTree) : Except TreeFault (List SelectorTree) :=
  if part.isFoldable then part.foldInside >>= settle done else keepExtended done part

/-- Two turns are enough: the first leaves nothing inside that can be folded, so the next is the last. -/
theorem turns_added (begins : done.any (·.isRegular) = true) (shaped : part.Everywhere (Shape True))
    (is : part.toClass = .extended) : ∃ count ≤ 2, Turns done count part (added done part) := by
  cases folds : part.isFoldable with
  | false =>
    rw [added, if_neg (by simp [folds])]
    exact ⟨0, by omega, .stays folds⟩
  | true =>
    rw [added, if_pos folds]
    obtain ⟨pseudo, list, rfl⟩ := (extended_cases shaped is).resolve_right fun ⟨kind, leaf⟩ =>
      absurd ((isFoldable_leaf kind).symm.trans (leaf ▸ folds)) Bool.false_ne_true
    cases extended : list.hasExtended with
    | false =>
      obtain ⟨pseudoFolds, plain⟩ := plain_of_foldable folds extended
      have ends : (holding pseudo list).foldInside >>= settle done = foldInto done pseudo list := by
        rw [foldInside_of_plain plain]
        exact settle_of_plain pseudoFolds plain
      exact ⟨1, by omega, ends ▸ turns_plain begins pseudoFolds plain⟩
    | true =>
      have turned : turn done (holding pseudo list) = (holding pseudo list).foldInside.map .inr := by
        rw [turn_holding begins, if_pos extended]
      cases inside : (holding pseudo list).foldInside with
      | error fault => exact ⟨1, by omega, .fails folds (by rw [turned, inside]; rfl)⟩
      | ok folded =>
        have goesOn : turn done (holding pseudo list) = .ok (.inr folded) := by rw [turned, inside]; rfl
        have whole := foldInside_whole _ shaped is inside
        change ∃ count ≤ 2, Turns done count _ (settle done folded)
        cases again : folded.isFoldable with
        | false =>
          rw [settle_of_stays again]
          exact ⟨1, by omega, .again folds goesOn (.stays again)⟩
        | true =>
          obtain ⟨pseudo, list, rfl, pseudoFolds, plain⟩ := whole.2 again
          rw [settle_of_plain pseudoFolds plain]
          exact ⟨2, le_rfl, .again folds goesOn (turns_plain begins pseudoFolds plain)⟩

theorem foldParts_extended (extended : part.isExtended = true) (rest : List SelectorTree) :
    foldParts done (part :: rest) = added done part >>= fun next => foldParts next rest := by
  rw [foldParts, if_pos extended, added]
  split
  · cases part.foldInside <;> rfl
  · rfl

/-- Folding ends, and what it ends with is in normal form: no `:is()` or `:not()` with plain alternatives only is left
anywhere, no two regular parts of a folded selector are next to each other, and nothing is left to fold. Every selector
of the result has been folded, or stands inside a part that was left alone. -/
theorem foldList_normal_form (shaped : tree.Everywhere (Shape True)) (is : tree.toClass = .selectorList) :
    (∀ around part, Optimizes tree around → part ∈ around.children → part.isExtended = true →
      ∀ done rest, done.any (·.isRegular) = true → ∃ count ≤ 2, ∃ result, Turns done count part result ∧
        foldParts done (part :: rest) = result >>= fun next => foldParts next rest) ∧
    ∀ folded, tree.foldList = .ok folded →
      (∀ path pseudo lists, folded.at? path = some (node (.relative pseudo) lists) → pseudo = .is ∨ pseudo = .not →
        ∀ list ∈ lists, list.children.all isPlain = false) ∧
      (∀ original selector, Optimizes tree original → original.foldSelector = .ok selector →
        (selector.children.map toClass).IsChain fun c next => ¬(c = .regular ∧ next = .regular)) ∧
      (∀ path selector, folded.at? path = some selector → selector.toClass = .selector →
        (∃ original, Optimizes tree original ∧ original.foldSelector = .ok selector) ∨
          ∃ part, LeftAlone tree part ∧ ∃ way, part.at? way = some selector) ∧
      folded.foldList = .ok folded := by
  constructor
  · intro around part optimizes member extended done rest begins
    have inside := (optimizes.shaped shaped is).1.child member
    obtain ⟨count, few, turns⟩ := turns_added begins inside (beq_iff_eq.mp extended)
    exact ⟨count, few, _, turns, foldParts_extended extended rest⟩
  · intro folded folds
    have place : Place tree folded := .of_foldList (fun _ member => .here member) is folds
    have normal := foldList_normal tree shaped is folds
    obtain ⟨isList, good⟩ := (foldList_folds tree shaped is).of_ok folds
    obtain ⟨kind, selectors⟩ := folded
    obtain rfl := NodeKind.eq_selectorList isList
    refine ⟨?_, ?_, ?_, ?_⟩
    · intro path pseudo lists here foldable list member
      have clean : Clean (node .selectorList selectors) :=
        anyFoldable_eq_false_iff.mpr fun selector member =>
          anyPartFoldable_eq_false_iff.mpr (normal selector member).folded
      have folds : pseudo.isFoldable = true := by rcases foldable with rfl | rfl <;> rfl
      have none := ((clean.at? good here) list member).1
      rwa [folds, Bool.true_and] at none
    · intro original selector optimizes folds
      obtain ⟨below, isSelector⟩ := optimizes.shaped shaped is
      exact (foldSelector_normal original below isSelector folds).apart
    · intro path selector here isSelector
      exact (place.at? shaped is here).of_selector isSelector
    · have again : foldSelectors selectors = .ok selectors :=
        foldSelectors_again (fun selector member => good.child member)
          (fun selector member => good.row.1.2 _ (List.mem_map_of_mem member)) normal
      rw [foldList, again]
      rfl

/-- What `*:is(a:not(b:is(.c)) d, e:contains(f))` is read as. -/
def nestedFolds : SelectorTree :=
  node .selectorList [node .selector [leaf (.regular "*"), holding .is (node .selectorList
    [node .selector [leaf (.regular "a"),
        holding .not (node .selectorList [node .selector [leaf (.regular "b"), holding .is (firstList ".c")]]),
        leaf (.regular "d")],
      node .selector [leaf (.regular "e"), node .extended [leaf (.absolute .contains "f")]]])]]

/-- The fold inside lets the one around it be made, and the parts on both sides are joined. -/
theorem foldList_normal_form_nested :
    readUnfolded "*:is(a:not(b:is(.c)) d, e:contains(f))" = .ok (nestedFolds, true) ∧
      ∃ folded, nestedFolds.foldList = .ok folded ∧ folded.foldList = .ok folded ∧
        folded = node .selectorList [node .selector [leaf (.regular "html *"), holding .is (node .selectorList
          [node .selector [leaf (.regular "a:not(b:is(.c)) d")],
            node .selector [leaf (.regular "e"), node .extended [leaf (.absolute .contains "f")]]])]] := by
  have read : readUnfolded "*:is(a:not(b:is(.c)) d, e:contains(f))" = .ok (nestedFolds, true) := by decide +kernel
  have apart : SelectorReader.keepsApart "*:is(a:not(b:is(.c)) d, e:contains(f))" = true := by decide +kernel
  have yields := readUnfolded_yields True _ fun _ => apart
  rw [read] at yields
  refine ⟨read, _, ?_, ((foldList_normal_form yields.2 yields.1).2 _ ?_).2.2.2, rfl⟩ <;> decide +kernel

end CosmeticRules.SelectorTree
