import CosmeticRules.Proofs.Matching.Siblings

/-!
`:is()` and `:not()`: which elements they keep, and when they fail. The alternatives of both are asked one after the
other, but one that fails is passed over by the first and is the failure of the second.
-/

namespace CosmeticRules.Matching

open Css

variable {view : View} {pseudo : PseudoClass} {n : NodeId} {alternatives : List SelectorTree} {elements : List NodeId}

theorem error_of_bind {ε α β : Type} {x : Except ε α} {f : α → Except ε β} {e : ε} (same : x >>= f = .error e) :
    x = .error e ∨ ∃ a, x = .ok a ∧ f a = .error e := by
  cases x with
  | error failure => exact .inl (congrArg Except.error (Except.error.inj same))
  | ok a => exact .inr ⟨a, rfl, same⟩

/-! Keeping the elements that pass a test. -/

/-- The test has decided about every element if some are kept in the end. -/
theorem exists_passes_of_keep {test : NodeId → Outcome Bool} {kept : List NodeId}
    (is : (keep test elements).result = .ok kept) :
    ∃ passes : NodeId → Bool, (∀ n ∈ elements, (test n).result = .ok (passes n)) ∧ kept = elements.filter passes := by
  have decided : ∀ n ∈ elements, ∃ passes, (test n).result = .ok passes := by
    induction elements generalizing kept with
    | nil => simp
    | cons first rest ih =>
      rw [keep, Logged.result_bind] at is
      obtain ⟨passes, here, is⟩ := exists_of_bind_eq_ok is
      obtain ⟨others, later, _⟩ := exists_of_bind_eq_ok ((Logged.result_bind _ _).symm.trans is)
      exact List.forall_mem_cons.mpr ⟨⟨passes, here⟩, ih later⟩
  have each : ∀ n ∈ elements, (test n).result = .ok ((test n).result.toOption.getD false) := by
    intro n member
    obtain ⟨passes, here⟩ := decided n member
    rw [here]
    rfl
  exact ⟨_, each, Except.ok.inj (is.symm.trans (keep_eq_filter each))⟩

/-- What makes the test of some element fail is what makes keeping fail. -/
theorem exists_error_of_keep {test : NodeId → Outcome Bool} {e : MatchError}
    (is : (keep test elements).result = .error e) : ∃ n ∈ elements, (test n).result = .error e := by
  induction elements with
  | nil => cases is
  | cons first rest ih =>
    rw [keep, Logged.result_bind] at is
    rcases error_of_bind is with here | ⟨passes, _, is⟩
    · exact ⟨first, List.mem_cons_self, here⟩
    · rcases error_of_bind ((Logged.result_bind _ _).symm.trans is) with later | ⟨kept, _, is⟩
      · obtain ⟨n, member, fails⟩ := ih later
        exact ⟨n, List.mem_cons_of_mem _ member, fails⟩
      · cases is

/-! One alternative after the other. -/

/-- Below which element, and by which native selector behind the scope, an alternative of `:is()` or `:not()` is asked
whether it selects an element. -/
structure Asked (t : PageTree) (n : NodeId) (parts : List SelectorTree) (parent : NodeId) (text : String) : Prop where
  above : t.parentElement? n = some parent
  first : ∀ pseudo, firstRegular pseudo parts = .ok text

/-- A selector, asked for among the children of the parent of an element, selects the element. -/
def Reselects (view : View) (n : NodeId) (alternative : SelectorTree) : Prop :=
  ∃ parent text found, Asked view.page.tree n alternative.children parent text ∧
    (elementsOfParts view parent (some (":scope>" ++ text)) alternative.children).result = .ok found ∧ n ∈ found

section asked

variable {kind : NodeKind} {parts : List SelectorTree} {parent : NodeId} {text : String}

theorem Asked.isScope (asked : Asked view.page.tree n parts parent text) (pseudo : PseudoClass) :
    isScope view.page.tree pseudo text n = .ok (parent, ":scope>" ++ text) := by
  rw [Matching.isScope, asked.above]

theorem Asked.unique (asked : Asked view.page.tree n parts parent text) {parent' : NodeId} {text' : String}
    (again : Asked view.page.tree n parts parent' text') : parent' = parent ∧ text' = text :=
  ⟨Option.some.inj (again.above.symm.trans asked.above), Except.ok.inj ((again.first .is).symm.trans (asked.first .is))⟩

theorem Asked.reselects_iff (asked : Asked view.page.tree n parts parent text) {found : List NodeId}
    (is : (elementsOfParts view parent (some (":scope>" ++ text)) parts).result = .ok found) :
    Reselects view n (.node kind parts) ↔ n ∈ found := by
  constructor
  · rintro ⟨parent', text', found', again, is', member⟩
    obtain ⟨rfl, rfl⟩ := asked.unique again
    obtain rfl := Except.ok.inj (is'.symm.trans is)
    exact member
  · exact fun member => ⟨parent, text, found, asked, is, member⟩

theorem Asked.not_reselects (asked : Asked view.page.tree n parts parent text) {e : MatchError}
    (fails : (elementsOfParts view parent (some (":scope>" ++ text)) parts).result = .error e) :
    ¬Reselects view n (.node kind parts) := by
  rintro ⟨parent', text', found', again, is', _⟩
  obtain ⟨rfl, rfl⟩ := asked.unique again
  cases is'.symm.trans fails

variable (asked : Asked view.page.tree n parts parent text) (rest : List SelectorTree)

include asked

theorem result_isAny_cons : (isAny view pseudo n (.node kind parts :: rest)).result =
    match (elementsOfParts view parent (some (":scope>" ++ text)) parts).result with
    | .ok found => if found.contains n then .ok true else (isAny view pseudo n rest).result
    | .error _ => (isAny view pseudo n rest).result := by
  simp only [isAny, Logged.result_bind, Logged.result_ofExcept, asked.first]
  simp only [bind, Except.bind, asked.isScope, Logged.result_attempt]
  cases (elementsOfParts view parent (some (":scope>" ++ text)) parts).result with
  | ok found =>
    simp only []
    split <;> rfl
  | error e => rfl

theorem result_isNone_cons : (isNone view pseudo n (.node kind parts :: rest)).result =
    match (elementsOfParts view parent (some (":scope>" ++ text)) parts).result with
    | .ok found => if found.contains n then .ok false else (isNone view pseudo n rest).result
    | .error _ => .error (.badSelector pseudo text) := by
  simp only [isNone, Logged.result_bind, Logged.result_ofExcept, asked.first]
  simp only [bind, Except.bind, asked.isScope, blame, Logged.result_reportAs]
  cases (elementsOfParts view parent (some (":scope>" ++ text)) parts).result with
  | ok found =>
    simp only [Except.mapError]
    split <;> rfl
  | error e => rfl

end asked

/-- An alternative is asked for, or neither of the pseudo-classes can be decided. -/
theorem asked_or_fails (view : View) (n : NodeId) (kind : NodeKind) (parts rest : List SelectorTree) :
    (∃ parent text, Asked view.page.tree n parts parent text) ∨
      ∀ pseudo, ∃ e, (e = .noRegular pseudo ∨ e = .notPossible pseudo) ∧
        (isAny view pseudo n (.node kind parts :: rest)).result = .error e ∧
        (isNone view pseudo n (.node kind parts :: rest)).result = .error e := by
  by_cases regular : ∃ text, ∀ pseudo, firstRegular pseudo parts = .ok text
  · obtain ⟨text, first⟩ := regular
    cases above : view.page.tree.parentElement? n with
    | some parent => exact .inl ⟨parent, text, above, first⟩
    | none =>
      refine .inr fun pseudo => ⟨.notPossible pseudo, .inr rfl, ?_⟩
      have none : isScope view.page.tree pseudo text n = .error (.notPossible pseudo) := by rw [isScope, above]
      constructor
      · simp only [isAny, Logged.result_bind, Logged.result_ofExcept, first]
        simp only [bind, Except.bind, none]
      · simp only [isNone, Logged.result_bind, Logged.result_ofExcept, first]
        simp only [bind, Except.bind, none]
  · refine .inr fun pseudo => ⟨.noRegular pseudo, .inl rfl, ?_⟩
    have none : firstRegular pseudo parts = .error (.noRegular pseudo) := by
      unfold firstRegular
      split
      · exact absurd ⟨_, fun _ => rfl⟩ regular
      · rfl
    constructor
    · simp only [isAny, Logged.result_bind, Logged.result_ofExcept, none]
      rfl
    · simp only [isNone, Logged.result_bind, Logged.result_ofExcept, none]
      rfl

/-- Where `:not()` is decided, `:is()` is decided the other way. -/
theorem isAny_of_isNone {other : PseudoClass} {free : Bool}
    (is : (isNone view pseudo n alternatives).result = .ok free) :
    (isAny view other n alternatives).result = .ok (!free) := by
  induction alternatives with
  | nil =>
    rw [isNone] at is
    obtain rfl := Except.ok.inj is
    rw [isAny]
    rfl
  | cons alternative rest ih =>
    obtain ⟨kind, parts⟩ := alternative
    rcases asked_or_fails view n kind parts rest with ⟨parent, text, asked⟩ | fails
    · rw [result_isNone_cons asked] at is
      rw [result_isAny_cons asked]
      split at is
      · split at is
        · rename_i selects
          obtain rfl := Except.ok.inj is
          simp only [selects, if_true, Bool.not_false]
        · rename_i misses
          rw [ih is, if_neg misses]
      · cases is
    · obtain ⟨e, _, _, failed⟩ := fails pseudo
      cases failed.symm.trans is

/-- An element is one that `:is()` selects if one of the alternatives selects it again. -/
theorem isAny_iff {selected : Bool} (is : (isAny view pseudo n alternatives).result = .ok selected) :
    selected = true ↔ ∃ alternative ∈ alternatives, Reselects view n alternative := by
  induction alternatives with
  | nil =>
    rw [isAny] at is
    obtain rfl := Except.ok.inj is
    simp
  | cons alternative rest ih =>
    obtain ⟨kind, parts⟩ := alternative
    rw [List.exists_mem_cons_iff]
    rcases asked_or_fails view n kind parts rest with ⟨parent, text, asked⟩ | fails
    · rw [result_isAny_cons asked] at is
      split at is
      · rename_i found result
        rw [asked.reselects_iff result]
        split at is
        · rename_i selects
          obtain rfl := Except.ok.inj is
          exact iff_of_true rfl (.inl (List.contains_iff_mem.mp selects))
        · rename_i misses
          rw [ih is, or_iff_right (mt List.contains_iff_mem.mpr misses)]
      · rename_i e failed
        rw [ih is, or_iff_right (asked.not_reselects failed)]
    · obtain ⟨e, _, failed, _⟩ := fails pseudo
      cases failed.symm.trans is

/-- `:is()` fails only for an alternative without a native selector at its start, or for an element without a parent
element. -/
theorem isAny_error {e : MatchError} (is : (isAny view pseudo n alternatives).result = .error e) :
    e = .noRegular pseudo ∨ e = .notPossible pseudo := by
  induction alternatives with
  | nil =>
    rw [isAny] at is
    cases is
  | cons alternative rest ih =>
    obtain ⟨kind, parts⟩ := alternative
    rcases asked_or_fails view n kind parts rest with ⟨parent, text, asked⟩ | fails
    · rw [result_isAny_cons asked] at is
      split at is
      · split at is
        · cases is
        · exact ih is
      · exact ih is
    · obtain ⟨failure, reason, failed, _⟩ := fails pseudo
      obtain rfl := Except.error.inj (failed.symm.trans is)
      exact reason

/-! Parts of a selector. -/

/-- The part of a selector that holds a relative pseudo-class with its lists. -/
def asking (pseudo : PseudoClass) (lists more : List SelectorTree) : SelectorTree :=
  .node .extended (.node (.relative pseudo) lists :: more)

section parts

variable {list : SelectorTree} {lists more : List SelectorTree}

theorem byPart_is : byPart view (asking .is (list :: lists) more) elements =
    keep (fun n => isAny view .is n list.children) elements := by
  obtain ⟨kind, alternatives⟩ := list
  have relative : PseudoClass.is.isRelative = true := rfl
  rw [asking, byPart, byPseudo, if_pos relative, byRelative]
  rfl

theorem byPart_not : byPart view (asking .not (list :: lists) more) elements =
    keep (fun n => isNone view .not n list.children) elements := by
  obtain ⟨kind, alternatives⟩ := list
  have relative : PseudoClass.not.isRelative = true := rfl
  rw [asking, byPart, byPseudo, if_pos relative, byRelative]
  rfl

/-- Where `:not()` keeps some elements, `:is()` keeps the others, in the same order: those that one of the alternatives
selects again. And what `:is()` fails for is never what an alternative says, but that it begins with no native selector
or that an element has no parent element to ask from. -/
theorem byPart_is_complement {free : List NodeId}
    (is : (byPart view (asking .not (list :: lists) more) elements).result = .ok free) :
    (∃ selected, (byPart view (asking .is (list :: lists) more) elements).result = .ok selected ∧
      (∃ selects : NodeId → Bool,
        selected = elements.filter selects ∧ free = elements.filter fun n => !selects n) ∧
      (∀ n ∈ elements, n ∈ selected ↔ n ∉ free) ∧
      ∀ n ∈ elements, n ∈ selected ↔ ∃ alternative ∈ list.children, Reselects view n alternative) ∧
    ∀ others e, (byPart view (asking .is (list :: lists) more) others).result = .error e →
      e = .noRegular .is ∨ e = .notPossible .is := by
  constructor
  · rw [byPart_not] at is
    obtain ⟨passes, each, rfl⟩ := exists_passes_of_keep is
    have turned : ∀ n ∈ elements, (isAny view .is n list.children).result = .ok (!passes n) :=
      fun n member => isAny_of_isNone (each n member)
    refine ⟨elements.filter fun n => !passes n, ?_, ⟨fun n => !passes n, rfl, ?_⟩, ?_, ?_⟩
    · rw [byPart_is, keep_eq_filter turned]
    · simp only [Bool.not_not]
    · intro n member
      simp [List.mem_filter, member]
    · intro n member
      rw [List.mem_filter, and_iff_right member, isAny_iff (turned n member)]
  · intro others e failed
    rw [byPart_is] at failed
    obtain ⟨n, _, failed⟩ := exists_error_of_keep failed
    exact isAny_error failed

end parts

/-- A paragraph of a class, one without and a quotation. -/
def paragraphs : Page := .ofMarkup "<p class=a></p><p></p><q></q>"

/-- What is no element of the class and no quotation outside of links; the last of the alternatives is not native. -/
def mixed : SelectorTree :=
  .node .selectorList [.node .selector [.node (.regular ".a") []],
    .node .selector [.node (.regular "q") [], relativePart .not "a q"], .node .selector [.node (.regular "[") []]]

/-- Both decide about the elements that an alternative before the last selects, and only `:is()` about the other. -/
theorem byPart_is_complement_mixed :
    (byPart ⟨paragraphs, .visible⟩ (asking .not [mixed] []) [⟨1⟩, ⟨3⟩]).result = .ok [] ∧
      (∃ selected, (byPart ⟨paragraphs, .visible⟩ (asking .is [mixed] []) [⟨1⟩, ⟨3⟩]).result = .ok selected ∧
        ⟨1⟩ ∈ selected ∧ ⟨3⟩ ∈ selected) ∧
      (byPart ⟨paragraphs, .visible⟩ (asking .not [mixed] []) [⟨2⟩]).result = .error (.badSelector .not "[") ∧
      (byPart ⟨paragraphs, .visible⟩ (asking .is [mixed] []) [⟨2⟩]).result = .ok [] := by
  have free : (byPart ⟨paragraphs, .visible⟩ (asking .not [mixed] []) [⟨1⟩, ⟨3⟩]).result = .ok [] := by decide +kernel
  obtain ⟨⟨selected, is, _, member, _⟩, _⟩ := byPart_is_complement free
  refine ⟨free, ⟨selected, is, ?_, ?_⟩, by decide +kernel, by decide +kernel⟩
  · exact (member ⟨1⟩ (by simp)).mpr (by simp)
  · exact (member ⟨3⟩ (by simp)).mpr (by simp)

/-! Alternatives that are compound selectors. -/

/-- A selector that is a single regular part with a compound selector in it, in which `:scope` does not stand. -/
def IsCompound (alternative : SelectorTree) (compound : List Simple) : Prop :=
  ∃ kind text children, alternative = .node kind [.node (.regular text) children] ∧
    Css.read text = .ok [.single compound] ∧ compoundUsesScope compound = false

section compounds

theorem read_child {text : String} {compound : List Simple} (read : Css.read text = .ok [.single compound]) :
    Css.read (":scope>" ++ text) = .ok [.link (.single [.structural .scope]) .child compound] := by
  have nested : Nested isChainChar ":scope".toList := .of_plain (by decide)
  have solid : Solid ":scope".toList := .of_dark (by decide) (by decide)
  have linked := read_link nested solid (by rfl) (c := '>') (by decide) read
  refine (congrArg Css.read ?_).trans linked
  rw [← String.toList_inj]
  simp

variable (wf : view.page.tree.WellFormed) (scope : Option NodeId)

include wf

/-- The children of the parent of an element that a compound selector holds of. -/
theorem nativeElements_child {parent : NodeId} (above : view.page.tree.parentElement? n = some parent)
    {text : String} {compound : List Simple}
    (read : Css.read text = .ok [.single compound]) (free : compoundUsesScope compound = false) : ∃ found,
    (nativeElements view.page parent (":scope>" ++ text)).result = .ok found ∧
      (n ∈ found ↔ (Chain.single compound).matches view.page.tree scope n = true) := by
  obtain ⟨child, holder⟩ := Option.filter_eq_some_iff.mp above
  obtain ⟨found, result, members⟩ := nativeElements_single wf holder (read_child read)
  refine ⟨found, result, ?_⟩
  rw [members, matches_child_of_scope holder, and_iff_right child,
    matches_of_free (some parent) scope (.single compound) free]
  exact and_iff_right (.single child)

/-- Asking compound selectors again is asking the native pseudo-classes. -/
theorem result_compounds (inside : (view.page.tree.parentElement? n).isSome) (pseudo : PseudoClass)
    {compounds : List (List Simple)} (are : List.Forall₂ IsCompound alternatives compounds) :
    (isAny view pseudo n alternatives).result =
        .ok ((Simple.isAny (compounds.map .single)).holds view.page.tree scope n) ∧
      (isNone view pseudo n alternatives).result =
        .ok ((Simple.notAny (compounds.map .single)).holds view.page.tree scope n) := by
  obtain ⟨parent, above⟩ := Option.isSome_iff_exists.mp inside
  induction are with
  | nil =>
    rw [isAny, isNone]
    exact ⟨rfl, rfl⟩
  | @cons alternative compound rest others is _ ih =>
    obtain ⟨kind, text, children, rfl, read, free⟩ := is
    obtain ⟨found, result, member⟩ := nativeElements_child wf scope above read free
    have asked : Asked view.page.tree n [.node (.regular text) children] parent text := ⟨above, fun _ => rfl⟩
    have single : (elementsOfParts view parent (some (":scope>" ++ text)) [.node (.regular text) children]).result =
        .ok found := by
      simp only [elementsOfParts, byParts, Logged.result_bind, Logged.result_pure]
      simp only [bind, Except.bind, result]
    have contains : found.contains n = (Chain.single compound).matches view.page.tree scope n := by
      rw [Bool.eq_iff_iff, List.contains_iff_mem, member]
    rw [result_isAny_cons asked, result_isNone_cons asked, single]
    simp only [ih, contains, Simple.holds, List.map_cons, anyMatches]
    cases (Chain.single compound).matches view.page.tree scope n <;> exact ⟨rfl, rfl⟩

end compounds

theorem anyMatches_single {t : PageTree} {scope : Option NodeId} {compounds : List (List Simple)} :
    anyMatches t scope (compounds.map .single) n = true ↔
      ∃ compound ∈ compounds, (Chain.single compound).matches t scope n = true := by
  induction compounds with
  | nil => simp [anyMatches]
  | cons compound rest ih =>
    rw [List.map_cons, anyMatches, Bool.or_eq_true, ih, List.exists_mem_cons_iff]

/-- Where every alternative is a compound selector without `:scope`, asking for an element again among the children of
its parent is matching it natively, and the pseudo-classes keep the elements that the native ones hold of. -/
theorem byPart_is_native (built : Page.Built view.page) {compounds : List (List Simple)}
    (are : List.Forall₂ IsCompound alternatives compounds) (scope : Option NodeId) :
    (∀ pseudo n, (view.page.tree.parentElement? n).isSome →
      ((isAny view pseudo n alternatives).result = .ok true ↔
        ∃ compound ∈ compounds, (Chain.single compound).matches view.page.tree scope n = true) ∧
      ((isNone view pseudo n alternatives).result = .ok true ↔
        ∀ compound ∈ compounds, (Chain.single compound).matches view.page.tree scope n = false)) ∧
    ∀ kind lists more elements, (∀ n ∈ elements, (view.page.tree.parentElement? n).isSome) →
      (byPart view (asking .is (.node kind alternatives :: lists) more) elements).result =
        .ok (elements.filter ((Simple.isAny (compounds.map .single)).holds view.page.tree scope)) ∧
      (byPart view (asking .not (.node kind alternatives :: lists) more) elements).result =
        .ok (elements.filter ((Simple.notAny (compounds.map .single)).holds view.page.tree scope)) := by
  constructor
  · intro pseudo n inside
    obtain ⟨any, none⟩ := result_compounds built.wellFormed scope inside pseudo are
    rw [any, none, Except.ok.injEq, Except.ok.injEq, Simple.holds, Simple.holds, Bool.not_eq_true']
    refine ⟨anyMatches_single, ?_⟩
    rw [← Bool.not_eq_true, anyMatches_single]
    simp only [not_exists, not_and, Bool.not_eq_true]
  · intro kind lists more elements inside
    have each (pseudo : PseudoClass) (n : NodeId) (member : n ∈ elements) :=
      result_compounds built.wellFormed scope (inside n member) pseudo are
    rw [byPart_is, byPart_not]
    exact ⟨keep_eq_filter fun n member => (each .is n member).1, keep_eq_filter fun n member => (each .not n member).2⟩

/-- Paragraphs without a class, and links and quotations at the end. -/
def unclassed : List SelectorTree :=
  [.node .selector [.node (.regular "p:not([class])") []], .node .selector [.node (.regular ":is(a, q):last-child") []]]

theorem byPart_is_native_unclassed :
    (isAny ⟨paragraphs, .visible⟩ .is ⟨2⟩ unclassed).result = .ok true ∧
      (isNone ⟨paragraphs, .visible⟩ .not ⟨1⟩ unclassed).result = .ok true ∧
      (byPart ⟨paragraphs, .visible⟩ (asking .is [.node .selectorList unclassed] []) [⟨1⟩, ⟨2⟩, ⟨3⟩]).result =
        .ok [⟨2⟩, ⟨3⟩] ∧
      (byPart ⟨paragraphs, .visible⟩ (asking .not [.node .selectorList unclassed] []) [⟨1⟩, ⟨2⟩, ⟨3⟩]).result =
        .ok [⟨1⟩] := by
  have right : (Page.ofHtml "<p class=a></p><p></p><q></q>").isOk = true := by decide +kernel
  have built : Page.Built (View.mk paragraphs .visible).page := .read (Page.ofHtml_ofMarkup right)
  have are : List.Forall₂ IsCompound unclassed
      [[.tag "p", .notAny [.single [.attribute (.has "class")]]],
        [.isAny [.single [.tag "a"], .single [.tag "q"]], .structural .lastChild]] :=
    .cons ⟨_, _, _, rfl, rfl, rfl⟩ (.cons ⟨_, _, _, rfl, rfl, rfl⟩ .nil)
  obtain ⟨tested, filtered⟩ := byPart_is_native built are none
  obtain ⟨is, not⟩ := filtered .selectorList [] [] [⟨1⟩, ⟨2⟩, ⟨3⟩] (by decide +kernel)
  refine ⟨(tested .is ⟨2⟩ (by decide +kernel)).1.mpr ?_, (tested .not ⟨1⟩ (by decide +kernel)).2.mpr ?_, is.trans ?_,
    not.trans ?_⟩ <;> decide +kernel

end CosmeticRules.Matching
