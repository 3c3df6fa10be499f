import CosmeticRules.Proofs.Css.Meaning
import CosmeticRules.Proofs.Page.SingleDocument

/-!
Native selection: the elements below a node to which one of the chains can be assigned, in document order.
-/

namespace CosmeticRules.Css

open PageTree

mutual

/-- The formulas for positions in a simple selector. -/
def Simple.formulas : Simple → List Nth
  | .nth _ formula => [formula]
  | .isAny alternatives => formulasOf alternatives
  | .whereAny alternatives => formulasOf alternatives
  | .notAny alternatives => formulasOf alternatives
  | _ => []

def compoundFormulas : List Simple → List Nth
  | [] => []
  | simple :: rest => simple.formulas ++ compoundFormulas rest

def Chain.formulas : Chain → List Nth
  | .single compound => compoundFormulas compound
  | .link before _ compound => before.formulas ++ compoundFormulas compound

def formulasOf : List Chain → List Nth
  | [] => []
  | chain :: rest => chain.formulas ++ formulasOf rest

end

variable {t : PageTree} {bound : Option NodeId} {scope : NodeId → Prop}

theorem exists_element_iff {n : NodeId} {test : Element → Bool} {P : Element → Prop}
    (same : ∀ e, t.element? n = some e → (test e = true ↔ P e)) :
    (t.element? n).any test = true ↔ ∃ e, t.element? n = some e ∧ P e := by
  cases is : t.element? n with
  | none => simp
  | some e => simpa using same e is

theorem Chain.Assigned.isElement {chain : Chain} {m : NodeId} {above : List NodeId}
    (assigned : chain.Assigned t scope (m :: above)) : t.isElement m = true := by
  cases chain with
  | single compound =>
    cases above with
    | nil => exact assigned.1
    | cons _ _ => exact assigned.elim
  | link before combinator compound =>
    cases above with
    | nil => exact assigned.elim
    | cons _ _ => exact assigned.1

mutual

theorem simple_holds_iff (doc : t.IsDocument) (binds : ∀ n, bound = some n ↔ scope n) (simple : Simple)
    (fits : ∀ formula ∈ simple.formulas, formula.Fits t.size) (n : NodeId) :
    simple.holds t bound n = true ↔ simple.Describes t scope n := by
  have wf := doc.wellFormed
  match simple with
  | .universal => simp [Simple.holds, Simple.Describes]
  | .tag name => rw [Simple.holds, beq_iff_eq, Simple.Describes]
  | .id name =>
    rw [Simple.holds, beq_iff_eq, Simple.Describes, Option.bind_eq_some_iff]
    exact exists_congr fun e => and_congr_right fun is => attribute?_eq_some_iff (wf.wellNamed n e is)
  | .className name =>
    rw [Simple.holds, exists_element_iff fun e is => hasClass_iff (wf.wellNamed n e is), Simple.Describes]
    simp only [exists_and_left]
  | .attribute test =>
    rw [Simple.holds, exists_element_iff fun e is => AttributeTest.holds_iff (wf.wellNamed n e is), Simple.Describes]
  | .structural pseudo => exact Structural.holds_iff wf binds
  | .nth counting formula =>
    have fit : formula.Fits t.size := fits formula (by simp [Simple.formulas])
    rw [Simple.holds, Option.any_eq_true, Simple.Describes]
    simp only [position?_eq_some_iff wf]
    exact exists_congr fun position => and_congr_right fun has => Nth.selects_iff fit (has.le_size wf)
  | .isAny alternatives => exact anyMatches_iff doc binds alternatives fits n
  | .whereAny alternatives => exact anyMatches_iff doc binds alternatives fits n
  | .notAny alternatives =>
    rw [Simple.holds, Bool.not_eq_true', ← Bool.not_eq_true, anyMatches_iff doc binds alternatives fits n,
      Simple.Describes]

theorem allHold_iff (doc : t.IsDocument) (binds : ∀ n, bound = some n ↔ scope n) (compound : List Simple)
    (fits : ∀ formula ∈ compoundFormulas compound, formula.Fits t.size) (n : NodeId) :
    allHold t bound compound n = true ↔ CompoundDescribes t scope compound n := by
  match compound with
  | [] => simp [allHold, CompoundDescribes]
  | simple :: rest =>
    obtain ⟨first, later⟩ := List.forall_mem_append.mp fits
    rw [allHold, Bool.and_eq_true, simple_holds_iff doc binds simple first n, allHold_iff doc binds rest later n,
      CompoundDescribes]

theorem matches_iff (doc : t.IsDocument) (binds : ∀ n, bound = some n ↔ scope n) (chain : Chain)
    (fits : ∀ formula ∈ chain.formulas, formula.Fits t.size) (n : NodeId) :
    chain.matches t bound n = true ↔ ∃ above, chain.Assigned t scope (n :: above) := by
  match chain with
  | .single compound =>
    rw [Chain.matches, Bool.and_eq_true, allHold_iff doc binds compound fits n]
    constructor
    · exact fun holds => ⟨[], holds⟩
    · rintro ⟨above, assigned⟩
      cases above with
      | nil => exact assigned
      | cons m rest => exact absurd assigned (by simp [Chain.Assigned])
  | .link before combinator compound =>
    -- The element related to this one ends an assignment to the part of the chain before the combinator.
    obtain ⟨first, later⟩ := List.forall_mem_append.mp fits
    rw [Chain.matches, Bool.and_eq_true, Bool.and_eq_true, allHold_iff doc binds compound later n, List.any_eq_true]
    constructor
    · rintro ⟨⟨element, describes⟩, m, member, selected⟩
      obtain ⟨above, assigned⟩ := (matches_iff doc binds before first m).mp selected
      exact ⟨m :: above, element, describes, (mem_related doc).mp member |>.2, assigned⟩
    · rintro ⟨above, assigned⟩
      cases above with
      | nil => exact absurd assigned (by simp [Chain.Assigned])
      | cons m rest =>
        obtain ⟨element, describes, relates, assigned⟩ := assigned
        exact ⟨⟨element, describes⟩, m, (mem_related doc).mpr ⟨assigned.isElement, relates⟩,
          (matches_iff doc binds before first m).mpr ⟨rest, assigned⟩⟩

theorem anyMatches_iff (doc : t.IsDocument) (binds : ∀ n, bound = some n ↔ scope n) (chains : List Chain)
    (fits : ∀ formula ∈ formulasOf chains, formula.Fits t.size) (n : NodeId) :
    anyMatches t bound chains n = true ↔ AnyAssigned t scope chains n := by
  match chains with
  | [] => simp [anyMatches, AnyAssigned]
  | chain :: rest =>
    obtain ⟨first, later⟩ := List.forall_mem_append.mp fits
    rw [anyMatches, Bool.or_eq_true, matches_iff doc binds chain first n, anyMatches_iff doc binds rest later n,
      AnyAssigned]

end

/-- What `:scope` stands for when elements below a node are selected. -/
def IsScope (t : PageTree) (base n : NodeId) : Prop := if base = root then IsDocumentElement t n else n = base

theorem scopeOf_eq_some_iff (wf : t.WellFormed) {base n : NodeId} :
    scopeOf t base = some n ↔ IsScope t base n := by
  unfold scopeOf IsScope
  split
  · exact documentElement?_eq_some_iff wf
  · rw [Option.some.injEq, eq_comm]

/-- Selecting below a node gives, in document order and each once, the elements below it that end an
assignment of elements to the compound selectors of one of the chains. -/
theorem select_assigned (doc : t.IsDocument) {base : NodeId} {selector : String} {chains : List Chain}
    (accepted : read selector = .ok chains) (fits : ∀ formula ∈ formulasOf chains, formula.Fits t.size) :
    ∃ found, select t base selector = .ok found ∧ found.Pairwise t.Precedes ∧ found.Nodup ∧
      ∀ n, n ∈ found ↔ t.isElement n = true ∧ t.IsBelow n base ∧
        ∃ chain ∈ chains, ∃ above, chain.Assigned t (IsScope t base) (n :: above) := by
  have wf := doc.wellFormed
  have ordered : ((t.descendantElements base).filter (anyMatches t (scopeOf t base) chains)).Pairwise t.Precedes :=
    (wf.pairwise_descendants.filter _).filter _
  refine ⟨_, ?_, ordered, wf.nodup_of_pairwise ordered, fun n => ?_⟩
  · rw [select, accepted]
    rfl
  · rw [List.mem_filter, descendantElements, List.mem_filter, wf.mem_descendants, and_comm (a := t.IsBelow n base),
      and_assoc, anyMatches_iff doc (fun n => scopeOf_eq_some_iff wf) chains fits n, anyAssigned_iff]

/-- A list in which the second item holds a link. -/
def linkedList : Page := .ofMarkup "<ul><li></li><li><a></a></li></ul>"

/-- A link somewhere in an item at an even place of a list, and everything but items and lists. -/
def linkInItem : List Chain :=
  [.link (.link (.single [.tag "ul"]) .child [.tag "li", .nth .fromFirst (.linear 2 0)]) .descendant [.tag "a"],
    .single [.notAny [.single [.isAny [.single [.tag "li"], .single [.tag "ul"]]]]]]

/-- The root element and the body are made after the link, but come before it in the document. -/
theorem select_assigned_linkInItem :
    linkedList.tree.IsDocument ∧ read "ul > li:nth-child(2n) a, :not(:is(li, ul))" = .ok linkInItem ∧
      (∀ formula ∈ formulasOf linkInItem, formula.Fits linkedList.tree.size) ∧
      select linkedList.tree root "ul > li:nth-child(2n) a, :not(:is(li, ul))" = .ok [⟨5⟩, ⟨6⟩, ⟨4⟩] ∧
      linkedList.tree.Precedes ⟨6⟩ ⟨4⟩ ∧
      ∃ chain ∈ linkInItem, ∃ above, chain.Assigned linkedList.tree (IsScope linkedList.tree root) (⟨4⟩ :: above) := by
  have right : (Page.ofHtml "<ul><li></li><li><a></a></li></ul>").isOk = true := by decide +kernel
  have doc := (Page.Built.read (Page.ofHtml_ofMarkup right)).isDocument
  have accepted : read "ul > li:nth-child(2n) a, :not(:is(li, ul))" = .ok linkInItem := rfl
  have formulas : formulasOf linkInItem = [.linear 2 0] := rfl
  have fits : ∀ formula ∈ formulasOf linkInItem, formula.Fits linkedList.tree.size := by
    rw [formulas, List.forall_mem_singleton]
    exact ⟨by decide +kernel, .inr (by decide +kernel)⟩
  have result : select linkedList.tree root "ul > li:nth-child(2n) a, :not(:is(li, ul))" =
      .ok [⟨5⟩, ⟨6⟩, ⟨4⟩] := by decide +kernel
  obtain ⟨found, is, ordered, _, assigned⟩ := select_assigned doc accepted fits
  obtain rfl := Except.ok.inj (is.symm.trans result)
  refine ⟨doc, accepted, fits, result, ?_, ((assigned ⟨4⟩).mp (by simp)).2.2⟩
  exact List.rel_of_pairwise_cons (List.pairwise_cons.mp ordered).2 List.mem_cons_self

/-- A class that holds no ASCII blank counts as two if there is a no-break space in it. -/
theorem select_part_of_class :
    (Page.ofMarkup "<p class=\"a\u00A0b\"></p>").tree.element? ⟨1⟩ = some ⟨"p", [⟨"class", "a\u00A0b"⟩]⟩ ∧
      ("a\u00A0b".toList.any Text.isAsciiBlank) = false ∧
      select (Page.ofMarkup "<p class=\"a\u00A0b\"></p>").tree root ".a" = .ok [⟨1⟩] := by
  decide +kernel

end CosmeticRules.Css
