import CosmeticRules.Proofs.Css.ReadJoined
import CosmeticRules.Proofs.Matching.Siblings
import CosmeticRules.Proofs.Page.SingleDocument

/-!
A native selector that is cut in two at a blank. To lead on by its second part from every element that its first part
selects gives what the whole selector selects.
-/

namespace CosmeticRules

namespace Css

open PageTree

variable {t : PageTree} {scope : Option NodeId} {chain : Chain} {links : List (Combinator × List Simple)} {n m : NodeId}

/-! Chains that are cut. -/

theorem matches_link (doc : t.IsDocument) {combinator : Combinator} {compound : List Simple} :
    (Chain.link chain combinator compound).matches t scope m = true ↔
      ∃ n, chain.matches t scope n = true ∧ combinator.Relates t n m ∧
        (Chain.single compound).matches t scope m = true := by
  rw [Chain.matches, Chain.matches, Bool.and_eq_true, List.any_eq_true]
  constructor
  · rintro ⟨here, n, member, selected⟩
    exact ⟨n, selected, ((mem_related doc).mp member).2, here⟩
  · rintro ⟨n, selected, relates, here⟩
    exact ⟨here, n, (mem_related doc).mpr ⟨isElement_of_matches selected, relates⟩, selected⟩

/-- Links lead from an element to another, over elements that their compound selectors select. -/
def LeadsBy (t : PageTree) (scope : Option NodeId) : List (Combinator × List Simple) → NodeId → NodeId → Prop
  | [], n, m => n = m
  | (combinator, compound) :: rest, n, m =>
    ∃ k, combinator.Relates t n k ∧ (Chain.single compound).matches t scope k = true ∧ LeadsBy t scope rest k m

/-- A longer chain selects what its links lead to from what the chain selects. -/
theorem matches_extend (doc : t.IsDocument) :
    (chain.extend links).matches t scope m = true ↔
      ∃ n, chain.matches t scope n = true ∧ LeadsBy t scope links n m := by
  induction links generalizing chain with
  | nil => simp [Chain.extend, LeadsBy]
  | cons link rest ih =>
    obtain ⟨combinator, compound⟩ := link
    change ((Chain.link chain combinator compound).extend rest).matches t scope m = true ↔ _
    simp only [ih, matches_link doc, LeadsBy]
    constructor
    · rintro ⟨k, ⟨n, selected, relates, here⟩, leads⟩
      exact ⟨n, selected, k, relates, here, leads⟩
    · rintro ⟨n, selected, k, relates, here, leads⟩
      exact ⟨k, ⟨n, selected, relates, here⟩, leads⟩

/-- What comes before a cut and the links after it are without `:scope` if the whole is. -/
theorem usesScope_extend (free : (chain.extend links).usesScope = false) :
    chain.usesScope = false ∧ ∀ link ∈ links, compoundUsesScope link.2 = false := by
  induction links generalizing chain with
  | nil => exact ⟨free, by simp⟩
  | cons link rest ih =>
    have free : ((Chain.link chain link.1 link.2).extend rest).usesScope = false := free
    obtain ⟨longer, others⟩ := ih free
    obtain ⟨before, here⟩ := Bool.or_eq_false_iff.mp longer
    exact ⟨before, List.forall_mem_cons.mpr ⟨here, others⟩⟩

theorem leadsBy_of_free (free : ∀ link ∈ links, compoundUsesScope link.2 = false) (other : Option NodeId) :
    LeadsBy t scope links n m ↔ LeadsBy t other links n m := by
  induction links generalizing n with
  | nil => exact Iff.rfl
  | cons link rest ih =>
    obtain ⟨here, others⟩ := List.forall_mem_cons.mp free
    simp only [LeadsBy, ih others, matches_of_free scope other (.single link.2) here]

/-- From what is below an element every combinator leads to what is below it too. -/
theorem isBelow_of_relates (wf : t.WellFormed) {combinator : Combinator} {k : NodeId} (below : t.IsBelow k n)
    (relates : combinator.Relates t k m) : t.IsBelow m n := by
  have beside (before : t.Before k m) : t.IsBelow m n := by
    obtain ⟨parent, isK, isM⟩ := wf.parent?_of_before before
    obtain ⟨above, up, within⟩ := Relation.TransGen.head'_iff.mp below
    obtain rfl : parent = above := Option.some.inj (isK.symm.trans up)
    exact Relation.TransGen.head'_iff.mpr ⟨parent, isM, within⟩
  cases combinator with
  | child => exact below.head relates
  | descendant => exact Relation.TransGen.trans relates below
  | nextSibling => exact beside relates.1
  | laterSibling => exact beside relates

theorem isBelow_of_leadsBy (wf : t.WellFormed) {k : NodeId} (below : t.IsBelow k n)
    (leads : LeadsBy t scope links k m) : t.IsBelow m n := by
  induction links generalizing k with
  | nil => exact leads ▸ below
  | cons link rest ih =>
    obtain ⟨next, relates, _, leads⟩ := leads
    exact ih (isBelow_of_relates wf below relates) leads

/-- Links that begin downward lead below the element they start from. -/
theorem IsDownward.isBelow (downward : IsDownward links) (wf : t.WellFormed) (leads : LeadsBy t scope links n m) :
    t.IsBelow m n := by
  obtain ⟨combinator, compound, rest, rfl, down⟩ := downward
  obtain ⟨k, relates, _, leads⟩ := leads
  refine isBelow_of_leadsBy wf ?_ leads
  rcases down with rfl | rfl
  · exact .single relates
  · exact relates

end Css

namespace Matching

open Css PageTree

variable {page : Page} {first rest : String}

theorem startsWithSibling_of_leadsDown (leads : LeadsDown rest) : startsWithSibling rest = false := by
  obtain ⟨c, tail, begins, _, noPlus, noTilde⟩ := leads
  unfold startsWithSibling
  split
  · rename_i text
    rw [text] at begins
    exact absurd (List.cons.inj begins).1.symm noPlus
  · rename_i text
    rw [text] at begins
    exact absurd (List.cons.inj begins).1.symm noTilde
  · rfl

theorem isEmpty_of_leadsDown (leads : LeadsDown rest) : rest.isEmpty = false := by
  rw [← Bool.not_eq_true, String.isEmpty_iff]
  rintro rfl
  obtain ⟨c, tail, begins, _⟩ := leads
  exact absurd begins.symm (List.cons_ne_nil c tail)

theorem elementsFrom_anchored (leads : LeadsDown rest) (n : NodeId) :
    elementsFrom page rest n = nativeElements page n (anchored rest) := by
  unfold elementsFrom anchored
  rw [startsWithSibling_of_leadsDown leads]
  split <;> rfl

/-- To lead on by the second part of a selector from what its first part selects gives what the whole selects. -/
theorem following_eq_select (built : Page.Built page) {before whole : Chain} (leads : LeadsDown rest)
    (readFirst : Css.read first = .ok [before]) (readWhole : Css.read (first ++ " " ++ rest) = .ok [whole])
    (free : whole.usesScope = false) (children : List SelectorTree) :
    ∃ elements found all, Css.select page.tree root first = .ok elements ∧
      (following page (.node (.regular rest) children) elements).result = .ok found ∧
      Css.select page.tree root (first ++ " " ++ rest) = .ok all ∧ ∀ m, m ∈ found ↔ m ∈ all := by
  have doc := built.isDocument
  have wf := doc.wellFormed
  obtain ⟨links, downward, rfl, anchor⟩ := read_anchored_links leads readFirst readWhole
  obtain ⟨_, freeLinks⟩ := usesScope_extend free
  obtain ⟨elements, selected, inElements⟩ := select_single wf root readFirst
  obtain ⟨all, selectedAll, inAll⟩ := select_single wf root readWhole
  have step : ∀ n ∈ elements, ∃ found, (elementsFrom page rest n).result = .ok found ∧
      ∀ m, m ∈ found ↔ LeadsBy page.tree (scopeOf page.tree root) links n m := by
    intro n member
    have element := isElement_of_matches ((inElements n).mp member).2
    obtain ⟨found, result, inFound⟩ := nativeElements_single wf element anchor
    refine ⟨found, (elementsFrom_anchored leads n).symm ▸ result, fun m => ?_⟩
    rw [inFound, matches_extend doc]
    simp only [matches_scope]
    constructor
    · rintro ⟨_, _, ⟨_, rfl⟩, leads⟩
      exact (leadsBy_of_free freeLinks _).mp leads
    · intro leads
      exact ⟨downward.isBelow wf leads, n, ⟨element, rfl⟩, (leadsBy_of_free freeLinks _).mp leads⟩
  obtain ⟨lists, result, inLists⟩ := result_flatten step
  have finds := result_following (isEmpty_of_leadsDown leads) children result
  refine ⟨elements, lists.flatten, all, selected, finds, selectedAll, fun m => ?_⟩
  rw [inLists, inAll, matches_extend doc]
  constructor
  · rintro ⟨n, member, leads⟩
    obtain ⟨below, here⟩ := (inElements n).mp member
    exact ⟨(downward.isBelow wf leads).trans below, n, here, leads⟩
  · rintro ⟨below, n, here, leads⟩
    have within := (downward.isBelow wf leads).to_reflTransGen
    have above := wf.isBelow_root_of_isElement below within (isElement_of_matches here)
    exact ⟨n, (inElements n).mpr ⟨above, here⟩, leads⟩

/-- Two paragraphs in a division within a division. -/
def nestedDivisions : Page := .ofMarkup "<div><div><p></p><p></p></div></div>"

/-- The second paragraph is found from both divisions, and selected once. -/
theorem following_eq_select_nestedDivisions :
    Page.Built nestedDivisions ∧ LeadsDown "p + p" ∧ Css.read "div" = .ok [.single [.tag "div"]] ∧
      Css.read ("div" ++ " " ++ "p + p") =
        .ok [.link (.link (.single [.tag "div"]) .descendant [.tag "p"]) .nextSibling [.tag "p"]] ∧
      Css.select nestedDivisions.tree root "div" = .ok [⟨1⟩, ⟨2⟩] ∧
      (following nestedDivisions (.node (.regular "p + p") []) [⟨1⟩, ⟨2⟩]).result = .ok [⟨4⟩, ⟨4⟩] ∧
      ∃ all, Css.select nestedDivisions.tree root ("div" ++ " " ++ "p + p") = .ok all ∧ all = [⟨4⟩] ∧
        ∀ m, m ∈ [⟨4⟩, ⟨4⟩] ↔ m ∈ all := by
  have right : (Page.ofHtml "<div><div><p></p><p></p></div></div>").isOk = true := by decide +kernel
  have built : Page.Built nestedDivisions := .read (Page.ofHtml_ofMarkup right)
  have leads : LeadsDown "p + p" := ⟨'p', " + p".toList, by decide, by decide, by decide, by decide⟩
  have readFirst : Css.read "div" = .ok [.single [.tag "div"]] := rfl
  have readWhole : Css.read ("div" ++ " " ++ "p + p") =
      .ok [.link (.link (.single [.tag "div"]) .descendant [.tag "p"]) .nextSibling [.tag "p"]] := rfl
  have selected : Css.select nestedDivisions.tree root "div" = .ok [⟨1⟩, ⟨2⟩] := by decide +kernel
  have result : (following nestedDivisions (.node (.regular "p + p") []) [⟨1⟩, ⟨2⟩]).result = .ok [⟨4⟩, ⟨4⟩] := by
    decide +kernel
  have whole : Css.select nestedDivisions.tree root ("div" ++ " " ++ "p + p") = .ok [⟨4⟩] := by decide +kernel
  obtain ⟨elements, found, all, is, finds, isAll, same⟩ := following_eq_select built leads readFirst readWhole rfl []
  obtain rfl := Except.ok.inj (selected.symm.trans is)
  obtain rfl := Except.ok.inj (result.symm.trans finds)
  exact ⟨built, leads, readFirst, readWhole, selected, result, all, isAll,
    Except.ok.inj (isAll.symm.trans whole), same⟩

end Matching

end CosmeticRules
