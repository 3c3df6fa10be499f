import CosmeticRules.Proofs.Css.Selection

/-!
Positions among siblings, counted from either end, and the pseudo-classes that ask for the ends: looking for
a sibling before or after an element agrees with counting.
-/

namespace CosmeticRules.Css

open PageTree

/-- Counting the same siblings from the other end. -/
def Counting.reversed : Counting → Counting
  | fromFirst => fromLast
  | fromLast => fromFirst
  | ofTypeFromFirst => ofTypeFromLast
  | ofTypeFromLast => ofTypeFromFirst

/-- What a native selector says about an element, if the selector can be read. -/
def answer (t : PageTree) (scope : Option NodeId) (selector : String) (n : NodeId) : Except Unsupported Bool :=
  (read selector).map fun chains => anyMatches t scope chains n

variable {t : PageTree} {n m parent : NodeId} {counting : Counting}

theorem counts_reversed (t : PageTree) (n : NodeId) (counting : Counting) :
    Counts t n counting.reversed = Counts t n counting := by
  cases counting <;> rfl

theorem fromEnd_reversed (counting : Counting) : counting.reversed.fromEnd = !counting.fromEnd := by
  cases counting <;> rfl

/-- Siblings of one tag, or any where the tag does not count, count the same siblings. -/
theorem counts_congr (alike : counting.sameType = true → t.tag? m = t.tag? n) :
    Counts t m counting = Counts t n counting := by
  funext k
  unfold Counts
  cases typed : counting.sameType with
  | false => rfl
  | true => rw [alike typed]

theorem filter_counts_all : (t.children parent).filter (Counts t n .fromFirst) = t.childElements parent :=
  List.filter_congr fun m _ => by simp [Counts, Counting.sameType]

theorem filter_counts_typed : (t.children parent).filter (Counts t n .ofTypeFromFirst) =
    (t.childElements parent).filter fun m => t.tag? m == t.tag? n := by
  rw [childElements, List.filter_filter]
  exact List.filter_congr fun m _ => by simp [Counts, Counting.sameType, Bool.and_comm]

/-! Two positions. -/

section positions

variable (wf : t.WellFormed) (is : t.parent? n = some parent)

include wf is

/-- An element stands among the siblings that count, and its positions from both ends add up. -/
theorem exists_positions (element : t.isElement n = true) (counting : Counting) : ∃ first last,
    position? t counting n = some first ∧ position? t counting.reversed n = some last ∧
      first + last = ((t.children parent).filter (Counts t n counting)).length + 1 := by
  have counted : n ∈ (t.children parent).filter (Counts t n counting) :=
    List.mem_filter.mpr ⟨(wf.mem_children parent n).mpr is, by simp [Counts, element]⟩
  obtain ⟨before, after, split⟩ := List.append_of_mem counted
  have reversed : (t.children parent).filter (Counts t n counting.reversed) = before ++ n :: after :=
    counts_reversed t n counting ▸ split
  refine ⟨_, _, (position?_eq_some_iff wf).mpr ⟨parent, before, after, is, split, rfl⟩,
    (position?_eq_some_iff wf).mpr ⟨parent, before, after, is, reversed, rfl⟩, ?_⟩
  rw [split, List.length_append, List.length_cons, fromEnd_reversed]
  cases counting.fromEnd with
  | false => simp only [Bool.false_eq_true, Bool.not_false, if_true, if_false]; omega
  | true => simp only [Bool.not_true, Bool.false_eq_true, if_true, if_false]; omega

/-- A position belongs to one of the siblings that are counted together. -/
theorem eq_of_position? (sibling : t.parent? m = some parent)
    (alike : counting.sameType = true → t.tag? m = t.tag? n) {position : Nat}
    (first : position? t counting m = some position) (second : position? t counting n = some position) : m = n := by
  obtain ⟨parent', before, after, is', split, first⟩ := (position?_eq_some_iff wf).mp first
  obtain ⟨parent'', before', after', is'', split', second⟩ := (position?_eq_some_iff wf).mp second
  obtain rfl : parent' = parent := Option.some.inj (is'.symm.trans sibling)
  obtain rfl : parent'' = parent' := Option.some.inj (is''.symm.trans is)
  have same : before ++ m :: after = before' ++ n :: after' := by
    rw [← split, ← split', counts_congr alike]
  have total := congrArg List.length same
  simp only [List.length_append, List.length_cons] at total
  have length : before.length = before'.length := by
    rw [first] at second
    split at second <;> omega
  exact (List.cons.inj (List.append_inj_right same length)).1

/-! The siblings before and after an element. -/

theorem isNone_previousElement?_eq (element : t.isElement n = true) :
    (t.previousElement? n).isNone = (position? t .fromFirst n == some 1) := by
  obtain ⟨before, after, split, fresh⟩ := wf.exists_siblings is
  have place : HasPosition t n .fromFirst ((before.filter t.isElement).length + 1) := by
    refine ⟨parent, before.filter t.isElement, after.filter t.isElement, is, ?_, rfl⟩
    rw [filter_counts_all, childElements, split, List.filter_append, List.filter_cons_of_pos element]
  rw [previousElement?, previousElements_eq is split fresh.1, (position?_eq_some_iff wf).mpr place]
  cases before.filter t.isElement <;> simp

theorem isNone_nextElement?_eq (element : t.isElement n = true) :
    (t.nextElement? n).isNone = (position? t .fromLast n == some 1) := by
  obtain ⟨before, after, split, fresh⟩ := wf.exists_siblings is
  have place : HasPosition t n .fromLast ((after.filter t.isElement).length + 1) := by
    refine ⟨parent, before.filter t.isElement, after.filter t.isElement, is, ?_, rfl⟩
    rw [← Counting.reversed, counts_reversed, filter_counts_all, childElements, split, List.filter_append,
      List.filter_cons_of_pos element]
  rw [nextElement?, nextElements_eq is split fresh.1, (position?_eq_some_iff wf).mpr place]
  cases after.filter t.isElement <;> simp

end positions

/-! Answers of single pseudo-classes. -/

theorem answer_simple {scope : Option NodeId} {selector : String} {simple : Simple}
    (accepted : read selector = .ok [.single [simple]]) (element : t.isElement n = true) :
    answer t scope selector n = .ok (simple.holds t scope n) := by
  simp [answer, accepted, Except.map, anyMatches, Chain.matches, allHold, element]

theorem answer_structural {scope : Option NodeId} {selector : String} (pseudo : Structural)
    (accepted : read selector = .ok [.single [.structural pseudo]]) (element : t.isElement n = true) {holds : Bool}
    (same : pseudo.holds t scope n = holds) : answer t scope selector n = .ok holds := by
  rw [answer_simple accepted element, Simple.holds, same]

theorem answer_first {scope : Option NodeId} {selector : String} (counting : Counting)
    (accepted : read selector = .ok [.single [.nth counting (.exact 1)]]) (element : t.isElement n = true) :
    answer t scope selector n = .ok (position? t counting n == some 1) := by
  rw [answer_simple accepted element, Simple.holds]
  cases position? t counting n <;> rfl

/-- Of an element with a parent: its positions from the first and from the last sibling add up to one more than
the number of siblings, also among those of its tag; no sibling of those has the same position; and the
pseudo-classes for the first, the last and the only sibling answer as counting does. -/
theorem positions_consistent (wf : t.WellFormed) (is : t.parent? n = some parent) (element : t.isElement n = true) :
    (∃ first last, position? t .fromFirst n = some first ∧ position? t .fromLast n = some last ∧
      first + last = (t.childElements parent).length + 1) ∧
    (∃ first last, position? t .ofTypeFromFirst n = some first ∧ position? t .ofTypeFromLast n = some last ∧
      first + last = ((t.childElements parent).filter fun m => t.tag? m == t.tag? n).length + 1) ∧
    (∀ m counting, t.parent? m = some parent → t.isElement m = true → m ≠ n →
      (counting.sameType = true → t.tag? m = t.tag? n) → position? t counting m ≠ position? t counting n) ∧
    ∀ scope,
      (∃ first last, answer t scope ":nth-child(1)" n = .ok first ∧ answer t scope ":nth-last-child(1)" n = .ok last ∧
        (first = true ↔ position? t .fromFirst n = some 1) ∧ (last = true ↔ position? t .fromLast n = some 1) ∧
        answer t scope ":first-child" n = .ok first ∧ answer t scope ":last-child" n = .ok last ∧
        answer t scope ":only-child" n = .ok (first && last)) ∧
      ∃ first last, answer t scope ":nth-of-type(1)" n = .ok first ∧
        answer t scope ":nth-last-of-type(1)" n = .ok last ∧
        (first = true ↔ position? t .ofTypeFromFirst n = some 1) ∧
        (last = true ↔ position? t .ofTypeFromLast n = some 1) ∧
        answer t scope ":first-of-type" n = .ok first ∧ answer t scope ":last-of-type" n = .ok last ∧
        answer t scope ":only-of-type" n = .ok (first && last) := by
  refine ⟨?_, ?_, ?_, fun scope => ⟨?_, ?_⟩⟩
  · have both := exists_positions wf is element .fromFirst
    rwa [filter_counts_all] at both
  · have both := exists_positions wf is element .ofTypeFromFirst
    rwa [filter_counts_typed] at both
  · intro m counting sibling _ other alike same
    obtain ⟨position, _, has, _⟩ := exists_positions wf is element counting
    exact other (eq_of_position? wf is sibling alike (same.trans has) has)
  · have first := isNone_previousElement?_eq wf is element
    have last := isNone_nextElement?_eq wf is element
    exact ⟨_, _, answer_first .fromFirst rfl element, answer_first .fromLast rfl element, beq_iff_eq, beq_iff_eq,
      answer_structural .firstChild rfl element first, answer_structural .lastChild rfl element last,
      answer_structural .onlyChild rfl element (congrArg₂ (· && ·) first last)⟩
  · exact ⟨_, _, answer_first .ofTypeFromFirst rfl element, answer_first .ofTypeFromLast rfl element, beq_iff_eq,
      beq_iff_eq, answer_structural .firstOfType rfl element rfl, answer_structural .lastOfType rfl element rfl,
      answer_structural .onlyOfType rfl element rfl⟩

/-- A paragraph with a text, a comment and three elements, two of them of one tag. -/
def mixedParagraph : Page := .ofMarkup "<p>one<i></i><!--two--><b></b>three<i></i></p>"

/-- The last of the elements is the second of its tag. -/
theorem positions_consistent_mixedParagraph :
    mixedParagraph.tree.WellFormed ∧ mixedParagraph.tree.parent? ⟨7⟩ = some ⟨1⟩ ∧
      mixedParagraph.tree.isElement ⟨7⟩ = true ∧ mixedParagraph.tree.childElements ⟨1⟩ = [⟨3⟩, ⟨5⟩, ⟨7⟩] ∧
      (∃ first last, position? mixedParagraph.tree .fromFirst ⟨7⟩ = some first ∧
        position? mixedParagraph.tree .fromLast ⟨7⟩ = some last ∧ first + last = 3 + 1) ∧
      position? mixedParagraph.tree .ofTypeFromFirst ⟨7⟩ = some 2 ∧
      position? mixedParagraph.tree .ofTypeFromFirst ⟨3⟩ ≠ position? mixedParagraph.tree .ofTypeFromFirst ⟨7⟩ ∧
      ∃ last, answer mixedParagraph.tree none ":last-of-type" ⟨7⟩ = .ok last ∧
        answer mixedParagraph.tree none ":nth-last-of-type(1)" ⟨7⟩ = .ok last := by
  have right : (Page.ofHtml "<p>one<i></i><!--two--><b></b>three<i></i></p>").isOk = true := by decide +kernel
  have wf : mixedParagraph.tree.WellFormed := (Page.Built.read (Page.ofHtml_ofMarkup right)).wellFormed
  have is : mixedParagraph.tree.parent? ⟨7⟩ = some ⟨1⟩ := by decide +kernel
  have element : mixedParagraph.tree.isElement ⟨7⟩ = true := by decide +kernel
  have children : mixedParagraph.tree.childElements ⟨1⟩ = [⟨3⟩, ⟨5⟩, ⟨7⟩] := by decide +kernel
  obtain ⟨sum, _, distinct, answers⟩ := positions_consistent wf is element
  rw [children] at sum
  obtain ⟨_, last, _, counted, _, _, _, asked, _⟩ := (answers none).2
  exact ⟨wf, is, element, children, sum, by decide +kernel,
    distinct ⟨3⟩ .ofTypeFromFirst (by decide +kernel) (by decide +kernel) (by decide) fun _ => by decide +kernel,
    last, asked, counted⟩

end CosmeticRules.Css
