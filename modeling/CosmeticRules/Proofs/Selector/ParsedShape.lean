import CosmeticRules.Proofs.Selector.FoldedShape
import CosmeticRules.Proofs.Selector.SplitText
import CosmeticRules.Proofs.Selector.Steps

/-!
The trees that parsing gives have their shape, whatever the text of the selector is, and what is refused is
refused for a reason that lies in the text. A pseudo-class has a single argument, unless the reader goes back
behind one that has been closed within the argument of another.
-/

namespace CosmeticRules

open SelectorTree SelectorReader

namespace SelectorError

end SelectorError

/-- Whether the text is read without going back behind a pseudo-class that has been closed within the argument
of another. -/
def SelectorReader.keepsApart (selector : String) : Bool :=
  match tokens selector with
  | .ok tokens => staysApart selector none none tokens {}
  | .error _ => true

namespace SelectorTree

theorem normalize_yields (selector : String) : Yields (fun _ => True) (LegacyForm.normalize selector) := by
  simp only [LegacyForm.normalize]
  split
  · rfl
  · trivial

theorem draft_yields (single : Prop) (selector : String) (apart : single → keepsApart selector = true) :
    Yields (Between single none) (draft selector) := by
  rw [draft]
  rw [keepsApart] at apart
  have current := normalize_yields selector
  have spelled : SelectorReader.tokens selector =
    (LegacyForm.normalize selector).map (Token.split isSelectorMark) := rfl
  cases text : LegacyForm.normalize selector with
  | error e =>
    rw [text] at spelled current
    rw [spelled]
    exact current
  | ok text' =>
    rw [text] at spelled
    rw [spelled] at apart ⊢
    exact Between.readTokens (.empty rfl) (fun c member => Token.isMark_of_mark_mem_split member) apart

theorem readUnfolded_yields (single : Prop) (selector : String) (apart : single → keepsApart selector = true) :
    Yields (fun read => read.1.toClass = .selectorList ∧ read.1.Everywhere (Shape single)) (readUnfolded selector) :=
  (draft_yields single selector apart).bind fun _ between => between.finish.bind fun _ good => good

theorem parse_yields (single : Prop) (selector : String) (apart : single → keepsApart selector = true) :
    Yields (fun tree => tree.toClass = .selectorList ∧ tree.Everywhere (Shape single)) (parse selector) := by
  refine (readUnfolded_yields single selector apart).bind fun read good => ?_
  obtain ⟨tree, foldable⟩ := read
  simp only
  split
  · exact foldList_folds tree good.2 good.1
  · exact good

/-- No pseudo-class has a second argument, if the reader never goes back behind a pseudo-class that has been
closed within the argument of another. -/
theorem parsed_single_argument {selector : String} {tree : SelectorTree} (parsed : parse selector = .ok tree)
    (apart : keepsApart selector = true) : tree.Everywhere NodeKind.TakesOneList := by
  have yields := parse_yields True selector fun _ => apart
  rw [parsed] at yields
  exact yields.2.mono fun _ _ row => row.2 trivial

theorem parsed_single_argument_nested :
    ∃ tree, parse "div:has(a:has(b) > c)" = .ok tree ∧ keepsApart "div:has(a:has(b) > c)" = true ∧
      tree.Everywhere NodeKind.TakesOneList := by
  have apart : keepsApart "div:has(a:has(b) > c)" = true := by decide +kernel
  have accepted : (parse "div:has(a:has(b) > c)").isOk = true := by decide +kernel
  cases parsed : parse "div:has(a:has(b) > c)" with
  | ok tree => exact ⟨tree, rfl, apart, parsed_single_argument parsed apart⟩
  | error e =>
    rw [parsed] at accepted
    nomatch accepted

/-- Without the space, the combinator leads back to the pseudo-class that has been closed. -/
theorem parsed_second_argument :
    ∃ tree, parse "div:has(a:has(b)> c)" = .ok tree ∧ ¬ tree.Everywhere NodeKind.TakesOneList := by
  have found : (parse "div:has(a:has(b)> c)").toOption.bind (·.at? [0, 1, 0, 0, 0, 1, 0]) =
      some (.node (.relative .has) [firstList "b", firstList "> c"]) := by decide +kernel
  cases parsed : parse "div:has(a:has(b)> c)" with
  | ok tree =>
    rw [parsed] at found
    refine ⟨tree, rfl, fun single => ?_⟩
    exact absurd ((single.at? found).row rfl) (by decide)
  | error e =>
    rw [parsed] at found
    nomatch found

end SelectorTree

end CosmeticRules
