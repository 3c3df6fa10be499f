import CosmeticRules.Proofs.Distinct
import CosmeticRules.Rule.Basic
import Mathlib.Data.List.Induction

/-!
Gathering rules into one for each selector, as it looks from one selector: what is gathered is joined in the order
in which it comes, and every selector has its place from its first rule on.
-/

namespace CosmeticRules

namespace RawRule

/-- The rule for a selector. -/
def find? (selector : String) (rules : List RawRule) : Option RawRule := rules.find? (·.selector == selector)

/-- Two rules for one selector: the first with the declarations of the second after its own. -/
def followedBy (first second : RawRule) : RawRule :=
  { first with declarations := first.declarations ++ second.declarations }

/-- What two sheets hold for one selector, joined. -/
def join : Option RawRule → Option RawRule → Option RawRule
  | some first, some second => some (first.followedBy second)
  | some first, none => some first
  | none, second => second

theorem join_assoc (first second third : Option RawRule) :
    join (join first second) third = join first (join second third) := by
  cases first <;> cases second <;> cases third <;> simp [join, followedBy]

theorem find?_cons (selector : String) (first : RawRule) (rest : List RawRule) :
    find? selector (first :: rest) = if first.selector = selector then some first else find? selector rest := by
  by_cases same : first.selector = selector <;> simp [find?, same]

theorem find?_gather (selector : String) (rules : List RawRule) (raw : RawRule) :
    find? selector (gather rules raw) = join (find? selector rules) (find? selector [raw]) := by
  induction rules with
  | nil => rfl
  | cons first rest ih =>
    rw [gather]
    split
    · rename_i same
      rw [find?_cons, find?_cons selector first, find?_cons selector raw, ← same]
      split
      · rfl
      · show find? selector rest = join (find? selector rest) none
        cases find? selector rest <;> rfl
    · rename_i other
      rw [find?_cons, find?_cons selector first, ih]
      split
      · rename_i here
        have elsewhere : raw.selector ≠ selector := fun there => other (here.trans there.symm)
        rw [find?_cons, if_neg elsewhere]
        rfl
      · rfl

/-- Gathering rules on top of others joins them with what they are when they are gathered alone. -/
theorem find?_foldl_gather (selector : String) (rules raws : List RawRule) :
    find? selector (raws.foldl gather rules) =
      join (find? selector rules) (find? selector (raws.foldl gather [])) := by
  induction raws using List.reverseRecOn with
  | nil =>
    show find? selector rules = join (find? selector rules) none
    cases find? selector rules <;> rfl
  | append_singleton raws raw ih =>
    rw [List.foldl_append, List.foldl_append, List.foldl_cons, List.foldl_cons, List.foldl_nil, List.foldl_nil,
      find?_gather, find?_gather, ih, join_assoc]

def selectors (rules : List RawRule) : List String := rules.map (·.selector)

theorem selectors_gather (rules : List RawRule) (raw : RawRule) :
    selectors (gather rules raw) =
      if raw.selector ∈ selectors rules then selectors rules else selectors rules ++ [raw.selector] := by
  induction rules with
  | nil => simp [gather, selectors]
  | cons first rest ih =>
    rw [gather]
    by_cases same : first.selector = raw.selector
    · simp [selectors, same]
    · have cons (rules : List RawRule) : selectors (first :: rules) = first.selector :: selectors rules := rfl
      simp only [same, if_false, cons, ih, List.mem_cons, Ne.symm same, false_or]
      split <;> rfl

theorem nodup_selectors_foldl (raws : List RawRule) {rules : List RawRule} (distinct : (selectors rules).Nodup) :
    (selectors (raws.foldl gather rules)).Nodup := by
  induction raws generalizing rules with
  | nil => exact distinct
  | cons raw rest ih =>
    refine ih ?_
    rw [selectors_gather]
    split
    · exact distinct
    · rename_i fresh
      refine List.nodup_append.mpr ⟨distinct, by simp, ?_⟩
      rintro known member _ single rfl
      exact fresh (List.mem_singleton.mp single ▸ member)

/-- The selectors that are there stay in front; the others follow in the order in which they come. -/
theorem selectors_foldl (rules raws : List RawRule) :
    selectors (raws.foldl gather rules) =
      selectors rules ++ (selectors (raws.foldl gather [])).filter (!(selectors rules).contains ·) := by
  induction raws using List.reverseRecOn with
  | nil => simp [selectors]
  | append_singleton raws raw ih =>
    rw [List.foldl_append, List.foldl_append, List.foldl_cons, List.foldl_cons, List.foldl_nil, List.foldl_nil,
      selectors_gather, selectors_gather, ih]
    by_cases first : raw.selector ∈ selectors rules
    · have left : raw.selector ∈ selectors rules ++
          (selectors (raws.foldl gather [])).filter (!(selectors rules).contains ·) :=
        List.mem_append_left _ first
      rw [if_pos left]
      split
      · rfl
      · simp [List.filter_append, first]
    · by_cases second : raw.selector ∈ selectors (raws.foldl gather [])
      · simp [first, second]
      · simp [first, second, List.filter_append]

theorem find?_eq_some_of_mem {rules : List RawRule} (distinct : (selectors rules).Nodup) {raw : RawRule}
    (member : raw ∈ rules) : find? raw.selector rules = some raw := find?_of_nodup_map distinct member

theorem of_find? {selector : String} {rules : List RawRule} {raw : RawRule}
    (found : find? selector rules = some raw) : raw ∈ rules ∧ raw.selector = selector :=
  ⟨List.mem_of_find?_eq_some found, by simpa using List.find?_some found⟩

theorem find?_eq_none {selector : String} {rules : List RawRule} :
    find? selector rules = none ↔ selector ∉ selectors rules := by
  simp [find?, selectors, List.find?_eq_none]

/-- A rule of what is gathered on top of others is one of those, or one of what is gathered alone, or made of one of
each for its selector. -/
theorem mem_foldl_gather {rules raws : List RawRule} (distinct : (selectors rules).Nodup) {raw : RawRule}
    (member : raw ∈ raws.foldl gather rules) :
    (raw ∈ rules ∧ raw.selector ∉ selectors (raws.foldl gather [])) ∨
    (raw ∈ raws.foldl gather [] ∧ raw.selector ∉ selectors rules) ∨
    ∃ a ∈ rules, ∃ b ∈ raws.foldl gather [],
      a.selector = raw.selector ∧ b.selector = raw.selector ∧ raw = a.followedBy b := by
  have found := find?_eq_some_of_mem (nodup_selectors_foldl raws distinct) member
  rw [find?_foldl_gather] at found
  cases left : find? raw.selector rules with
  | none =>
    rw [left] at found
    exact .inr (.inl ⟨(of_find? found).1, find?_eq_none.mp left⟩)
  | some a =>
    cases right : find? raw.selector (raws.foldl gather []) with
    | none =>
      rw [left, right] at found
      obtain rfl := Option.some.inj found
      exact .inl ⟨(of_find? left).1, find?_eq_none.mp right⟩
    | some b =>
      rw [left, right] at found
      obtain ⟨inRules, same⟩ := of_find? left
      obtain ⟨inRaws, again⟩ := of_find? right
      exact .inr (.inr ⟨a, inRules, b, inRaws, same, again, (Option.some.inj found).symm⟩)

end RawRule

end CosmeticRules
