import CosmeticRules.Proofs.Engine.AffectedList
import CosmeticRules.Proofs.Engine.VisitReach
import CosmeticRules.Proofs.Page.Declared

/-!
Which rules are in force for an element after a pass: an element that is not protected yet gets the
declarations of all the rules that are known for it, up to the first that removes it.
-/

namespace CosmeticRules

namespace Rule

/-- Whether a rule removes the elements that it selects. -/
def removes (rule : Rule) : Bool := rule.style.any (·.isRemove)

/-- What rules declare for an element, in order: nothing counts after a rule that removes it. -/
def declarations (rules : List Rule) : List Declaration :=
  ((rules.takeWhile (!·.removes)).filterMap (·.style)).flatMap (·.declarations)

/-- Adds a rule to those that are known for an element. -/
def record (rules : List Rule) (rule : Rule) : List Rule :=
  if rules.contains rule then rules else rules ++ [rule]

theorem rules_addRule (a : Affected) (rule : Rule) : (a.addRule rule).rules = record a.rules rule := by
  unfold Affected.addRule record
  split <;> rfl

theorem mem_record {rules : List Rule} {rule : Rule} : rule ∈ record rules rule := by
  unfold record
  split
  · rename_i known
    exact List.contains_iff_mem.mp known
  · simp

theorem prefix_record (rules : List Rule) (rule : Rule) : rules <+: record rules rule := by
  unfold record
  split
  · exact List.prefix_rfl
  · exact List.prefix_append _ _

theorem prefix_foldl_record (rules more : List Rule) : rules <+: more.foldl record rules := by
  induction more generalizing rules with
  | nil => exact List.prefix_rfl
  | cons rule rest ih => exact (prefix_record rules rule).trans (ih _)

/-- Rules that are added later take no declaration away. -/
theorem declarations_subset {rules more : List Rule} (start : rules <+: more) :
    declarations rules ⊆ declarations more := by
  obtain ⟨rest, rfl⟩ := start
  unfold declarations
  rw [List.takeWhile_append]
  split
  · rename_i all
    have whole : rules.takeWhile (!·.removes) = rules :=
      (List.takeWhile_sublist _).eq_of_length all
    rw [whole, List.filterMap_append, List.flatMap_append]
    exact List.subset_append_left _ _
  · exact List.Subset.refl _

end Rule

namespace Engine

variable {σ : Type}

/-- The rules that are known to select an element. -/
def known (engine : Engine σ) (n : NodeId) : List Rule :=
  ((Affected.find? n engine.affected).map (·.rules)).getD []

/-- Whether the style of an element is protected, or was until it had been put back too often. -/
def guards (engine : Engine σ) (n : NodeId) : Bool :=
  ((Affected.find? n engine.affected).bind (·.protection)).isSome

/-- The rules that are known for an element after some visits. -/
def knownAfter (engine : Engine σ) (visits : List (Visit σ)) (n : NodeId) : List Rule :=
  ((visits.filter (·.node == n)).map (·.rule)).foldl Rule.record (engine.known n)

/-- Where a list of entries is read for what a removal mark does not change, a visit is the recording of
its rule. -/
theorem map_find?_visit {α : Type} {f : Affected → α} (same : ∀ a, f a.markRemoved = f a)
    (engine : Engine σ) (rule : Rule) (n m : NodeId) :
    (Affected.find? m (engine.visit rule n).1.affected).map f =
      if m = n then
        some (f (Affected.touched n rule (engine.page.styleText n) (Affected.find? n engine.affected)))
      else (Affected.find? m engine.affected).map f := by
  rcases affected_visit engine rule n with recorded | ⟨_, marked⟩
  · rw [recorded, Affected.find?_touch]
    split <;> rfl
  · rw [marked, Affected.find?_update (f := Affected.markRemoved) fun _ => rfl, Affected.find?_touch,
      Affected.find?_touch, if_pos rfl]
    split
    · exact congrArg some (same _)
    · rfl

theorem known_visit (engine : Engine σ) (rule : Rule) (n m : NodeId) :
    (engine.visit rule n).1.known m =
      if m = n then Rule.record (engine.known n) rule else engine.known m := by
  rw [known, map_find?_visit (f := (·.rules)) fun _ => rfl]
  split
  · rw [known]
    cases Affected.find? n engine.affected with
    | none => rfl
    | some a => exact Rule.rules_addRule a rule
  · rfl

theorem guards_visit (engine : Engine σ) (rule : Rule) (n m : NodeId) :
    (engine.visit rule n).1.guards m = engine.guards m := by
  have bound : ∀ entry : Option Affected,
      (entry.bind (·.protection)).isSome = ((entry.map (·.protection)).bind id).isSome := by
    intro entry
    cases entry <;> rfl
  rw [guards, guards, bound, bound, map_find?_visit (f := (·.protection)) fun _ => rfl]
  split
  · rename_i same
    rw [same]
    cases Affected.find? n engine.affected with
    | none => rfl
    | some a => simp [Affected.touched]
  · rfl

theorem knownAfter_cons_of_eq {engine : Engine σ} {rule : Rule} {n : NodeId}
    (visits : List (Visit σ)) :
    engine.knownAfter (⟨engine, rule, n⟩ :: visits) n = (engine.visit rule n).1.knownAfter visits n := by
  rw [knownAfter, knownAfter, known_visit, if_pos rfl, List.filter_cons_of_pos (by simp)]
  rfl

theorem knownAfter_cons_of_ne {engine : Engine σ} {rule : Rule} {n m : NodeId} (other : m ≠ n)
    (visits : List (Visit σ)) :
    engine.knownAfter (⟨engine, rule, n⟩ :: visits) m = (engine.visit rule n).1.knownAfter visits m := by
  rw [knownAfter, knownAfter, known_visit, if_neg other,
    List.filter_cons_of_neg (by simpa using Ne.symm other)]

/-! Taking an affected element out. -/

theorem element?_removeAffected (engine : Engine σ) (n m : NodeId) :
    (engine.removeAffected n).page.tree.element? m = engine.page.tree.element? m :=
  (confined_removeAffected (fun _ => False) engine n).element? m id

theorem parent?_removeAffected_of_ne {engine : Engine σ} {n m : NodeId} (other : m ≠ n) :
    (engine.removeAffected n).page.tree.parent? m = engine.page.tree.parent? m := by
  unfold removeAffected
  simp only []
  split
  · rfl
  · split
    · exact (Page.parent?_removeElement engine.page n m).trans (if_neg other)
    · rfl

/-- No element gets a parent, and an element below an element loses it unless elements with its path have
been removed too often. -/
theorem parent?_removeAffected {engine : Engine σ} {n : NodeId} :
    (engine.page.tree.parent? n = none → (engine.removeAffected n).page.tree.parent? n = none) ∧
      (engine.removalCount (Page.elementPath engine.page.tree n) ≤ Protection.limit →
        (∀ parent, engine.page.tree.parent? n = some parent → engine.page.tree.isElement parent) →
        (engine.removeAffected n).page.tree.parent? n = none) := by
  have gone := (Page.parent?_removeElement engine.page n n).trans (if_pos rfl)
  constructor
  · intro none
    unfold removeAffected
    simp only []
    split
    · exact none
    · split
      · exact gone
      · exact none
  · intro within below
    unfold removeAffected
    simp only []
    split
    · rename_i exceeds
      exact absurd exceeds (Nat.not_lt.mpr within)
    · split
      · exact gone
      · rename_i stays
        show engine.page.tree.parent? n = none
        cases parent : engine.page.tree.parent? n with
        | none => rfl
        | some p => simp [PageTree.parentElement?, parent, below p parent] at stays

/-- The engine with another page. -/
def setPage (engine : Engine σ) (page : Page) : Engine σ := { engine with page }

/-- A list of rules that is applied to the end: its declarations are written, and then the affected element
is removed if one of the rules removes it. -/
theorem applyRules_of_ok {engine done : Engine σ} {n target : NodeId} {rules : List Rule}
    (applied : engine.applyRules n target rules = (done, .ok ())) :
    done =
      if rules.any (·.removes) then
        (engine.setPage (engine.page.applyDeclarations target (Rule.declarations rules))).removeAffected n
      else engine.setPage (engine.page.applyDeclarations target (Rule.declarations rules)) := by
  induction rules generalizing engine with
  | nil =>
    simp only [applyRules, Prod.mk.injEq, and_true] at applied
    exact applied.symm
  | cons rule rest ih =>
    rw [applyRules] at applied
    split at applied
    · rename_i style styled
      have same : rule.removes = style.isRemove := by rw [Rule.removes, styled]; rfl
      split at applied
      · rename_i removal
        simp only [Prod.mk.injEq, and_true] at applied
        rw [removal] at same
        have nothing : Rule.declarations (rule :: rest) = [] := by simp [Rule.declarations, same]
        rw [List.any_cons, same, Bool.true_or, if_pos rfl, nothing]
        exact applied.symm
      · rename_i stays
        rw [Bool.not_eq_true] at stays
        rw [stays] at same
        have first : Rule.declarations (rule :: rest) = style.declarations ++ Rule.declarations rest := by
          simp [Rule.declarations, same, styled]
        have grouped : engine.page.applyDeclarations target (Rule.declarations (rule :: rest)) =
            (engine.page.applyStyle target style).applyDeclarations target (Rule.declarations rest) := by
          rw [first]
          exact List.foldl_append
        rw [List.any_cons, same, Bool.false_or, grouped, ih applied]
        rfl
    · rename_i styled
      have same : rule.removes = false := by rw [Rule.removes, styled]; rfl
      split at applied
      · simp at applied
      · have first : Rule.declarations (rule :: rest) = Rule.declarations rest := by
          simp [Rule.declarations, same, styled]
        rw [List.any_cons, same, Bool.false_or, first, ih applied]

/-- The engine with a rule recorded for an element. -/
def recorded (engine : Engine σ) (rule : Rule) (n : NodeId) : Engine σ :=
  { engine with affected := Affected.touch n rule (engine.page.styleText n) engine.affected }

/-- The entry of an element of which a rule is recorded. -/
theorem find?_recorded (engine : Engine σ) (rule : Rule) (n : NodeId) :
    ∃ a, Affected.find? n (engine.recorded rule n).affected = some a ∧
      a.rules = Rule.record (engine.known n) rule ∧ a.protection.isSome = engine.guards n := by
  refine ⟨_, (Affected.find?_touch n n rule _ _).trans (if_pos rfl), ?_, ?_⟩
  · unfold known
    cases Affected.find? n engine.affected with
    | none => rfl
    | some a => exact Rule.rules_addRule a rule
  · unfold guards
    cases Affected.find? n engine.affected with
    | none => rfl
    | some a => exact congrArg Option.isSome (Affected.protection_addRule a rule)

theorem visit_of_guards {engine : Engine σ} {n : NodeId} (guarded : engine.guards n = true)
    (rule : Rule) : engine.visit rule n = (engine.recorded rule n, .ok ()) := by
  obtain ⟨a, found, _, same⟩ := find?_recorded engine rule n
  show (engine.recorded rule n).styleAffected n = _
  unfold styleAffected
  rw [found]
  simp only [same, guarded, if_true]

theorem visit_of_free {engine : Engine σ} {n : NodeId} (hookless : engine.hook = none)
    (free : engine.guards n = false) (rule : Rule) :
    engine.visit rule n =
      (engine.recorded rule n).applyRules n n (Rule.record (engine.known n) rule) := by
  obtain ⟨a, found, rules, same⟩ := find?_recorded engine rule n
  have hookless : (engine.recorded rule n).hook = none := hookless
  show (engine.recorded rule n).styleAffected n = _
  unfold styleAffected
  rw [found]
  simp only [same, free, callHook, hookless, rules, Bool.false_eq_true, if_false]

/-- A visit that succeeds to an element that is not protected writes what the rules known by then declare,
and takes the element out if one of them removes it. -/
theorem visit_of_succeeds {engine : Engine σ} {rule : Rule} {n : NodeId}
    (hookless : engine.hook = none) (free : engine.guards n = false)
    (succeeds : (engine.visit rule n).2 = .ok ()) :
    (engine.visit rule n).1 =
      let styled := (engine.recorded rule n).setPage
        (engine.page.applyDeclarations n (Rule.declarations (Rule.record (engine.known n) rule)))
      if (Rule.record (engine.known n) rule).any (·.removes) then styled.removeAffected n
      else styled := by
  rw [visit_of_free hookless free] at succeeds ⊢
  exact applyRules_of_ok (Prod.ext rfl succeeds)

/-! What a visit does to the page. -/

/-- A visit moves no other element. -/
theorem parent?_visit_of_ne {engine : Engine σ} {rule : Rule} {n m : NodeId} (hookless : engine.hook = none)
    (succeeds : (engine.visit rule n).2 = .ok ()) (other : m ≠ n) :
    (engine.visit rule n).1.page.tree.parent? m = engine.page.tree.parent? m := by
  cases guarded : engine.guards n with
  | true =>
    rw [visit_of_guards guarded]
    rfl
  | false =>
    have parent : ∀ declarations,
        (engine.page.applyDeclarations n declarations).tree.parent? m = engine.page.tree.parent? m :=
      fun declarations => (Page.sameShape_applyDeclarations declarations).parent? m
    rw [visit_of_succeeds hookless guarded succeeds]
    simp only []
    split
    · rw [parent?_removeAffected_of_ne other]
      exact parent _
    · exact parent _

/-- No visit gives an element a parent. -/
theorem parent?_visit_of_none {engine : Engine σ} {rule : Rule} {n m : NodeId}
    (hookless : engine.hook = none) (succeeds : (engine.visit rule n).2 = .ok ())
    (none : engine.page.tree.parent? m = none) :
    (engine.visit rule n).1.page.tree.parent? m = .none := by
  by_cases same : m = n
  · subst same
    cases guarded : engine.guards m with
    | true =>
      rw [visit_of_guards guarded]
      exact none
    | false =>
      have parent : ∀ declarations,
          (engine.page.applyDeclarations m declarations).tree.parent? m = .none :=
        fun declarations => ((Page.sameShape_applyDeclarations declarations).parent? m).trans none
      rw [visit_of_succeeds hookless guarded succeeds]
      simp only []
      split
      · exact parent?_removeAffected.1 (parent _)
      · exact parent _
  · rw [parent?_visit_of_ne hookless succeeds same, none]

/-- A visit of a removal rule takes an unprotected element out. -/
theorem parent?_visit_of_removes {engine : Engine σ} {rule : Rule} {n : NodeId}
    (hookless : engine.hook = none) (free : engine.guards n = false)
    (succeeds : (engine.visit rule n).2 = .ok ()) (removal : rule.removes = true)
    (within : engine.removalCount (Page.elementPath engine.page.tree n) ≤ Protection.limit)
    (below : ∀ parent, engine.page.tree.parent? n = some parent →
      engine.page.tree.isElement parent = true) :
    (engine.visit rule n).1.page.tree.parent? n = none := by
  have some : (Rule.record (engine.known n) rule).any (·.removes) = true :=
    List.any_eq_true.mpr ⟨rule, Rule.mem_record, removal⟩
  rw [visit_of_succeeds hookless free succeeds]
  simp only [some, if_true]
  have same : PageTree.SameShape engine.page.tree (engine.page.applyDeclarations n
      (Rule.declarations (Rule.record (engine.known n) rule))).tree :=
    Page.sameShape_applyDeclarations _
  refine parent?_removeAffected.2 ?_ ?_
  · show engine.removalCount (Page.elementPath (engine.page.applyDeclarations n _).tree n) ≤ _
    rw [same.elementPath]
    exact within
  · intro parent is
    exact (same.isElement parent).trans (below parent ((same.parent? n).symm.trans is))

/-- After a visit to an unprotected element its style attribute declares what the rules known by then
declare. -/
theorem read_visit {engine : Engine σ} {rule : Rule} {n : NodeId}
    (hookless : engine.hook = none) (free : engine.guards n = false)
    (succeeds : (engine.visit rule n).2 = .ok ())
    (held : ∀ d ∈ InlineStyle.read (engine.page.styleText n), d.Writable)
    (plain : ∀ d ∈ Rule.declarations (Rule.record (engine.known n) rule),
      engine.page.accepts n d = true → Page.IsPlain d) :
    (∀ d ∈ InlineStyle.read ((engine.visit rule n).1.page.styleText n), d.Writable) ∧
      ∀ d, ((Rule.declarations (Rule.record (engine.known n) rule)).filter
          (engine.page.accepts n)).reverse.find? (·.property == d.property) = some d →
        (InlineStyle.read ((engine.visit rule n).1.page.styleText n)).find?
          (·.property == d.property) = some (Page.written d) := by
  have written := And.intro (Page.read_applyDeclarations held plain).1
    fun d => Page.find?_read_of_last held plain (d := d)
  rw [visit_of_succeeds hookless free succeeds]
  simp only []
  split
  · rw [Page.styleText_congr (element?_removeAffected _ n n)]
    exact written
  · exact written

/-! What the visits of a pass do to the page. -/

section passing

variable {engine later : Engine σ} {visits : List (Visit σ)}

theorem Passing.parent?_of_none (passing : Passing engine visits later) (hookless : engine.hook = none)
    (succeed : ∀ visit ∈ visits, visit.Succeeds) {m : NodeId}
    (none : engine.page.tree.parent? m = none) : later.page.tree.parent? m = .none := by
  induction passing with
  | done => exact none
  | noted entries _ ih => exact ih hookless succeed none
  | visited rule n _ ih =>
    obtain ⟨here, rest⟩ := List.forall_mem_cons.mp succeed
    exact ih ((steady_visit _ rule n).hook.trans hookless) rest
      (parent?_visit_of_none hookless here none)

theorem Passing.guards (passing : Passing engine visits later) (m : NodeId) :
    later.guards m = engine.guards m := by
  induction passing with
  | done => rfl
  | noted entries _ ih => exact ih
  | visited rule n _ ih => exact ih.trans (guards_visit _ rule n m)

/-- An element that is visited only if it is protected stays as it is. -/
theorem Passing.unchanged (passing : Passing engine visits later) (hookless : engine.hook = none)
    (succeed : ∀ visit ∈ visits, visit.Succeeds) {m : NodeId}
    (guarded : ∀ visit ∈ visits, visit.node = m → engine.guards m = true) :
    later.page.tree.element? m = engine.page.tree.element? m ∧
      later.page.tree.parent? m = engine.page.tree.parent? m := by
  induction passing with
  | done => exact ⟨rfl, rfl⟩
  | noted entries _ ih => exact ih hookless succeed guarded
  | @visited engine later visits rule n _ ih =>
    obtain ⟨here, rest⟩ := List.forall_mem_cons.mp succeed
    obtain ⟨first, others⟩ := List.forall_mem_cons.mp guarded
    obtain ⟨element, parent⟩ := ih ((steady_visit engine rule n).hook.trans hookless) rest
      fun visit member same => (guards_visit engine rule n m).trans (others visit member same)
    by_cases same : m = n
    · rw [visit_of_guards (same ▸ first same.symm)] at element parent
      exact ⟨element, parent⟩
    · have confined := confined_visit_of_hookless hookless rule n
      exact ⟨element.trans (confined.element? m same), parent.trans (parent?_visit_of_ne hookless here same)⟩

/-- After visits to an unprotected element its style attribute declares what the rules known by then
declare. -/
theorem Passing.read (passing : Passing engine visits later) (hookless : engine.hook = none)
    (succeed : ∀ visit ∈ visits, visit.Succeeds) {m : NodeId} (free : engine.guards m = false)
    (held : ∀ d ∈ InlineStyle.read (engine.page.styleText m), d.Writable)
    (plain : ∀ d ∈ Rule.declarations (engine.knownAfter visits m),
      engine.page.accepts m d = true → Page.IsPlain d)
    (visited : ∃ visit ∈ visits, visit.node = m) {d : Declaration}
    (last : ((Rule.declarations (engine.knownAfter visits m)).filter
      (engine.page.accepts m)).reverse.find? (·.property == d.property) = some d) :
    (InlineStyle.read (later.page.styleText m)).find? (·.property == d.property) =
      some (Page.written d) := by
  induction passing with
  | done => simp at visited
  | noted entries _ ih => exact ih hookless succeed free held plain visited last
  | @visited engine later visits rule n passing ih =>
    obtain ⟨here, rest⟩ := List.forall_mem_cons.mp succeed
    have hooklessLater := (steady_visit engine rule n).hook.trans hookless
    have freeLater := (guards_visit engine rule n m).trans free
    have accepts : (engine.visit rule n).1.page.accepts m = engine.page.accepts m := by
      funext d
      rw [Page.accepts, Page.accepts, Page.supportsProperty, Page.supportsProperty,
        isElement_visit]
    by_cases same : n = m
    · subst same
      rw [knownAfter_cons_of_eq] at plain last
      have known := known_visit engine rule n n
      rw [if_pos rfl] at known
      have start : Rule.record (engine.known n) rule <+:
          (engine.visit rule n).1.knownAfter visits n :=
        known ▸ Rule.prefix_foldl_record _ _
      have now := read_visit hookless free here held fun d member =>
        plain d (Rule.declarations_subset start member)
      by_cases again : ∃ visit ∈ visits, visit.node = n
      · rw [← accepts] at plain last
        exact ih hooklessLater rest freeLater now.1 plain again last
      · have none : visits.filter (·.node == n) = [] := by
          rw [List.filter_eq_nil_iff]
          intro visit member equal
          exact again ⟨visit, member, by simpa using equal⟩
        have stays := (passing.unchanged hooklessLater rest fun visit member equal =>
          absurd ⟨visit, member, equal⟩ again).1
        rw [knownAfter, none, known] at last
        rw [Page.styleText_congr stays]
        exact now.2 d last
    · have other : m ≠ n := Ne.symm same
      have text := Page.styleText_congr ((confined_visit_of_hookless hookless rule n).element? m other)
      rw [knownAfter_cons_of_ne other, ← accepts] at plain last
      rw [← text] at held
      obtain ⟨visit, member, equal⟩ := visited
      rcases List.mem_cons.mp member with rfl | member
      · exact absurd equal same
      · exact ih hooklessLater rest freeLater held plain ⟨visit, member, equal⟩ last

end passing

/-- Settling the entries changes no selected element and takes no element out. -/
theorem settleAll_unchanged (engine : Engine σ) (selected : List NodeId) (m : NodeId) :
    (engine.settleAll selected).page.tree.parent? m = engine.page.tree.parent? m ∧
      (m ∈ selected →
        (engine.settleAll selected).page.tree.element? m = engine.page.tree.element? m) := by
  unfold settleAll
  generalize engine.affected = entries
  induction entries with
  | nil => exact ⟨rfl, fun _ => rfl⟩
  | cons a rest ih =>
    rw [List.foldr_cons, settle]
    split
    · rename_i left
      refine ⟨((Page.sameShape_writeStyle _ a.node _).parent? m).trans ih.1, ?_⟩
      intro member
      have other : m ≠ a.node := by
        rintro rfl
        simp [member] at left
      exact (Page.element?_writeStyle_of_ne _ a.node m _ other).trans (ih.2 member)
    · split <;> exact ih

theorem hook_pass (engine : Engine σ) : engine.pass.1.hook = engine.hook := by
  cases ran : engine.pass with
  | mk done result =>
    cases result with
    | error e =>
      obtain ⟨later, passing, rfl⟩ := pass_eq_of_error ran
      exact passing.steady.hook
    | ok =>
      obtain ⟨later, passing, _, rfl⟩ := pass_eq_of_ok ran
      rw [(finish_fields _).2.2.2.1, (settled_settleAll [] _ _).hook]
      exact passing.steady.hook

/-- An engine keeps its hook, or the lack of one. -/
theorem kept_hook (hook : Option (Hook σ)) : Kept fun engine : Engine σ => engine.hook = hook where
  page := fun same _ => same
  source := fun same _ => same
  throttle := fun same _ => same
  awaitsReady := fun same _ => same
  log := fun same _ => same
  protectNode := by
    intro engine same n
    unfold protectNode
    split
    · exact same
    · split <;> exact same
  pass := fun {engine} same => (hook_pass engine).trans same
  dispose := fun same => same

section passed

variable {engine done : Engine σ} {n : NodeId}

/-- What the visits of a pass that succeeds have made of a selected element stays to the end of the pass. -/
theorem passing_of_passed (passed : engine.pass = (done, .ok ())) (selected : ∃ rule, engine.Selects rule n) :
    ∃ later, Passing engine.stopObserving engine.visits later ∧
      (∀ visit ∈ engine.visits, visit.Succeeds) ∧
      done.page.tree.element? n = later.page.tree.element? n ∧
      done.page.tree.parent? n = later.page.tree.parent? n := by
  obtain ⟨later, passing, succeed, rfl⟩ := pass_eq_of_ok passed
  obtain ⟨rule, visit, member, _, here⟩ := selected
  obtain ⟨parent, element⟩ := settleAll_unchanged ({ later with
    rules := (engine.stopObserving.applyEach engine.rules).2.1 } : Engine σ)
    (engine.visits.map (·.node)) n
  refine ⟨later, passing, succeed, ?_, ?_⟩
  · rw [(finish_fields _).2.2.2.2]
    exact element (List.mem_map.mpr ⟨visit, member, here⟩)
  · rw [(finish_fields _).2.2.2.2]
    exact parent

theorem unchanged_of_guards (hookless : engine.hook = none) (passed : engine.pass = (done, .ok ()))
    (selected : ∃ rule, engine.Selects rule n) (guarded : engine.guards n = true) :
    done.page.tree.element? n = engine.page.tree.element? n ∧
      done.page.tree.parent? n = engine.page.tree.parent? n := by
  obtain ⟨later, passing, succeed, element, parent⟩ := passing_of_passed passed selected
  obtain ⟨same, place⟩ := passing.unchanged hookless succeed fun _ _ _ => guarded
  exact ⟨element.trans same, parent.trans place⟩

/-- The pass is cut at the visit of the removal rule: before it the element has no protection, and after it
nothing gives it a parent. -/
theorem removed_of_removes (hookless : engine.hook = none) (passed : engine.pass = (done, .ok ()))
    (free : engine.guards n = false) {visit : Visit σ} (member : visit ∈ engine.visits)
    (here : visit.node = n) (removal : visit.rule.removes = true)
    (within : visit.engine.removalCount (Page.elementPath visit.engine.page.tree n) ≤ Protection.limit)
    (below : ∀ parent, visit.engine.page.tree.parent? n = some parent →
      visit.engine.page.tree.isElement parent = true) :
    done.page.tree.parent? n = none := by
  obtain ⟨later, passing, succeed, _, parent⟩ :=
    passing_of_passed passed ⟨visit.rule, visit, member, rfl, here⟩
  obtain ⟨before, after, split, first, second⟩ := passing.cut member
  rw [split] at succeed
  obtain ⟨_, ofAfter⟩ := List.forall_mem_append.mp succeed
  obtain ⟨ofVisit, ofAfter⟩ := List.forall_mem_cons.mp ofAfter
  have hooklessHere : visit.engine.hook = none := first.steady.hook.trans hookless
  have freeHere : visit.engine.guards n = false := (first.guards n).trans free
  subst here
  have gone := parent?_visit_of_removes hooklessHere freeHere ofVisit removal within below
  rw [parent]
  exact second.parent?_of_none ((steady_visit _ _ _).hook.trans hooklessHere) ofAfter gone

theorem declares_of_last (hookless : engine.hook = none) (passed : engine.pass = (done, .ok ()))
    (selected : ∃ rule, engine.Selects rule n) (free : engine.guards n = false)
    (held : ∀ d ∈ InlineStyle.read (engine.page.styleText n), d.Writable)
    (plain : ∀ d ∈ Rule.declarations (engine.knownAfter engine.visits n),
      engine.page.accepts n d = true → Page.IsPlain d) {d : Declaration}
    (last : ((Rule.declarations (engine.knownAfter engine.visits n)).filter
      (engine.page.accepts n)).reverse.find? (·.property == d.property) = some d) :
    done.page.Declares n d.property (Page.bareValue d.value) := by
  obtain ⟨later, passing, succeed, element, _⟩ := passing_of_passed passed selected
  obtain ⟨rule, visit, member, _, here⟩ := selected
  have found := passing.read hookless succeed free held plain ⟨visit, member, here⟩ last
  refine ⟨Page.written d, ?_, Page.stripImportant_importantValue d⟩
  rw [Page.styleText_congr element]
  exact found

end passed

/-- After every pass that succeeds, of any run of an engine without a hook, this holds of each element that
a rule selects. If it was protected when the pass began, the pass has not changed it. If not, a removal rule
that selects it has taken it out, unless elements with its path have been removed too often or it is at the
top of the document; and the last rule that declares a property has given it its value, among the rules known
for the element up to the first that removes it, provided that its style attribute and these declarations
leave nothing open. -/
theorem rules_in_force {page : Page} {configuration : Configuration σ} {hookState : σ}
    {engine done : Engine σ} (hookless : configuration.hook = none)
    (begins : PassBegins page configuration hookState engine) (passed : engine.pass = (done, .ok ()))
    {n : NodeId} (selected : ∃ rule, engine.Selects rule n) :
    (engine.guards n = true →
      done.page.tree.element? n = engine.page.tree.element? n ∧
        done.page.tree.parent? n = engine.page.tree.parent? n) ∧
    (engine.guards n = false →
      (∀ visit ∈ engine.visits, visit.node = n → visit.rule.removes = true →
        visit.engine.removalCount (Page.elementPath visit.engine.page.tree n) ≤ Protection.limit →
        (∀ parent, visit.engine.page.tree.parent? n = some parent →
          visit.engine.page.tree.isElement parent = true) →
        done.page.tree.parent? n = none) ∧
      ((∀ d ∈ InlineStyle.read (engine.page.styleText n), d.Writable) →
        (∀ d ∈ Rule.declarations (engine.knownAfter engine.visits n),
          engine.page.accepts n d = true → Page.IsPlain d) →
        ∀ d, ((Rule.declarations (engine.knownAfter engine.visits n)).filter
            (engine.page.accepts n)).reverse.find? (·.property == d.property) = some d →
          done.page.Declares n d.property (Page.bareValue d.value))) := by
  have hookless : engine.hook = none := by
    refine (kept_hook none).passBegins ?_ begins
    intro engine made
    obtain ⟨rules, _, rfl⟩ := engine_of_made made
    exact hookless
  refine ⟨unchanged_of_guards hookless passed selected, fun free => ⟨?_, ?_⟩⟩
  · intro visit member here removal within below
    exact removed_of_removes hookless passed free member here removal within below
  · intro held plain d last
    exact declares_of_last hookless passed selected free held plain last

theorem rules_in_force_stylesAndRemoves :
    stylesAndRemoves.pass.1.page.Declares ⟨1⟩ "color" "red" ∧
      stylesAndRemoves.pass.1.page.tree.parent? ⟨2⟩ = none := by
  have begins : PassBegins _ _ () stylesAndRemoves := passBegins_ranOn (by decide +kernel) []
  have passed : stylesAndRemoves.pass = (stylesAndRemoves.pass.1, .ok ()) :=
    Prod.ext rfl (by decide +kernel)
  have selected : ∀ n ∈ Affected.nodes stylesAndRemoves.pass.1.affected,
      ∃ rule, stylesAndRemoves.Selects rule n := fun n => ((affected_of_passed passed).1 n).mp
  have members : Affected.nodes stylesAndRemoves.pass.1.affected = [⟨1⟩, ⟨2⟩] := by decide +kernel
  rw [members] at selected
  constructor
  · obtain ⟨_, styled⟩ := rules_in_force rfl begins passed (selected ⟨1⟩ (by decide))
    have none : InlineStyle.read (stylesAndRemoves.page.styleText ⟨1⟩) = [] := by decide +kernel
    have all : Rule.declarations (stylesAndRemoves.knownAfter stylesAndRemoves.visits ⟨1⟩) =
        [⟨"color", "red"⟩] := by decide +kernel
    refine (styled (by decide +kernel)).2 (by simp [none]) ?_ ⟨"color", "red"⟩ (by decide +kernel)
    intro d member _
    obtain rfl := List.mem_singleton.mp (all ▸ member)
    exact ⟨by decide, by decide +kernel, by decide +kernel, ⟨by decide +kernel, by decide +kernel⟩,
      ⟨by decide +kernel, by decide +kernel⟩⟩
  · obtain ⟨_, removed⟩ := rules_in_force rfl begins passed (selected ⟨2⟩ (by decide))
    have visits : ∃ visit ∈ stylesAndRemoves.visits, visit.node = ⟨2⟩ ∧ visit.rule.removes = true ∧
        visit.engine.removalCount (Page.elementPath visit.engine.page.tree ⟨2⟩) ≤ Protection.limit ∧
        (visit.engine.page.tree.parentElement? ⟨2⟩).isSome := by decide +kernel
    obtain ⟨visit, member, here, removal, within, below⟩ := visits
    refine (removed (by decide +kernel)).1 visit member here removal within ?_
    intro parent is
    by_contra other
    simp [PageTree.parentElement?, is, other] at below

/-! Where a rule that selects an element is not in force after a pass. -/

/-- The value that the last rule selecting an element declares for a property. -/
def lastDeclared? (engine : Engine σ) (n : NodeId) (property : String) : Option String :=
  (engine.visits.filterMap fun visit =>
    if visit.node = n then visit.rule.style.bind (·.get? property) else none).getLast?

/-- Whether a removal rule selects an element whose path has not been removed too often. -/
def shouldRemove (engine : Engine σ) (n : NodeId) : Bool :=
  engine.visits.any fun visit => visit.node = n && visit.rule.removes &&
    visit.engine.removalCount (Page.elementPath visit.engine.page.tree n) ≤ Protection.limit

/-- An element is protected when a rule begins to select it. -/
def protectedBefore (rule : String) : Engine Unit :=
  ranOn "<div id='e' class='a'></div>" { rules := some ["#e.a { color: red }", rule] }
    [.apply, .script (.setAttribute ⟨1⟩ "class" "a b")]

/-- The topmost element is to be removed. -/
def removesTop : Engine Unit := ranOn "<p></p>" { rules := some ["html { remove: true }"] } []

/-- The first rule is given again as the last one. -/
def repeatsRule : Engine Unit :=
  ranOn "<div id='e'></div>"
    { styleSheet := some "#e { color: red } div { color: blue }", rules := some ["#e { color: red }"] } []

/-- An element has been put back after each of more removals than there may be. -/
def removedTooOften : Engine Unit :=
  ranOn "<div id='e'></div>" { rules := some ["#e { remove: true }", "div { color: red }"] }
    (List.replicate 51 [.apply, .script (.appendChild ⟨3⟩ ⟨1⟩)]).flatten

/-- The style attribute of an element, or a declaration for it, opens a parenthesis. -/
def opensParenthesis (style rule : String) : Engine Unit :=
  ranOn ("<div id='e' style='" ++ style ++ "'></div>") { rules := some [rule] } []

/-- Rules that select an element are not in force if it was protected before, if it is at the top of the
document, if an equal rule came earlier, if a rule that may not remove it came earlier, or if something is
left open in its style. -/
theorem rules_out_of_force :
    ((protectedBefore "#e.b { remove: true }").pass.2 = .ok () ∧
      (protectedBefore "#e.b { remove: true }").shouldRemove ⟨1⟩ = true ∧
      (protectedBefore "#e.b { remove: true }").pass.1.page.tree.parent? ⟨1⟩ = some ⟨3⟩) ∧
    ((protectedBefore "#e.b { color: blue }").pass.2 = .ok () ∧
      (protectedBefore "#e.b { color: blue }").lastDeclared? ⟨1⟩ "color" = some "blue" ∧
      (protectedBefore "#e.b { color: blue }").pass.1.page.inlineProperty? ⟨1⟩ "color" = some "red") ∧
    (removesTop.pass.2 = .ok () ∧ removesTop.shouldRemove ⟨2⟩ = true ∧
      removesTop.pass.1.page.tree.parent? ⟨2⟩ = some PageTree.root) ∧
    (repeatsRule.pass.2 = .ok () ∧ repeatsRule.lastDeclared? ⟨1⟩ "color" = some "red" ∧
      repeatsRule.pass.1.page.inlineProperty? ⟨1⟩ "color" = some "blue") ∧
    (removedTooOften.pass.2 = .ok () ∧ removedTooOften.shouldRemove ⟨1⟩ = false ∧
      removedTooOften.lastDeclared? ⟨1⟩ "color" = some "red" ∧
      removedTooOften.pass.1.page.inlineProperty? ⟨1⟩ "color" = none) ∧
    ((opensParenthesis "width: (" "#e { color: red }").pass.2 = .ok () ∧
      (opensParenthesis "width: (" "#e { color: red }").lastDeclared? ⟨1⟩ "color" = some "red" ∧
      (opensParenthesis "width: (" "#e { color: red }").pass.1.page.inlineProperty? ⟨1⟩ "color" = none) ∧
    (opensParenthesis "" "#e { width: (; color: red }").pass.2 = .ok () ∧
      (opensParenthesis "" "#e { width: (; color: red }").lastDeclared? ⟨1⟩ "color" = some "red" ∧
      (opensParenthesis "" "#e { width: (; color: red }").pass.1.page.inlineProperty? ⟨1⟩ "color" =
        none := by
  refine ⟨?_, ?_, ?_, ?_, ?_, ?_, ?_⟩ <;> decide +kernel

end Engine

end CosmeticRules
