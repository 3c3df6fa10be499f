import CosmeticRules.Proofs.Engine.RulesInForce

/-!
A pass right after another one that has succeeded: if no element has been removed and the rules find the same
elements again, every visit meets an element that is protected and has the rule in its entry, so nothing is
left to do.
-/

namespace CosmeticRules

theorem Affected.touch_of_known {n : NodeId} {rule : Rule} {style : String} {entries : List Affected}
    {a : Affected} (found : find? n entries = some a) (known : rule ∈ a.rules) :
    touch n rule style entries = entries := by
  induction entries with
  | nil => simp [find?] at found
  | cons b rest ih =>
    rw [find?_cons] at found
    rw [touch]
    split
    · rename_i here
      rw [if_pos here] at found
      obtain rfl := Option.some.inj found
      rw [addRule, if_pos (List.contains_iff_mem.mpr known)]
    · rename_i other
      rw [if_neg other] at found
      rw [ih found]

namespace Engine

variable {σ : Type}

/-- The elements that a rule finds on the page as it is. A selector that fails finds nothing. -/
def finds (engine : Engine σ) (rule : Rule) : List NodeId :=
  match (Matching.select ⟨engine.page, engine.source⟩ rule.tree).result with
  | .ok nodes => nodes
  | .error _ => []

/-- What each of some rules finds when its turn comes in a pass. -/
def findings (engine : Engine σ) : List RuleState → List (Rule × List NodeId)
  | [] => []
  | state :: rest =>
    let (selecting, nodes) := engine.selectNodes state.rule
    (state.rule, nodes) :: (selecting.applyToNodes state.rule nodes).1.findings rest

theorem selectNodes_eq (engine : Engine σ) (rule : Rule) :
    ∃ log, engine.selectNodes rule = ({ engine with log }, engine.finds rule) := by
  unfold finds selectNodes
  simp only []
  cases (Matching.select ⟨engine.page, engine.source⟩ rule.tree).result with
  | ok nodes => exact ⟨_, rfl⟩
  | error e =>
    simp only []
    split <;> exact ⟨_, rfl⟩

/-- The visits of rules that are applied with success are those to what the rules find. -/
theorem map_visitsOf {engine later : Engine σ} {states after : List RuleState} {selected : List NodeId}
    (applied : engine.applyEach states = (later, after, .ok selected)) :
    (engine.visitsOf states).map (fun visit => (visit.rule, visit.node)) =
      (engine.findings states).flatMap fun (rule, nodes) => nodes.map (rule, ·) := by
  induction states generalizing engine later after selected with
  | nil => rfl
  | cons state rest ih =>
    rw [applyEach_cons] at applied
    rw [visitsOf_cons, findings]
    split at applied
    · simp at applied
    · rename_i between same
      obtain ⟨nodes, succeed⟩ := visitsTo_of_ok same
      have first : ((engine.selectNodes state.rule).1.visitsTo state.rule
          (engine.selectNodes state.rule).2).map (fun visit => (visit.rule, visit.node)) =
            (engine.selectNodes state.rule).2.map (state.rule, ·) := by
        conv_rhs => rw [← nodes]
        rw [List.map_map]
        refine List.map_congr_left fun visit member => ?_
        rw [Function.comp_apply, (succeed visit member).2]
      cases remaining : between.applyEach rest with
      | mk last pair =>
        obtain ⟨states, result⟩ := pair
        rw [remaining] at applied
        cases result with
        | error e => simp [Except.map] at applied
        | ok others =>
          simp only [same, List.map_append, first, ih remaining, List.flatMap_cons]

/-! What a pass leaves to the next one. -/

theorem Passing.known_subset {engine later : Engine σ} {visits : List (Visit σ)}
    (passing : Passing engine visits later) (m : NodeId) : engine.known m ⊆ later.known m := by
  induction passing with
  | done => exact List.Subset.refl _
  | noted entries _ ih => exact ih
  | @visited engine later visits rule n _ ih =>
    refine List.Subset.trans ?_ ih
    rw [known_visit]
    split
    · rename_i same
      rw [same]
      exact (Rule.prefix_record _ _).subset
    · exact List.Subset.refl _

/-- After its visits a pass knows the rule of each of them. -/
theorem Passing.known {engine later : Engine σ} {visits : List (Visit σ)}
    (passing : Passing engine visits later) {visit : Visit σ} (member : visit ∈ visits) :
    visit.rule ∈ later.known visit.node := by
  obtain ⟨before, after, _, _, second⟩ := passing.cut member
  refine second.known_subset visit.node ?_
  rw [known_visit, if_pos rfl]
  exact Rule.mem_record

theorem known_settleAll (engine : Engine σ) {selected : List NodeId} {n : NodeId} (stays : n ∈ selected) :
    (engine.settleAll selected).known n = engine.known n := by
  unfold settleAll known
  generalize engine.affected = entries
  induction entries with
  | nil => rfl
  | cons a rest ih =>
    rw [List.foldr_cons, settle, Affected.find?_cons]
    split
    · rename_i left
      have other : a.node ≠ n := by
        rintro rfl
        simp [stays] at left
      rw [if_neg other]
      exact ih
    · split
      · show ((Affected.find? n (a.protectedBy _ :: _)).map (·.rules)).getD [] = _
        rw [Affected.find?_cons]
        by_cases here : a.node = n
        · rw [if_pos here, if_pos (show (a.protectedBy _).node = n from here)]
          rfl
        · rw [if_neg here, if_neg (show (a.protectedBy _).node ≠ n from here)]
          exact ih
      · show ((Affected.find? n (a :: _)).map (·.rules)).getD [] = _
        rw [Affected.find?_cons]
        by_cases here : a.node = n
        · rw [if_pos here, if_pos here]
        · rw [if_neg here, if_neg here]
          exact ih

/-- The rules of a pass that succeeds have been applied. -/
theorem exists_applied_of_passed {engine done : Engine σ} (passed : engine.pass = (done, .ok ())) :
    ∃ later after selected, engine.stopObserving.applyEach engine.rules = (later, after, .ok selected) := by
  unfold pass at passed
  cases ran : engine.stopObserving.applyEach engine.rules with
  | mk later pair =>
    obtain ⟨states, result⟩ := pair
    rw [ran] at passed
    cases result with
    | error e => simp at passed
    | ok selected => exact ⟨later, states, selected, rfl⟩

/-- A pass that succeeds leaves no changes to be observed, and has reported the timings. -/
theorem finished_of_passed {engine done : Engine σ} (passed : engine.pass = (done, .ok ())) :
    done.page.mutations = [] ∧ done.timingsReported = true := by
  obtain ⟨later, _, _, rfl⟩ := pass_eq_of_ok passed
  unfold reportTimings
  split
  · rename_i reported
    exact ⟨rfl, reported⟩
  · exact ⟨rfl, rfl⟩

/-- After a pass that succeeds, the rule of each of its visits is known for the element, and the element is
protected if no entry is marked as removed. -/
theorem visited_of_passed {engine done : Engine σ} (passed : engine.pass = (done, .ok ()))
    (present : ∀ a ∈ done.affected, a.removed = false) {visit : Visit σ} (member : visit ∈ engine.visits) :
    done.guards visit.node = true ∧ visit.rule ∈ done.known visit.node := by
  obtain ⟨affected, guarded⟩ := affected_of_passed passed
  constructor
  · have listed := (affected visit.node).mpr ⟨visit.rule, visit, member, rfl, rfl⟩
    obtain ⟨a, found⟩ := Option.ne_none_iff_exists'.mp fun none => Affected.find?_eq_none.mp none listed
    have known := Affected.mem_of_find? found
    rw [guards, found, Option.bind_some]
    exact guarded a known (present a known)
  · obtain ⟨later, passing, _, rfl⟩ := pass_eq_of_ok passed
    have selected : visit.node ∈ engine.visits.map (·.node) := List.mem_map.mpr ⟨visit, member, rfl⟩
    have settled := known_settleAll ({ later with
      rules := (engine.stopObserving.applyEach engine.rules).2.1 } : Engine σ) selected
    rw [known, (finish_fields _).1, ← known, settled]
    exact passing.known member

/-! The next pass. -/

/-- A visit to a protected element by a rule that is known for it does nothing. -/
theorem visit_again {engine : Engine σ} {n : NodeId} {rule : Rule} (guarded : engine.guards n = true)
    (recorded : rule ∈ engine.known n) : engine.visit rule n = (engine, .ok ()) := by
  rw [visit_of_guards guarded]
  unfold known at recorded
  unfold Engine.recorded
  cases found : Affected.find? n engine.affected with
  | none => simp [found] at recorded
  | some a =>
    rw [found, Option.map_some, Option.getD_some] at recorded
    rw [Affected.touch_of_known found recorded]

/-- Every element that a rule finds is protected, and the rule is known for it. -/
def HasVisited (engine : Engine σ) (rule : Rule) : Prop :=
  ∀ n ∈ engine.finds rule, engine.guards n = true ∧ rule ∈ engine.known n

theorem applyToNodes_again {engine : Engine σ} {rule : Rule} {nodes : List NodeId}
    (visited : ∀ n ∈ nodes, engine.guards n = true ∧ rule ∈ engine.known n) :
    engine.applyToNodes rule nodes = (engine, .ok ()) := by
  induction nodes with
  | nil => rfl
  | cons n rest ih =>
    obtain ⟨⟨guarded, recorded⟩, others⟩ := List.forall_mem_cons.mp visited
    rw [applyToNodes_cons, visit_again guarded recorded]
    exact ih others

/-- Rules that have visited all that they find only log messages. -/
theorem applyEach_again (engine : Engine σ) {states : List RuleState}
    (visited : ∀ state ∈ states, engine.HasVisited state.rule) :
    ∃ log rules, engine.applyEach states =
      ({ engine with log }, rules, .ok (states.flatMap fun state => engine.finds state.rule)) := by
  induction states generalizing engine with
  | nil => exact ⟨engine.log, [], rfl⟩
  | cons state rest ih =>
    obtain ⟨here, others⟩ := List.forall_mem_cons.mp visited
    obtain ⟨log, chosen⟩ := selectNodes_eq engine state.rule
    have same (rule : Rule) : ({ engine with log } : Engine σ).finds rule = engine.finds rule := rfl
    have nothing : ({ engine with log } : Engine σ).applyToNodes state.rule (engine.finds state.rule) =
        ({ engine with log }, .ok ()) := applyToNodes_again here
    obtain ⟨log, rules, applied⟩ := ih { engine with log } fun other member n found =>
      others other member n (same other.rule ▸ found)
    rw [applyEach_cons, chosen]
    simp only [nothing, applied, same]
    exact ⟨_, _, rfl⟩

/-- Entries of selected elements that are protected are settled already. -/
theorem settleAll_again (engine : Engine σ) {selected : List NodeId}
    (kept : ∀ a ∈ engine.affected, a.node ∈ selected ∧ a.protection.isSome = true) :
    engine.settleAll selected = engine := by
  have entries : ∀ entries : List Affected,
      (∀ a ∈ entries, a.node ∈ selected ∧ a.protection.isSome = true) →
      entries.foldr (settle selected) { engine with affected := [] } = { engine with affected := entries } := by
    intro entries kept
    induction entries with
    | nil => rfl
    | cons a rest ih =>
      obtain ⟨⟨stays, guarded⟩, others⟩ := List.forall_mem_cons.mp kept
      have free : a.protection.isNone = false := by simpa [← Option.not_isSome] using guarded
      rw [List.foldr_cons, ih others, settle, if_neg (by simpa using stays), free, Bool.and_false,
        if_neg Bool.false_ne_true]
  exact entries engine.affected kept

/-- A pass that finds everything done changes nothing but the records of the rules, and logs. -/
theorem pass_again (engine : Engine σ) (quiet : engine.page.mutations = [])
    (reported : engine.timingsReported = true) (visited : ∀ state ∈ engine.rules, engine.HasVisited state.rule)
    (kept : ∀ a ∈ engine.affected,
      (∃ state ∈ engine.rules, a.node ∈ engine.finds state.rule) ∧ a.protection.isSome = true) :
    ∃ rules log, rules.map (·.rule) = engine.rules.map (·.rule) ∧
      engine.pass = ({ engine with rules, observedSince := some engine.page.now, log }, .ok ()) := by
  have same (rule : Rule) : engine.stopObserving.finds rule = engine.finds rule := rfl
  have watched : ∀ state ∈ engine.rules, engine.stopObserving.HasVisited state.rule :=
    fun state member n found => visited state member n (same state.rule ▸ found)
  obtain ⟨log, rules, applied⟩ := applyEach_again engine.stopObserving watched
  have selected : ∀ a ∈ engine.affected,
      a.node ∈ engine.rules.flatMap (fun state => engine.stopObserving.finds state.rule) ∧
        a.protection.isSome = true := by
    intro a member
    obtain ⟨⟨state, known, found⟩, guarded⟩ := kept a member
    exact ⟨List.mem_flatMap.mpr ⟨state, known, (same state.rule).symm ▸ found⟩, guarded⟩
  have settled := settleAll_again { engine.stopObserving with log, rules } selected
  have own := map_rule_applyEach engine.stopObserving engine.rules
  rw [applied] at own
  refine ⟨rules, log, own, ?_⟩
  unfold pass
  rw [applied]
  simp only []
  rw [settled]
  obtain ⟨page, _⟩ := engine
  obtain ⟨tree, mutations⟩ := page
  simp only at quiet reported
  subst quiet reported
  simp [dropOwnMutations, Page.takeMutations, observe, stopObserving, write, reportTimings]

/-- The state after a pass that succeeds is a fixed point of `apply`, if no entry is marked as removed and every
rule finds on the page that is left what it found in the pass. Another pass at the same time succeeds; the page,
the affected list and the number of the next protection stay as they are, and so does the state of the hook,
whatever the hook is: it is not called. -/
theorem apply_again {engine done : Engine σ} (passed : engine.pass = (done, .ok ()))
    (present : ∀ a ∈ done.affected, a.removed = false)
    (same : done.rules.map (fun state => (state.rule, done.finds state.rule)) =
      engine.stopObserving.findings engine.rules)
    (hook : Option (Hook σ)) (awaitsReady : Bool) :
    ∃ rules log, rules.map (·.rule) = done.rules.map (·.rule) ∧
      ({ done with hook, awaitsReady } : Engine σ).apply =
        ({ done with
            hook, rules, log
            awaitsReady := awaitsReady || !done.page.ready
            observedSince := some done.page.now }, .ok ()) := by
  obtain ⟨quiet, reported⟩ := finished_of_passed passed
  have visits : engine.visits.map (fun visit => (visit.rule, visit.node)) =
      done.rules.flatMap fun state => (done.finds state.rule).map (state.rule, ·) := by
    obtain ⟨later, after, selected, applied⟩ := exists_applied_of_passed passed
    rw [Engine.visits, map_visitsOf applied, ← same, List.flatMap_map]
  have visited : ∀ state ∈ done.rules, done.HasVisited state.rule := by
    intro state known n found
    have member : (state.rule, n) ∈ engine.visits.map fun visit => (visit.rule, visit.node) := by
      rw [visits]
      exact List.mem_flatMap.mpr ⟨state, known, List.mem_map.mpr ⟨n, found, rfl⟩⟩
    obtain ⟨visit, member, is⟩ := List.mem_map.mp member
    obtain ⟨rule, here⟩ := Prod.mk.inj is
    rw [← rule, ← here]
    exact visited_of_passed passed present member
  have kept : ∀ a ∈ done.affected,
      (∃ state ∈ done.rules, a.node ∈ done.finds state.rule) ∧ a.protection.isSome = true := by
    intro a member
    obtain ⟨affected, guarded⟩ := affected_of_passed passed
    refine ⟨?_, guarded a member (present a member)⟩
    obtain ⟨rule, visit, went, _, here⟩ := (affected a.node).mp (List.mem_map.mpr ⟨a, member, rfl⟩)
    have pair : (visit.rule, visit.node) ∈ engine.visits.map fun visit => (visit.rule, visit.node) :=
      List.mem_map.mpr ⟨visit, went, rfl⟩
    rw [visits] at pair
    obtain ⟨state, known, found⟩ := List.mem_flatMap.mp pair
    obtain ⟨n, found, is⟩ := List.mem_map.mp found
    obtain ⟨_, rfl⟩ := Prod.mk.inj is
    exact ⟨state, known, here ▸ found⟩
  obtain ⟨rules, log, own, again⟩ := pass_again { done with hook, awaitsReady } quiet reported visited kept
  refine ⟨rules, log, own, ?_⟩
  unfold apply
  rw [again]
  cases ready : done.page.ready <;> simp [ready]

/-- Two rules select the paragraph, and the selector of another fails. -/
def overlapping : Engine Unit :=
  ranOn "<p class='a'></p>" { rules := some ["p { top: 0 }", "p:not(b > > i) { left: 0 }", ".a { top: 1px }"] } []

/-- A hook that gives nothing would make the pass fail if it were called. -/
theorem apply_again_overlapping :
    overlapping.pass.2 = .ok () ∧
      ∃ rules log, rules.map (·.rule) = overlapping.pass.1.rules.map (·.rule) ∧
        ({ overlapping.pass.1 with hook := some fun _ _ => (none, ()), awaitsReady := false } : Engine Unit).apply =
          ({ overlapping.pass.1 with
              hook := some fun _ _ => (none, ())
              rules, log
              awaitsReady := !overlapping.pass.1.page.ready
              observedSince := some overlapping.pass.1.page.now }, .ok ()) := by
  have holds : overlapping.pass.2 = .ok () ∧ (∀ a ∈ overlapping.pass.1.affected, a.removed = false) ∧
      overlapping.pass.1.rules.map (fun state => (state.rule, overlapping.pass.1.finds state.rule)) =
        overlapping.stopObserving.findings overlapping.rules := by decide +kernel
  obtain ⟨passes, present, same⟩ := holds
  exact ⟨passes, apply_again (Prod.ext rfl passes) present same _ false⟩

end Engine

end CosmeticRules
