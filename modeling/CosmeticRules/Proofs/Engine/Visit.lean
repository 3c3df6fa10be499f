import CosmeticRules.Proofs.Engine.Reachable

/-!
What a pass does, visit by visit: it goes through the rules, and each rule visits the elements that it
selects. A visit records the rule for the element and applies what is recorded.
-/

namespace CosmeticRules.Engine

variable {σ : Type}

/-- Records that a rule selects an element, and applies all its rules to the element. -/
def visit (engine : Engine σ) (rule : Rule) (n : NodeId) : Engine σ × Except EngineError Unit :=
  { engine with affected := Affected.touch n rule (engine.page.styleText n) engine.affected }.styleAffected n

/-- A visit of a rule to an element that it selects, with the engine just before it. -/
structure Visit (σ : Type) where
  engine : Engine σ
  rule : Rule
  node : NodeId

/-- Whether the pass goes on after a visit. -/
def Visit.Succeeds (visit : Visit σ) : Prop := (visit.engine.visit visit.rule visit.node).2 = .ok ()

/-- The visits of a rule to some elements, up to the first that fails. -/
def visitsTo (engine : Engine σ) (rule : Rule) : List NodeId → List (Visit σ)
  | [] => []
  | n :: rest =>
    ⟨engine, rule, n⟩ ::
      match engine.visit rule n with
      | (later, .ok ()) => later.visitsTo rule rest
      | (_, .error _) => []

/-- The visits of some rules to the elements that each selects when its turn comes. -/
def visitsOf (engine : Engine σ) : List RuleState → List (Visit σ)
  | [] => []
  | state :: rest =>
    let (engine, nodes) := engine.selectNodes state.rule
    engine.visitsTo state.rule nodes ++
      match engine.applyToNodes state.rule nodes with
      | (later, .ok ()) => later.visitsOf rest
      | (_, .error _) => []

/-- The visits of the pass that begins here. -/
def visits (engine : Engine σ) : List (Visit σ) := engine.stopObserving.visitsOf engine.rules

/-- Whether a rule selects an element in the pass that begins here. -/
def Selects (engine : Engine σ) (rule : Rule) (n : NodeId) : Prop :=
  ∃ visit ∈ engine.visits, visit.rule = rule ∧ visit.node = n

/-- The part of a pass in which the rules are applied: visits, with messages logged between them. -/
inductive Passing : Engine σ → List (Visit σ) → Engine σ → Prop
  | done {engine} : Passing engine [] engine
  | noted {engine later visits} (entries : List LogEntry)
      (rest : Passing (engine.write entries) visits later) : Passing engine visits later
  | visited {engine later visits} (rule : Rule) (n : NodeId)
      (rest : Passing (engine.visit rule n).1 visits later) :
      Passing engine (⟨engine, rule, n⟩ :: visits) later

theorem Passing.trans {engine middle later : Engine σ} {visits more : List (Visit σ)}
    (first : Passing engine visits middle) (second : Passing middle more later) :
    Passing engine (visits ++ more) later := by
  induction first with
  | done => exact second
  | noted entries _ ih => exact .noted entries (ih second)
  | visited rule n _ ih => exact .visited rule n (ih second)

/-- A pass can be cut at any of its visits. -/
theorem Passing.cut {engine later : Engine σ} {visits : List (Visit σ)}
    (passing : Passing engine visits later) {visit : Visit σ} (member : visit ∈ visits) :
    ∃ before after, visits = before ++ visit :: after ∧ Passing engine before visit.engine ∧
      Passing (visit.engine.visit visit.rule visit.node).1 after later := by
  induction passing with
  | done => simp at member
  | noted entries _ ih =>
    obtain ⟨before, after, split, first, second⟩ := ih member
    exact ⟨before, after, split, .noted entries first, second⟩
  | @visited engine later visits rule n rest ih =>
    rcases List.mem_cons.mp member with rfl | member
    · exact ⟨[], visits, rfl, .done, rest⟩
    · obtain ⟨before, after, split, first, second⟩ := ih member
      exact ⟨⟨engine, rule, n⟩ :: before, after, by rw [split]; rfl, .visited rule n first, second⟩

theorem applyToNodes_cons (engine : Engine σ) (rule : Rule) (n : NodeId) (rest : List NodeId) :
    engine.applyToNodes rule (n :: rest) =
      match engine.visit rule n with
      | (later, .error e) => (later, .error e)
      | (later, .ok ()) => later.applyToNodes rule rest := rfl

theorem passing_visitsTo (engine : Engine σ) (rule : Rule) (nodes : List NodeId) :
    Passing engine (engine.visitsTo rule nodes) (engine.applyToNodes rule nodes).1 := by
  induction nodes generalizing engine with
  | nil => exact .done
  | cons n rest ih =>
    rw [applyToNodes_cons, visitsTo]
    refine .visited rule n ?_
    split
    · rename_i later same
      simp only [same]
      exact ih later
    · rename_i later e same
      simp only [same]
      exact .done

theorem passing_selectNodes (engine : Engine σ) (rule : Rule) :
    Passing engine [] (engine.selectNodes rule).1 := by
  unfold selectNodes
  simp only []
  split
  · exact .noted _ .done
  · split
    · exact .noted _ (.noted _ .done)
    · exact .noted _ .done

theorem visitsOf_cons (engine : Engine σ) (state : RuleState) (rest : List RuleState) :
    engine.visitsOf (state :: rest) =
      (engine.selectNodes state.rule).1.visitsTo state.rule (engine.selectNodes state.rule).2 ++
        match (engine.selectNodes state.rule).1.applyToNodes state.rule
          (engine.selectNodes state.rule).2 with
        | (later, .ok ()) => later.visitsOf rest
        | (_, .error _) => [] := rfl

theorem applyEach_cons (engine : Engine σ) (state : RuleState) (rest : List RuleState) :
    engine.applyEach (state :: rest) =
      match (engine.selectNodes state.rule).1.applyToNodes state.rule
        (engine.selectNodes state.rule).2 with
      | (later, .error e) => (later, state :: rest, .error e)
      | (later, .ok ()) =>
        ((later.applyEach rest).1,
          state.applied (later.applyEach rest).1.debug (engine.selectNodes state.rule).2 ::
            (later.applyEach rest).2.1,
          (later.applyEach rest).2.2.map ((engine.selectNodes state.rule).2 ++ ·)) := rfl

theorem passing_visitsOf (engine : Engine σ) (states : List RuleState) :
    Passing engine (engine.visitsOf states) (engine.applyEach states).1 := by
  induction states generalizing engine with
  | nil => exact .done
  | cons state rest ih =>
    have chosen := passing_selectNodes engine state.rule
    have applied := passing_visitsTo (engine.selectNodes state.rule).1 state.rule
      (engine.selectNodes state.rule).2
    rw [visitsOf_cons, applyEach_cons]
    cases same : (engine.selectNodes state.rule).1.applyToNodes state.rule
        (engine.selectNodes state.rule).2 with
    | mk later result =>
      rw [same] at applied
      cases result with
      | ok => exact chosen.trans (applied.trans (ih later))
      | error e => exact chosen.trans (applied.trans .done)

/-- The visits of a pass lead from its beginning to the state in which its entries are settled. -/
theorem passing_visits (engine : Engine σ) :
    Passing engine.stopObserving engine.visits (engine.stopObserving.applyEach engine.rules).1 :=
  passing_visitsOf _ _

theorem visitsTo_of_ok {engine later : Engine σ} {rule : Rule} {nodes : List NodeId}
    (applied : engine.applyToNodes rule nodes = (later, .ok ())) :
    (engine.visitsTo rule nodes).map (·.node) = nodes ∧
      ∀ visit ∈ engine.visitsTo rule nodes, visit.Succeeds ∧ visit.rule = rule := by
  induction nodes generalizing engine with
  | nil => simp [visitsTo]
  | cons n rest ih =>
    rw [applyToNodes_cons] at applied
    rw [visitsTo]
    split at applied
    · simp at applied
    · rename_i between same
      obtain ⟨nodes, succeed⟩ := ih applied
      simp only [same, List.map_cons, nodes, true_and]
      intro visit member
      rcases List.mem_cons.mp member with rfl | member
      · exact ⟨by simp only [Visit.Succeeds, same], rfl⟩
      · exact succeed visit member

theorem visitsOf_of_ok {engine later : Engine σ} {states after : List RuleState}
    {selected : List NodeId} (applied : engine.applyEach states = (later, after, .ok selected)) :
    (engine.visitsOf states).map (·.node) = selected ∧
      ∀ visit ∈ engine.visitsOf states, visit.Succeeds := by
  induction states generalizing engine later after selected with
  | nil =>
    simp only [applyEach, Prod.mk.injEq, Except.ok.injEq] at applied
    simp [visitsOf, applied.2.2]
  | cons state rest ih =>
    rw [applyEach] at applied
    rw [visitsOf]
    simp only [] at applied ⊢
    split at applied
    · simp at applied
    · rename_i between same
      obtain ⟨nodes, succeed⟩ := visitsTo_of_ok same
      cases remaining : between.applyEach rest with
      | mk last pair =>
        obtain ⟨states, result⟩ := pair
        rw [remaining] at applied
        cases result with
        | error e => simp [Except.map] at applied
        | ok others =>
          simp only [Except.map, Prod.mk.injEq, Except.ok.injEq] at applied
          obtain ⟨_, _, rfl⟩ := applied
          obtain ⟨more, follow⟩ := ih remaining
          simp only [same, List.map_append, nodes, more, true_and]
          intro visit member
          rcases List.mem_append.mp member with first | second
          · exact (succeed visit first).1
          · exact follow visit second

theorem map_rule_applyEach (engine : Engine σ) (states : List RuleState) :
    (engine.applyEach states).2.1.map (·.rule) = states.map (·.rule) := by
  induction states generalizing engine with
  | nil => rfl
  | cons state rest ih =>
    rw [applyEach]
    simp only []
    split
    · rfl
    · rename_i later _
      simp only [List.map_cons, ih later]
      rfl

theorem visitsTo_rule {engine : Engine σ} {rule : Rule} {nodes : List NodeId} {visit : Visit σ}
    (member : visit ∈ engine.visitsTo rule nodes) : visit.rule = rule := by
  induction nodes generalizing engine with
  | nil => simp [visitsTo] at member
  | cons n rest ih =>
    rw [visitsTo] at member
    rcases List.mem_cons.mp member with rfl | member
    · rfl
    · split at member
      · exact ih member
      · simp at member

/-- Only the rules of the engine visit elements. -/
theorem visitsOf_rule {engine : Engine σ} {states : List RuleState} {visit : Visit σ}
    (member : visit ∈ engine.visitsOf states) : visit.rule ∈ states.map (·.rule) := by
  induction states generalizing engine with
  | nil => simp [visitsOf] at member
  | cons state rest ih =>
    rw [visitsOf] at member
    simp only [] at member
    rw [List.map_cons, List.mem_cons]
    rcases List.mem_append.mp member with first | second
    · exact Or.inl (visitsTo_rule first)
    · split at second
      · exact Or.inr (ih second)
      · simp at second

theorem visits_rule {engine : Engine σ} {visit : Visit σ} (member : visit ∈ engine.visits) :
    visit.rule ∈ engine.rules.map (·.rule) :=
  visitsOf_rule member

/-- A pass that succeeds ends in the state after its visits, settled. -/
theorem pass_eq_of_ok {engine done : Engine σ} (passed : engine.pass = (done, .ok ())) :
    ∃ later, Passing engine.stopObserving engine.visits later ∧
      (∀ visit ∈ engine.visits, visit.Succeeds) ∧
      done = ((({ later with
        rules := (engine.stopObserving.applyEach engine.rules).2.1 } : Engine σ).settleAll
          (engine.visits.map (·.node))).dropOwnMutations.observe.reportTimings) := by
  have passing := passing_visits engine
  unfold pass at passed
  cases ran : engine.stopObserving.applyEach engine.rules with
  | mk later pair =>
    obtain ⟨states, result⟩ := pair
    rw [ran] at passed passing
    cases result with
    | error e => simp at passed
    | ok selected =>
      obtain ⟨nodes, succeed⟩ := visitsOf_of_ok ran
      simp only [Prod.mk.injEq, and_true] at passed
      refine ⟨later, passing, succeed, ?_⟩
      rw [← passed, ← nodes]
      rfl

/-- A pass that fails ends in the state after its last visit. -/
theorem pass_eq_of_error {engine done : Engine σ} {e : EngineError}
    (failed : engine.pass = (done, .error e)) :
    ∃ later, Passing engine.stopObserving engine.visits later ∧
      done = { later with rules := (engine.stopObserving.applyEach engine.rules).2.1 } := by
  have passing := passing_visits engine
  unfold pass at failed
  cases ran : engine.stopObserving.applyEach engine.rules with
  | mk later pair =>
    obtain ⟨states, result⟩ := pair
    rw [ran] at failed passing
    cases result with
    | error e =>
      simp only [Prod.mk.injEq] at failed
      exact ⟨later, passing, failed.1.symm⟩
    | ok selected => simp at failed

/-- What visits leave alone. -/
structure Steady (before after : Engine σ) : Prop where
  rules : after.rules = before.rules
  hook : after.hook = before.hook
  debug : after.debug = before.debug
  source : after.source = before.source
  throttle : after.throttle = before.throttle
  nextProtection : after.nextProtection = before.nextProtection

namespace Steady

theorem refl (engine : Engine σ) : Steady engine engine := ⟨rfl, rfl, rfl, rfl, rfl, rfl⟩

theorem trans {a b c : Engine σ} (first : Steady a b) (second : Steady b c) : Steady a c where
  rules := second.rules.trans first.rules
  hook := second.hook.trans first.hook
  debug := second.debug.trans first.debug
  source := second.source.trans first.source
  throttle := second.throttle.trans first.throttle
  nextProtection := second.nextProtection.trans first.nextProtection

end Steady

theorem steady_removeAffected (engine : Engine σ) (n : NodeId) :
    Steady engine (engine.removeAffected n) := by
  unfold removeAffected
  simp only []
  split
  · exact ⟨rfl, rfl, rfl, rfl, rfl, rfl⟩
  · split <;> exact ⟨rfl, rfl, rfl, rfl, rfl, rfl⟩

theorem steady_applyRules (engine : Engine σ) (n target : NodeId) (rules : List Rule) :
    Steady engine (engine.applyRules n target rules).1 := by
  induction rules generalizing engine with
  | nil => exact .refl engine
  | cons rule rest ih =>
    unfold applyRules
    split
    · split
      · exact steady_removeAffected engine n
      · refine .trans ?_ (ih _)
        exact ⟨rfl, rfl, rfl, rfl, rfl, rfl⟩
    · split
      · exact .refl engine
      · exact ih engine

theorem callHook_fields (engine : Engine σ) (target : StyleTarget) :
    ∃ hookState, (engine.callHook target).1 = { engine with hookState } := by
  unfold callHook
  split
  · exact ⟨engine.hookState, rfl⟩
  · exact ⟨_, rfl⟩

theorem steady_styleAffected (engine : Engine σ) (n : NodeId) :
    Steady engine (engine.styleAffected n).1 := by
  unfold styleAffected
  split
  · exact .refl engine
  · rename_i a _
    split
    · exact .refl engine
    · obtain ⟨hookState, called⟩ := callHook_fields engine ⟨n, a.rules⟩
      split <;> rename_i same <;> rw [same] at called <;> obtain rfl := called
      · exact ⟨rfl, rfl, rfl, rfl, rfl, rfl⟩
      · refine .trans ?_ (steady_applyRules _ _ _ _)
        exact ⟨rfl, rfl, rfl, rfl, rfl, rfl⟩

theorem steady_visit (engine : Engine σ) (rule : Rule) (n : NodeId) :
    Steady engine (engine.visit rule n).1 := by
  refine .trans ?_ (steady_styleAffected _ n)
  exact ⟨rfl, rfl, rfl, rfl, rfl, rfl⟩

theorem Passing.steady {engine later : Engine σ} {visits : List (Visit σ)}
    (passing : Passing engine visits later) : Steady engine later := by
  induction passing with
  | done => exact .refl _
  | noted entries _ ih =>
    refine .trans ?_ ih
    exact ⟨rfl, rfl, rfl, rfl, rfl, rfl⟩
  | visited rule n _ ih => exact (steady_visit _ rule n).trans ih

end CosmeticRules.Engine
