import CosmeticRules.Proofs.Engine.Passes
import CosmeticRules.Proofs.Engine.ShownText
import CosmeticRules.Proofs.Rule.Declared

/-!
Why passes fail. Without a hook there is one reason only: a rule of which nothing is left when `debug` has been
taken out, and whose debug mode is not known, has selected an element that is not protected.
-/

namespace CosmeticRules

theorem eq_error_of_map {ε α β : Type} {x : Except ε α} {f : α → β} {e : ε} (same : x.map f = .error e) :
    x = .error e := by
  cases x with
  | error other =>
    have same : Except.error (α := β) other = .error e := same
    rw [Except.error.inj same]
  | ok a =>
    have same : Except.ok (f a) = .error e := same
    cases same

theorem Rule.mem_of_mem_record {rules : List Rule} {rule other : Rule} (member : other ∈ record rules rule) :
    other ∈ rules ∨ other = rule := by
  unfold record at member
  split at member
  · exact Or.inl member
  · simpa using member

namespace Engine

variable {σ : Type} {engine : Engine σ} {e : EngineError}

/-- A list of rules fails at one that has neither a style nor a debug mode. -/
theorem applyRules_of_error {n target : NodeId} {rules : List Rule}
    (failed : (engine.applyRules n target rules).2 = .error e) :
    ∃ rule ∈ rules, rule.style = none ∧ rule.debug = none ∧ e = .noStyle rule.selector := by
  induction rules generalizing engine with
  | nil => simp [applyRules] at failed
  | cons rule rest ih =>
    rw [applyRules] at failed
    split at failed
    · split at failed
      · simp at failed
      · obtain ⟨other, member, culprit⟩ := ih failed
        exact ⟨other, List.mem_cons_of_mem _ member, culprit⟩
    · rename_i styleless
      split at failed
      · rename_i modeless
        exact ⟨rule, List.mem_cons_self, styleless, Option.isNone_iff_eq_none.mp modeless,
          (Except.error.inj failed).symm⟩
      · obtain ⟨other, member, culprit⟩ := ih failed
        exact ⟨other, List.mem_cons_of_mem _ member, culprit⟩

theorem visitsTo_of_error {rule : Rule} {nodes : List NodeId}
    (failed : (engine.applyToNodes rule nodes).2 = .error e) :
    ∃ visit ∈ engine.visitsTo rule nodes,
      (visit.engine.visit visit.rule visit.node).2 = .error e := by
  induction nodes generalizing engine with
  | nil => simp [applyToNodes] at failed
  | cons n rest ih =>
    rw [applyToNodes_cons] at failed
    rw [visitsTo]
    cases ran : engine.visit rule n with
    | mk later result =>
      rw [ran] at failed
      cases result with
      | error other =>
        exact ⟨_, List.mem_cons_self, by rw [ran]; exact failed⟩
      | ok =>
        obtain ⟨visit, member, fails⟩ := ih failed
        exact ⟨visit, List.mem_cons_of_mem _ member, fails⟩

theorem visitsOf_of_error {states : List RuleState}
    (failed : (engine.applyEach states).2.2 = .error e) :
    ∃ visit ∈ engine.visitsOf states, (visit.engine.visit visit.rule visit.node).2 = .error e := by
  induction states generalizing engine with
  | nil => simp [applyEach] at failed
  | cons state rest ih =>
    rw [applyEach_cons] at failed
    rw [visitsOf_cons]
    cases ran : (engine.selectNodes state.rule).1.applyToNodes state.rule (engine.selectNodes state.rule).2 with
    | mk later result =>
      rw [ran] at failed
      cases result with
      | error other =>
        have failed : Except.error (α := List NodeId) other = .error e := failed
        obtain rfl := Except.error.inj failed
        obtain ⟨visit, member, fails⟩ := visitsTo_of_error (congrArg Prod.snd ran)
        exact ⟨visit, List.mem_append_left _ member, fails⟩
      | ok =>
        obtain ⟨visit, member, fails⟩ := ih (eq_error_of_map failed)
        exact ⟨visit, List.mem_append_right _ member, fails⟩

/-- A pass that fails does so in one of its visits. -/
theorem visit_of_failed (failed : engine.pass.2 = .error e) :
    ∃ visit ∈ engine.visits, (visit.engine.visit visit.rule visit.node).2 = .error e := by
  refine visitsOf_of_error ?_
  unfold pass at failed
  cases ran : engine.stopObserving.applyEach engine.rules with
  | mk later pair =>
    obtain ⟨states, result⟩ := pair
    rw [ran] at failed
    cases result with
    | error other => exact congrArg Except.error (Except.error.inj failed)
    | ok selected => simp at failed

/-- A visit without a hook fails at a rule that is known for its element by then. -/
theorem visit_of_error (hookless : engine.hook = none) {rule : Rule} {n : NodeId}
    (failed : (engine.visit rule n).2 = .error e) :
    ∃ other, (other ∈ engine.known n ∨ other = rule) ∧ other.style = none ∧ other.debug = none ∧
      e = .noStyle other.selector := by
  cases guarded : engine.guards n with
  | true => simp [visit_of_guards guarded] at failed
  | false =>
    rw [visit_of_free hookless guarded] at failed
    obtain ⟨other, member, culprit⟩ := applyRules_of_error failed
    exact ⟨other, Rule.mem_of_mem_record member, culprit⟩

/-- An engine keeps the rules of its configuration. -/
theorem kept_readRules (configuration : Configuration σ) :
    Kept fun engine : Engine σ => configuration.readRules.result = .ok (engine.rules.map (·.rule)) where
  page := fun read _ => read
  source := fun read _ => read
  throttle := fun read _ => read
  awaitsReady := fun read _ => read
  log := fun read _ => read
  protectNode := by
    intro engine read n
    unfold protectNode
    split
    · exact read
    · split <;> exact read
  pass := by
    intro engine read
    rw [map_rule_pass]
    exact read
  dispose := fun read => read

theorem readRules_of_made {page : Page} {configuration : Configuration σ} {hookState : σ}
    (made : (ofPage page configuration hookState).result = .ok engine) :
    configuration.readRules.result = .ok (engine.rules.map (·.rule)) := by
  obtain ⟨rules, read, rfl⟩ := engine_of_made made
  rw [read, List.map_map]
  exact congrArg Except.ok (List.map_id rules).symm

theorem hook_of_made {page : Page} {configuration : Configuration σ} {hookState : σ}
    (made : (ofPage page configuration hookState).result = .ok engine) : engine.hook = configuration.hook := by
  obtain ⟨rules, _, rfl⟩ := engine_of_made made
  rfl

/-- A pass without a hook fails at one of the rules of the engine. -/
theorem pass_of_error (sound : engine.AffectedSound) (hookless : engine.hook = none)
    (failed : engine.pass.2 = .error e) :
    ∃ rule ∈ engine.rules.map (·.rule), rule.style = none ∧ rule.debug = none ∧
      e = .noStyle rule.selector := by
  obtain ⟨visit, member, fails⟩ := visit_of_failed failed
  obtain ⟨before, after, split, first, _⟩ := (passing_visits engine).cut member
  have own : ∀ visit ∈ before, visit.rule ∈ engine.rules.map (·.rule) := by
    intro earlier listed
    exact visits_rule (split ▸ List.mem_append_left _ listed)
  have entries : Affected.AllSound (engine.rules.map (·.rule)) engine.nextProtection visit.engine.affected :=
    first.allSound own sound
  have hookless : visit.engine.hook = none := first.steady.hook.trans hookless
  obtain ⟨rule, known, styleless, modeless, same⟩ := visit_of_error hookless fails
  refine ⟨rule, ?_, styleless, modeless, same⟩
  rcases known with listed | rfl
  · unfold known at listed
    cases found : Affected.find? visit.node visit.engine.affected with
    | none => simp [found] at listed
    | some a =>
      rw [found] at listed
      exact (entries.entry a (Affected.mem_of_find? found)).rules_own rule listed
  · exact visits_rule member

section run

variable {page : Page} {configuration : Configuration σ} {hookState : σ}

/-- In a run without a hook a pass fails only at a rule of the configuration of which nothing is left. -/
theorem PassBegins.isVoid_of_error (begins : PassBegins page configuration hookState engine)
    (hookless : configuration.hook = none) (failed : engine.pass.2 = .error e) :
    ∃ raw ∈ configuration.rawRules, raw.IsVoid ∧ e = .noStyle raw.selector := by
  have sound := kept_affectedSound.passBegins affectedSound_ofPage begins
  have hook := (kept_hook configuration.hook).passBegins hook_of_made begins
  have read := (kept_readRules configuration).passBegins readRules_of_made begins
  obtain ⟨rule, own, styleless, modeless, same⟩ := pass_of_error sound (hook.trans hookless) failed
  rw [configuration.readRules_gives _ read] at own
  obtain ⟨raw, listed, rfl⟩ := List.mem_map.mp own
  have declares := configuration.declares_of_mem_rawRules raw listed
  exact ⟨raw, listed, raw.isVoid_of_none declares styleless modeless, same⟩

/-- Whatever is called, it fails with the error of one of its passes. -/
theorem pass_of_apply_error (failed : engine.apply.2 = .error e) : engine.pass.2 = .error e := by
  obtain ⟨_, same⟩ := apply_eq engine
  rwa [same] at failed

theorem pass_of_runPass_error {next : Option (PassStart σ)} (failed : (engine.runPass next).2 = .error e) :
    ∃ start ∈ next.toList, start.engine.pass.2 = .error e := by
  cases next with
  | none => simp [runPass] at failed
  | some start => exact ⟨start, List.mem_singleton_self start, eq_error_of_map failed⟩

theorem pass_of_pump_error (failed : engine.pump.2 = .error e) :
    ∃ start ∈ engine.passesIn .pump, start.engine.pass.2 = .error e := by
  have first := @pass_of_runPass_error σ engine.takeChanges e engine.takeChanges.duePass
  rw [← runDue_eq] at first
  show ∃ start ∈ engine.deliveredPasses, _
  unfold deliveredPasses
  unfold pump at failed
  cases ran : engine.takeChanges.runDue with
  | mk later result =>
    rw [ran] at failed first
    cases result with
    | error other =>
      obtain ⟨start, member, fails⟩ := first failed
      exact ⟨start, List.mem_append_left _ member, fails⟩
    | ok count =>
      have second := @pass_of_runPass_error σ later e later.readyPass
      rw [← runReady_eq] at second
      cases next : later.runReady with
      | mk last result =>
        simp only [next] at failed
        rw [next] at second
        cases result with
        | error other =>
          obtain ⟨start, member, fails⟩ := second failed
          exact ⟨start, List.mem_append_right _ member, fails⟩
        | ok more => simp at failed

/-- Without a hook nothing fails in a run, `apply` and `pump` included, unless a rule of the configuration declares
nothing but `debug`, and first with another value than `true` or `global`; then the error names that rule. -/
theorem failures_of_void_rules {engine : Engine σ}
    (reach : Reachable page configuration hookState engine) (hookless : configuration.hook = none)
    {e : EngineError} (failed : engine.apply.2 = .error e ∨ engine.pump.2 = .error e) :
    ∃ raw ∈ configuration.rawRules, raw.IsVoid ∧ e = .noStyle raw.selector := by
  rcases failed with applied | pumped
  · exact (PassBegins.applied reach).isVoid_of_error hookless (pass_of_apply_error applied)
  · obtain ⟨start, member, fails⟩ := pass_of_pump_error pumped
    exact (PassBegins.of_mem reach member).isVoid_of_error hookless fails

end run

/-- A configuration with a rule that declares nothing but a debug mode that there is not, before another rule. -/
def unknownMode : Configuration Unit := { rules := some ["div { debug: no }", "p { color: red }"] }

/-- The engine for a page with an element for each of the two rules. -/
def misled : Engine Unit := started (Page.ofMarkup "<div></div><p></p>") unknownMode

theorem failures_of_void_rules_misled :
    misled.apply.2 = .error (.noStyle "div") ∧
      unknownMode.rawRules.map (·.selector) = ["div", "p"] ∧
      ∃ raw ∈ unknownMode.rawRules, raw.IsVoid ∧ EngineError.noStyle "div" = .noStyle raw.selector := by
  have reach : Reachable (Page.ofMarkup "<div></div><p></p>") unknownMode () misled :=
    reachable_started (by decide +kernel)
  have failed : misled.apply.2 = .error (.noStyle "div") := by decide +kernel
  exact ⟨failed, by decide +kernel, failures_of_void_rules reach rfl (Or.inl failed)⟩

/-- The configuration is accepted, without a hook; every pass fails at the rule, and the next rule never
gets its turn. -/
theorem accepted_rule_fails :
    (ofPage (Page.ofMarkup "<div></div><p></p>") unknownMode ()).result.isOk = true ∧
      unknownMode.hook = none ∧ misled.apply.2 = .error (.noStyle "div") ∧
      (misled.after .apply).apply.2 = .error (.noStyle "div") ∧
      (misled.after .apply).page.styleText ⟨2⟩ = "" := by
  have hookless : unknownMode.hook = none := rfl
  refine ⟨?_, hookless, ?_, ?_, ?_⟩ <;> decide +kernel

end Engine

end CosmeticRules
