import CosmeticRules.Proofs.Engine.AffectedList
import CosmeticRules.Proofs.Matching.NativeText

/-!
Engines that compare real texts: what scripts show in place of the texts of a page never makes a difference to
what such an engine does, nor to what its calls give.
-/

namespace CosmeticRules.Engine

variable {σ : Type}

/-- The engine on its page with these texts shown in place of the real ones. -/
def showing (engine : Engine σ) (texts : List (NodeId × String)) : Engine σ :=
  { engine with page := engine.page.showing texts }

section showing

variable (engine : Engine σ) (texts : List (NodeId × String))

@[simp] theorem page_showing : (engine.showing texts).page = engine.page.showing texts := rfl

@[simp] theorem affected_showing : (engine.showing texts).affected = engine.affected := rfl

@[simp] theorem hook_showing : (engine.showing texts).hook = engine.hook := rfl

@[simp] theorem source_showing : (engine.showing texts).source = engine.source := rfl

@[simp] theorem rules_showing : (engine.showing texts).rules = engine.rules := rfl

/-! What a pass does to an element. -/

theorem removeAffected_showing (n : NodeId) :
    (engine.showing texts).removeAffected n = (engine.removeAffected n).showing texts := by
  refine ite_eq_apply (showing · texts) (fun _ => rfl) fun _ => ?_
  refine ite_eq_apply (showing · texts) (fun _ => ?_) fun _ => rfl
  rw [page_showing, Page.removeElement_showing]
  rfl

theorem applyRules_showing (n target : NodeId) (rules : List Rule) :
    (engine.showing texts).applyRules n target rules =
      (engine.applyRules n target rules).map (showing · texts) id := by
  induction rules generalizing engine with
  | nil => rfl
  | cons rule rest ih =>
    rw [applyRules, applyRules]
    cases rule.style with
    | some style =>
      refine ite_eq_apply (Prod.map (showing · texts) id) (fun _ => ?_) fun _ => ?_
      · exact congrArg (·, _) (removeAffected_showing engine texts n)
      · rw [page_showing, Page.applyStyle_showing]
        exact ih { engine with page := engine.page.applyStyle target style }
    | none => exact ite_eq_apply (Prod.map (showing · texts) id) (fun _ => rfl) fun _ => ih engine

theorem callHook_showing (target : StyleTarget) :
    (engine.showing texts).callHook target = (engine.callHook target).map (showing · texts) id := by
  rw [callHook, callHook, hook_showing]
  cases engine.hook <;> rfl

theorem styleAffected_showing (n : NodeId) :
    (engine.showing texts).styleAffected n = (engine.styleAffected n).map (showing · texts) id := by
  rw [styleAffected, styleAffected, affected_showing]
  cases Affected.find? n engine.affected with
  | none => rfl
  | some a =>
    refine ite_eq_apply (Prod.map (showing · texts) id) (fun _ => rfl) fun _ => ?_
    rw [callHook_showing]
    obtain ⟨later, target⟩ := engine.callHook ⟨n, a.rules⟩
    cases target with
    | none => rfl
    | some target => exact applyRules_showing later texts n target.node target.rules

theorem visit_showing (rule : Rule) (n : NodeId) :
    (engine.showing texts).visit rule n = (engine.visit rule n).map (showing · texts) id :=
  styleAffected_showing
    { engine with affected := Affected.touch n rule (engine.page.styleText n) engine.affected } texts n

theorem applyToNodes_showing (rule : Rule) (nodes : List NodeId) :
    (engine.showing texts).applyToNodes rule nodes =
      (engine.applyToNodes rule nodes).map (showing · texts) id := by
  induction nodes generalizing engine with
  | nil => rfl
  | cons n rest ih =>
    rw [applyToNodes_cons, applyToNodes_cons, visit_showing]
    obtain ⟨later, result⟩ := engine.visit rule n
    cases result with
    | error e => rfl
    | ok => exact ih later

/-! The end of a pass. -/

theorem settle_showing (selected : List NodeId) (a : Affected) :
    settle selected a (engine.showing texts) = (settle selected a engine).showing texts := by
  refine ite_eq_apply (showing · texts) (fun _ => ?_) fun _ => ?_
  · rw [page_showing, revert, Page.writeStyle_showing]
    rfl
  · exact ite_eq_apply (showing · texts) (fun _ => rfl) fun _ => rfl

theorem settleAll_showing (selected : List NodeId) :
    (engine.showing texts).settleAll selected = (engine.settleAll selected).showing texts := by
  have settled : engine.affected.foldr (settle selected)
      (({ engine with affected := [] } : Engine σ).showing texts) = (engine.settleAll selected).showing texts :=
    List.foldr_hom (showing · texts) fun a engine => settle_showing engine texts selected a
  exact settled

theorem dropOwnMutations_showing :
    (engine.showing texts).dropOwnMutations = engine.dropOwnMutations.showing texts := rfl

theorem reportTimings_showing :
    (engine.showing texts).reportTimings = engine.reportTimings.showing texts :=
  ite_eq_apply (showing · texts) (fun _ => rfl) fun _ => rfl

theorem finish_showing : (engine.showing texts).dropOwnMutations.observe.reportTimings =
    engine.dropOwnMutations.observe.reportTimings.showing texts :=
  reportTimings_showing engine.dropOwnMutations.observe texts

/-! What an engine does between its passes. -/

theorem protectNode_showing (n : NodeId) :
    (engine.showing texts).protectNode n = (engine.protectNode n).showing texts := by
  rw [protectNode, protectNode, affected_showing]
  cases (Affected.find? n engine.affected).bind (·.protection) with
  | none => rfl
  | some p =>
    refine ite_eq_apply (showing · texts) (fun _ => rfl) fun _ => ?_
    rw [page_showing]
    have styled : p.styles.foldl (·.applyStyle n) (engine.page.showing texts) =
        (p.styles.foldl (·.applyStyle n) engine.page).showing texts :=
      List.foldl_hom (Page.showing · texts) fun page style => Page.applyStyle_showing page texts n style
    simp only [styled]
    rfl

theorem protectStyles_showing (records : List Mutation) :
    (engine.showing texts).protectStyles records = (engine.protectStyles records).showing texts :=
  List.foldl_hom (showing · texts) fun engine n => protectNode_showing engine texts n

theorem noteChanges_showing (records : List Mutation) :
    (engine.showing texts).noteChanges records = (engine.noteChanges records).showing texts :=
  ite_eq_apply (showing · texts) (fun _ => rfl) fun _ =>
    ite_eq_apply (showing · texts) (fun _ => rfl) fun _ => rfl

/-- What is done about changes that have been taken. -/
theorem deliver_showing (records : List Mutation) :
    (((engine.showing texts).protectStyles records).dropOwnMutations).noteChanges records =
      (((engine.protectStyles records).dropOwnMutations).noteChanges records).showing texts := by
  rw [protectStyles_showing, dropOwnMutations_showing, noteChanges_showing]

theorem takeChanges_showing :
    (engine.showing texts).takeChanges = engine.takeChanges.showing texts :=
  ite_eq_apply (showing · texts) (fun _ => rfl) fun _ =>
    deliver_showing { engine with page := engine.page.takeMutations.1 } texts engine.page.mutations

theorem dispose_showing : (engine.showing texts).dispose = engine.dispose.showing texts := by
  have reverted : engine.affected.foldl revert (engine.page.showing texts) =
      (engine.affected.foldl revert engine.page).showing texts :=
    List.foldl_hom (Page.showing · texts) fun page a =>
      Page.writeStyle_showing page texts a.node a.initialStyle
  rw [dispose, dispose, affected_showing, page_showing, reverted]
  rfl

end showing

/-! What an engine keeps of its setting. -/

theorem source_settleAll (engine : Engine σ) (selected : List NodeId) :
    (engine.settleAll selected).source = engine.source := by
  unfold settleAll
  induction engine.affected with
  | nil => rfl
  | cons a rest ih =>
    rw [List.foldr_cons, settle]
    split
    · exact ih
    · split <;> exact ih

theorem source_finish (engine : Engine σ) :
    engine.dropOwnMutations.observe.reportTimings.source = engine.source := by
  unfold reportTimings
  split <;> rfl

theorem source_pass (engine : Engine σ) : engine.pass.1.source = engine.source := by
  cases ran : engine.pass with
  | mk done result =>
    cases result with
    | error e =>
      obtain ⟨later, passing, rfl⟩ := pass_eq_of_error ran
      exact passing.steady.source
    | ok =>
      obtain ⟨later, passing, _, rfl⟩ := pass_eq_of_ok ran
      rw [source_finish, source_settleAll]
      exact passing.steady.source

theorem map_rule_pass (engine : Engine σ) : engine.pass.1.rules.map (·.rule) = engine.rules.map (·.rule) := by
  have same := map_rule_applyEach engine.stopObserving engine.rules
  cases ran : engine.pass with
  | mk done result =>
    cases result with
    | error e =>
      obtain ⟨later, _, rfl⟩ := pass_eq_of_error ran
      exact same
    | ok =>
      obtain ⟨later, _, _, rfl⟩ := pass_eq_of_ok ran
      rw [(finish_fields _).2.2.1, (settled_settleAll [] _ _).rules]
      exact same

/-- Compares real texts, by rules that compare no properties of elements. -/
structure SeesRealText (engine : Engine σ) : Prop where
  source : engine.source = .native
  free : ∀ rule ∈ engine.rules.map (·.rule), rule.tree.readsProperties = false

/-- An engine that sees real texts keeps to them in all it does. -/
theorem kept_seesRealText : KeptByEngine (SeesRealText : Engine σ → Prop) where
  throttle := fun sees _ => ⟨sees.source, sees.free⟩
  awaitsReady := fun sees _ => ⟨sees.source, sees.free⟩
  log := fun sees _ => ⟨sees.source, sees.free⟩
  taken := fun sees => ⟨sees.source, sees.free⟩
  dispose := fun sees => ⟨sees.source, sees.free⟩
  protectNode := by
    intro engine sees n
    unfold protectNode
    split
    · exact sees
    · split
      · exact sees
      · exact ⟨sees.source, sees.free⟩
  pass := fun {engine} sees => ⟨(source_pass engine).trans sees.source, map_rule_pass engine ▸ sees.free⟩

theorem SeesRealText.after {engine : Engine σ} (sees : engine.SeesRealText) (event : Event) :
    (engine.after event).SeesRealText := by
  cases event with
  | script step => exact ⟨sees.source, sees.free⟩
  | advance milliseconds => exact ⟨sees.source, sees.free⟩
  | useNativeText => exact ⟨rfl, sees.free⟩
  | apply => exact kept_seesRealText.apply sees
  | pump => exact kept_seesRealText.pump sees
  | dispose => exact kept_seesRealText.dispose sees

theorem SeesRealText.afterAll {engine : Engine σ} (sees : engine.SeesRealText) (events : List Event) :
    (engine.afterAll events).SeesRealText := by
  induction events generalizing engine with
  | nil => exact sees
  | cons event rest ih => exact ih (sees.after event)

/-! Whole passes. -/

section sees

variable {engine : Engine σ} (texts : List (NodeId × String))

theorem selectNodes_showing (native : engine.source = .native) {rule : Rule}
    (free : rule.tree.readsProperties = false) :
    (engine.showing texts).selectNodes rule = (engine.selectNodes rule).map (showing · texts) id := by
  have found := Matching.select_showing engine.page texts rule.tree free
  rw [selectNodes, selectNodes, source_showing, page_showing, native, found]
  cases (Matching.select ⟨engine.page, .native⟩ rule.tree).result with
  | ok nodes => rfl
  | error e => exact congrArg (·, _) (ite_eq_apply (showing · texts) (fun _ => rfl) fun _ => rfl)

theorem applyEach_showing (native : engine.source = .native) {states : List RuleState}
    (free : ∀ rule ∈ states.map (·.rule), rule.tree.readsProperties = false) :
    (engine.showing texts).applyEach states = (engine.applyEach states).map (showing · texts) id := by
  induction states generalizing engine with
  | nil => rfl
  | cons state rest ih =>
    obtain ⟨here, later⟩ := List.forall_mem_cons.mp free
    have chosen := passing_selectNodes engine state.rule
    have applied := passing_visitsTo (engine.selectNodes state.rule).1 state.rule
      (engine.selectNodes state.rule).2
    rw [applyEach_cons, applyEach_cons, selectNodes_showing texts native here, Prod.map_fst, Prod.map_snd, id,
      applyToNodes_showing]
    cases ran : (engine.selectNodes state.rule).1.applyToNodes state.rule (engine.selectNodes state.rule).2 with
    | mk next result =>
      rw [ran] at applied
      -- The rules that follow are asked of the engine that this one has left.
      have stays : next.source = .native := applied.steady.source.trans (chosen.steady.source.trans native)
      cases result with
      | error e => rfl
      | ok =>
        simp only [Prod.map_apply, id, ih stays later]
        rfl

theorem pass_showing (sees : engine.SeesRealText) :
    (engine.showing texts).pass = engine.pass.map (showing · texts) id := by
  have native : engine.stopObserving.source = .native := sees.source
  have applied := applyEach_showing texts native sees.free
  have begun : (engine.showing texts).stopObserving = engine.stopObserving.showing texts := rfl
  rw [pass, pass, begun, rules_showing, applied]
  obtain ⟨later, rules, result⟩ := engine.stopObserving.applyEach engine.rules
  cases result with
  | error e => rfl
  | ok selected =>
    have settled := settleAll_showing { later with rules } texts selected
    have finished := congrArg (fun later => later.dropOwnMutations.observe.reportTimings) settled
    exact congrArg (·, Except.ok ()) (finished.trans (finish_showing _ texts))

theorem apply_showing (sees : engine.SeesRealText) :
    (engine.showing texts).apply = engine.apply.map (showing · texts) id := by
  rw [apply, apply, pass_showing texts sees]
  obtain ⟨later, result⟩ := engine.pass
  cases result with
  | error e => rfl
  | ok => exact congrArg (·, _) (ite_eq_apply (showing · texts) (fun _ => rfl) fun _ => rfl)

theorem runDue_showing (sees : engine.SeesRealText) :
    (engine.showing texts).runDue = engine.runDue.map (showing · texts) id := by
  refine ite_eq_apply (Prod.map (showing · texts) id) (fun _ => ?_) fun _ => rfl
  have begun : (engine.showing texts).startDue = engine.startDue.showing texts := rfl
  rw [begun, pass_showing texts (kept_seesRealText.startDue sees)]
  obtain ⟨later, result⟩ := engine.startDue.pass
  cases result <;> rfl

theorem runReady_showing (sees : engine.SeesRealText) :
    (engine.showing texts).runReady = engine.runReady.map (showing · texts) id := by
  refine ite_eq_apply (Prod.map (showing · texts) id) (fun _ => ?_) fun _ => rfl
  have begun : (engine.showing texts).startReady = engine.startReady.showing texts := rfl
  rw [begun, pass_showing texts (kept_seesRealText.startReady sees)]
  obtain ⟨later, result⟩ := engine.startReady.pass
  cases result <;> rfl

theorem pump_showing (sees : engine.SeesRealText) :
    (engine.showing texts).pump = engine.pump.map (showing · texts) id := by
  have taken := kept_seesRealText.takeChanges sees
  have kept := kept_seesRealText.runDue taken
  rw [pump, pump, takeChanges_showing, runDue_showing texts taken]
  cases ran : engine.takeChanges.runDue with
  | mk later result =>
    rw [ran] at kept
    cases result with
    | error e => rfl
    | ok due =>
      simp only [Prod.map_apply, id, runReady_showing texts kept]
      obtain ⟨last, result⟩ := later.runReady
      cases result <;> rfl

/-! Runs. -/

/-- Whether an event only shows another text for an element. -/
def Event.showsText : Event → Bool
  | .script (.overrideText _ _) => true
  | _ => false

/-- Any other event makes the same of an engine, whatever texts are shown. -/
theorem after_showing (sees : engine.SeesRealText) {event : Event} (other : event.showsText = false) :
    (engine.showing texts).after event = (engine.after event).showing texts := by
  cases event with
  | script step =>
    have plain : ∀ n text, step ≠ .overrideText n text := by
      rintro n text rfl
      exact Bool.noConfusion other
    rw [after, page_showing, Page.script_showing engine.page texts step plain]
    rfl
  | advance milliseconds => rfl
  | useNativeText => rfl
  | apply => exact congrArg Prod.fst (apply_showing texts sees)
  | pump => exact congrArg Prod.fst (pump_showing texts sees)
  | dispose => exact dispose_showing engine texts

theorem showsText_of_mem_filter (events : List Event) :
    ∀ event ∈ events.filter (!·.showsText), event.showsText = false := by
  intro event member
  simpa using (List.mem_filter.mp member).2

theorem afterAll_showing (sees : engine.SeesRealText) {events : List Event}
    (others : ∀ event ∈ events, event.showsText = false) :
    (engine.showing texts).afterAll events = (engine.afterAll events).showing texts := by
  induction events generalizing engine with
  | nil => rfl
  | cons event rest ih =>
    obtain ⟨other, more⟩ := List.forall_mem_cons.mp others
    have stepped := after_showing texts sees other
    exact (congrArg (·.afterAll rest) stepped).trans (ih (sees.after event) more)

theorem after_of_showsText (engine : Engine σ) {event : Event} (shows : event.showsText = true) :
    ∃ texts, engine.after event = engine.showing texts := by
  cases event with
  | script step =>
    cases step with
    | overrideText n text => exact ⟨putPair n text engine.page.textOverrides, rfl⟩
    | _ => exact Bool.noConfusion shows
  | _ => exact Bool.noConfusion shows

/-- The events of a run that show texts change nothing but the texts that are shown. -/
theorem afterAll_filter (sees : engine.SeesRealText) (events : List Event) :
    ∃ texts, engine.afterAll events = (engine.afterAll (events.filter (!·.showsText))).showing texts := by
  induction events generalizing engine with
  | nil => exact ⟨engine.page.textOverrides, rfl⟩
  | cons event rest ih =>
    obtain ⟨texts, same⟩ := ih (sees.after event)
    refine ⟨texts, same.trans ?_⟩
    cases shows : event.showsText with
    | false =>
      rw [List.filter_cons_of_pos (by simp [shows])]
      rfl
    | true =>
      -- What is shown now makes no difference to the rest of the run, apart from the texts shown at its end.
      obtain ⟨shown, stepped⟩ := after_of_showsText engine shows
      rw [List.filter_cons_of_neg (by simp [shows]), stepped]
      have plain := congrArg (showing · texts) (afterAll_showing shown sees (showsText_of_mem_filter rest))
      exact plain

/-- Runs that differ at most in the texts that are shown, at first and by their events, end in engines that
differ at most in the texts that are shown. -/
theorem afterAll_alike (sees : engine.SeesRealText) {events others : List Event}
    (same : events.filter (!·.showsText) = others.filter (!·.showsText)) :
    ∃ later, (engine.showing texts).afterAll others = (engine.afterAll events).showing later := by
  have seen : (engine.showing texts).SeesRealText := ⟨sees.source, sees.free⟩
  obtain ⟨_, first⟩ := afterAll_filter sees events
  obtain ⟨later, second⟩ := afterAll_filter seen others
  have plain := afterAll_showing texts sees (showsText_of_mem_filter others)
  refine ⟨later, ?_⟩
  rw [first, second, same, plain]
  rfl

end sees

/-- Two engines are set up in the same way on two pages that differ at most in the texts that are shown. If they
compare real texts and no rule compares properties of elements, then whatever happens to both, they and their
pages differ at most in the texts that are shown, and the calls of both give the same. -/
theorem afterAll_useNativeText {page other : Page} (alike : page.showing [] = other.showing [])
    {configuration : Configuration σ} {hookState : σ} {left right : Engine σ}
    (madeLeft : (ofPage page configuration hookState).result = .ok left)
    (madeRight : (ofPage other configuration hookState).result = .ok right)
    (free : ∀ state ∈ left.rules, state.rule.tree.readsProperties = false) {events others : List Event}
    (same : events.filter (!·.showsText) = others.filter (!·.showsText)) :
    let first := left.useNativeText.afterAll events
    let second := right.useNativeText.afterAll others
    first.affected = second.affected ∧ first.pendingPass? = second.pendingPass? ∧
      first.page.showing [] = second.page.showing [] ∧ first.apply.2 = second.apply.2 ∧
      first.pump.2 = second.pump.2 := by
  intro first second
  have sees : left.useNativeText.SeesRealText := ⟨rfl, List.forall_mem_map.mpr free⟩
  have seen : first.SeesRealText := sees.afterAll events
  have shown : right = left.showing other.textOverrides := by
    obtain ⟨rules, read, rfl⟩ := engine_of_made madeLeft
    obtain ⟨rules', read', rfl⟩ := engine_of_made madeRight
    obtain rfl : rules = rules' := Except.ok.inj (read.symm.trans read')
    rw [Page.eq_showing alike]
    rfl
  obtain ⟨later, ran⟩ := afterAll_alike other.textOverrides sees same
  have still : second = first.showing later := by
    rw [← ran, show second = right.useNativeText.afterAll others from rfl, shown]
    rfl
  rw [still, apply_showing later seen, pump_showing later seen]
  exact ⟨rfl, rfl, rfl, rfl, rfl⟩

/-- A page with two elements that have the same text. -/
def twoTexts : Page := Page.ofMarkup "<p>real</p><b>real</b>"

/-- The same page, but scripts see another text of the first element. -/
def patchedText : Page := twoTexts.overrideText ⟨1⟩ "patched"

/-- A rule that styles elements by their text. -/
def styledByText : Configuration Unit := { rules := some [":is(p, b):contains(real) { color: red }"] }

theorem afterAll_useNativeText_styledByText :
    let left := started twoTexts styledByText
    let right := started patchedText styledByText
    let events := [.apply, .script (.overrideText ⟨3⟩ ""), .script (.setAttribute ⟨1⟩ "id" "a")]
    let others := [.apply, .script (.setAttribute ⟨1⟩ "id" "a")]
    let first := left.useNativeText.afterAll events
    let second := right.useNativeText.afterAll others
    first.affected.map (·.node) = [⟨1⟩, ⟨3⟩] ∧
      (right.afterAll others).affected.map (·.node) = [⟨3⟩] ∧
      first.affected = second.affected ∧ first.pendingPass? = second.pendingPass? ∧
      first.page.showing [] = second.page.showing [] ∧ first.apply.2 = second.apply.2 ∧
      first.pump.2 = second.pump.2 ∧ second.pump.2 = .ok 1 := by
  intro left right events others first second
  have madeLeft : (ofPage twoTexts styledByText ()).result = .ok left := ofPage_started (by decide +kernel)
  have madeRight : (ofPage patchedText styledByText ()).result = .ok right := ofPage_started (by decide +kernel)
  have alike : twoTexts.showing [] = patchedText.showing [] := rfl
  have free : ∀ state ∈ left.rules, state.rule.tree.readsProperties = false := by decide +kernel
  have same : events.filter (!·.showsText) = others.filter (!·.showsText) := rfl
  obtain ⟨affected, pending, page, applied, pumped⟩ :=
    afterAll_useNativeText alike madeLeft madeRight free same
  exact ⟨by decide +kernel, by decide +kernel, affected, pending, page, applied, pumped, by decide +kernel⟩

end CosmeticRules.Engine
