import CosmeticRules.Proofs.Engine.Confined

/-!
While scripts leave style attributes alone, an engine leaves no trace in them: outside the list of affected
elements they have their initial texts, the entries of the list hold the initial texts, and disposal puts them
back. After that nothing is written until rules are applied again.
-/

namespace CosmeticRules

variable {initial : NodeId → String}

/-- Unaffected nodes have their initial style texts, and the entries of affected ones hold theirs. -/
structure RecordsInitial (initial : NodeId → String) (page : Page) (entries : List Affected) : Prop where
  outside : ∀ n, page.tree.contains n = true → n ∉ Affected.nodes entries → page.styleText n = initial n
  inside : ∀ a ∈ entries, a.initialStyle = initial a.node

namespace Engine

variable {σ : Type}

/-! Visits and settling. -/

theorem RecordsInitial.visit {engine : Engine σ}
    (records : RecordsInitial initial engine.page engine.affected) (hookless : engine.hook = none)
    (rule : Rule) {n : NodeId} (element : engine.page.tree.isElement n = true) :
    RecordsInitial initial (engine.visit rule n).1.page (engine.visit rule n).1.affected where
  outside := by
    have confined := confined_visit_of_hookless hookless rule n
    intro m inside absent
    rw [mem_nodes_visit, not_or] at absent
    rw [Page.styleText_congr (confined.element? m absent.2)]
    exact records.outside m ((confined.contains m).symm.trans inside) absent.1
  inside := by
    -- An element that no visit has affected yet is still as it was at first.
    have new : n ∉ Affected.nodes engine.affected → engine.page.styleText n = initial n :=
      records.outside n (PageTree.contains_of_isElement element)
    have touched : ∀ a ∈ Affected.touch n rule (engine.page.styleText n) engine.affected,
        a.initialStyle = initial a.node :=
      Affected.forall_touch records.inside new fun a same => by simpa using same
    rcases affected_visit engine rule n with recorded | ⟨_, marked⟩
    · rw [recorded]
      exact touched
    · rw [marked]
      exact Affected.forall_update touched fun a found => touched a (Affected.mem_of_find? found)

theorem Passing.recordsInitial {engine later : Engine σ} {visits : List (Visit σ)}
    (passing : Passing engine visits later) (hookless : engine.hook = none)
    (elements : ∀ visit ∈ visits, visit.engine.page.tree.isElement visit.node = true)
    (records : RecordsInitial initial engine.page engine.affected) :
    RecordsInitial initial later.page later.affected := by
  induction passing with
  | done => exact records
  | noted entries _ ih => exact ih hookless elements records
  | @visited engine later visits rule n _ ih =>
    obtain ⟨here, rest⟩ := List.forall_mem_cons.mp elements
    exact ih ((steady_visit engine rule n).hook.trans hookless) rest
      (RecordsInitial.visit records hookless rule here)

theorem styleText_revert {page : Page} {a : Affected} (element : page.tree.isElement a.node = true) :
    (revert page a).styleText a.node = a.initialStyle := Page.styleText_writeStyle page a.node _ element

/-- Settling reverts the elements that are not selected. -/
theorem styleText_settleAll {engine : Engine σ} (elements : engine.AffectedElements)
    (inside : ∀ a ∈ engine.affected, a.initialStyle = initial a.node) {selected : List NodeId} {n : NodeId}
    (member : n ∈ Affected.nodes engine.affected) (left : n ∉ selected) :
    (engine.settleAll selected).page.styleText n = initial n := by
  -- The entries are settled from the last to the first, so the tail has been settled when the head is.
  obtain ⟨entries, same⟩ : ∃ entries, engine.affected = entries := ⟨_, rfl⟩
  induction entries generalizing engine with
  | nil => simp [same, Affected.nodes] at member
  | cons a rest ih =>
    unfold AffectedElements at elements
    rw [same] at elements inside member
    obtain ⟨here, others⟩ := List.forall_mem_cons.mp elements
    have before := @ih { engine with affected := rest } others (List.forall_mem_cons.mp inside).2
    have still := (confined_settleAll { engine with affected := rest } selected).isElement a.node
    have step : engine.settleAll selected =
        settle selected a (({ engine with affected := rest } : Engine σ).settleAll selected) := by
      unfold settleAll
      rw [same]
      rfl
    rw [step, settle]
    by_cases same : n = a.node
    · rw [if_pos (by simpa [← same] using left), same]
      exact (styleText_revert (still.trans here)).trans (inside a List.mem_cons_self)
    · have known := before ((List.mem_cons.mp member).resolve_left same) rfl
      split
      · rw [← known]
        exact Page.styleText_congr (Page.element?_writeStyle_of_ne _ _ _ _ same)
      · split <;> exact known

theorem initialStyle_settleAll {engine : Engine σ} {selected : List NodeId}
    (inside : ∀ a ∈ engine.affected, a.initialStyle = initial a.node) :
    ∀ a ∈ (engine.settleAll selected).affected, a.initialStyle = initial a.node := by
  unfold settleAll
  revert inside
  generalize engine.affected = entries
  intro inside
  induction entries with
  | nil => simp
  | cons a rest ih =>
    obtain ⟨here, others⟩ := List.forall_mem_cons.mp inside
    rw [List.foldr_cons, settle]
    split
    · exact ih others
    · split
      · exact List.forall_mem_cons.mpr ⟨here, ih others⟩
      · exact List.forall_mem_cons.mpr ⟨here, ih others⟩

theorem RecordsInitial.settleAll {engine : Engine σ}
    (records : RecordsInitial initial engine.page engine.affected) (elements : engine.AffectedElements)
    (selected : List NodeId) :
    RecordsInitial initial (engine.settleAll selected).page (engine.settleAll selected).affected where
  outside := by
    have confined := confined_settleAll engine selected
    have settled := settled_settleAll [] engine selected
    intro n inside absent
    rw [settled.nodes, List.mem_filter, not_and] at absent
    by_cases affected : n ∈ Affected.nodes engine.affected
    · exact styleText_settleAll elements records.inside affected (by simpa using absent affected)
    · rw [Page.styleText_congr (confined.element? n fun holds => affected holds.1)]
      exact records.outside n ((confined.contains n).symm.trans inside) affected
  inside := initialStyle_settleAll records.inside

/-! What an engine without a hook does, and what scripts do that leave styles alone. -/

/-- An engine without a hook that knows the initial style texts. -/
structure KnowsInitial (initial : NodeId → String) (engine : Engine σ) : Prop where
  elements : engine.AffectedElements
  hookless : engine.hook = none
  records : RecordsInitial initial engine.page engine.affected

theorem Passing.knowsInitial {engine later : Engine σ}
    (passing : Passing engine.stopObserving engine.visits later) (knows : engine.KnowsInitial initial) :
    later.KnowsInitial initial where
  elements := passing.affectedElements (fun _ => isElement_of_mem_visits) knows.elements
  hookless := passing.steady.hook.trans knows.hookless
  records := passing.recordsInitial knows.hookless (fun _ => isElement_of_mem_visits) knows.records

theorem KnowsInitial.settleAll {engine : Engine σ} (knows : engine.KnowsInitial initial)
    (selected : List NodeId) : (engine.settleAll selected).KnowsInitial initial where
  elements := knows.elements.settleAll selected
  hookless := (settled_settleAll [] engine selected).hook.trans knows.hookless
  records := RecordsInitial.settleAll knows.records knows.elements selected

theorem KnowsInitial.ended {engine later : Engine σ} (ended : Ended engine later)
    (knows : engine.KnowsInitial initial) : later.KnowsInitial initial where
  elements := knows.elements.ended ended
  hookless := ended.hook.trans knows.hookless
  records := by
    refine ⟨?_, ended.affected ▸ knows.records.inside⟩
    intro n inside absent
    rw [ended.tree] at inside
    rw [ended.affected] at absent
    rw [← knows.records.outside n inside absent, Page.styleText, ended.tree]
    rfl

theorem KnowsInitial.pass {engine : Engine σ} (knows : engine.KnowsInitial initial) :
    engine.pass.1.KnowsInitial initial :=
  pass_induction (fun passing => passing.knowsInitial knows) (fun knows => knows.settleAll _) .ended

theorem KnowsInitial.protectNode {engine : Engine σ} (knows : engine.KnowsInitial initial) (n : NodeId) :
    (engine.protectNode n).KnowsInitial initial := by
  have confined := confined_protectNode engine n
  refine ⟨keptByEngine_affectedElements.protectNode knows.elements n,
    (kept_hook none).protectNode knows.hookless n, ?_, ?_⟩
  · intro m inside absent
    rw [nodes_protectNode] at absent
    rw [← knows.records.outside m ((confined.contains m).symm.trans inside) absent]
    -- Only the style of an affected element is put back.
    have other : m = n → (engine.protectNode n).page = engine.page := by
      rintro rfl
      unfold Engine.protectNode
      rw [Affected.find?_eq_none.mpr absent]
      rfl
    by_cases same : m = n
    · rw [other same]
    · exact Page.styleText_congr (confined.element? m same)
  · unfold Engine.protectNode
    split
    · exact knows.records.inside
    · split
      · exact knows.records.inside
      · exact Affected.forall_update knows.records.inside fun a found =>
          knows.records.inside a (Affected.mem_of_find? found)

/-- Reverting entries in turn puts the initial style texts back. -/
theorem styleText_foldl_revert {entries : List Affected} {page : Page}
    (elements : ∀ n ∈ Affected.nodes entries, page.tree.isElement n = true)
    (inside : ∀ a ∈ entries, a.initialStyle = initial a.node) {n : NodeId}
    (member : n ∈ Affected.nodes entries) : (entries.foldl revert page).styleText n = initial n := by
  induction entries generalizing page with
  | nil => simp [Affected.nodes] at member
  | cons a rest ih =>
    obtain ⟨here, others⟩ := List.forall_mem_cons.mp elements
    obtain ⟨same, known⟩ := List.forall_mem_cons.mp inside
    rw [List.foldl_cons]
    by_cases again : n ∈ Affected.nodes rest
    · refine ih (fun m member => ?_) known again
      exact ((Page.confined_writeStyle page a.node a.initialStyle).isElement m).trans (others m member)
    · obtain rfl := (List.mem_cons.mp member).resolve_right again
      rw [Page.styleText_congr ((confined_foldl_revert rest _).element? _ again), styleText_revert here,
        same]

/-- Disposal gives every node its initial style text back. -/
theorem KnowsInitial.dispose {engine : Engine σ} (knows : engine.KnowsInitial initial) :
    engine.dispose.KnowsInitial initial := by
  have confined := confined_foldl_revert engine.affected engine.page
  refine ⟨keptByEngine_affectedElements.dispose knows.elements, knows.hookless, ?_, ?_⟩
  · intro n inside _
    show (engine.affected.foldl revert engine.page).styleText n = initial n
    by_cases affected : n ∈ Affected.nodes engine.affected
    · exact styleText_foldl_revert knows.elements knows.records.inside affected
    · rw [Page.styleText_congr (confined.element? n affected)]
      exact knows.records.outside n ((confined.contains n).symm.trans inside) affected
  · intro a member
    simp [Engine.dispose, dropOwnMutations, write] at member

theorem keptByEngine_knowsInitial :
    KeptByEngine fun engine : Engine σ => engine.KnowsInitial initial where
  throttle := fun knows _ => ⟨knows.elements, knows.hookless, knows.records⟩
  awaitsReady := fun knows _ => ⟨knows.elements, knows.hookless, knows.records⟩
  log := fun knows _ => ⟨knows.elements, knows.hookless, knows.records⟩
  taken := fun knows =>
    ⟨knows.elements, knows.hookless, ⟨knows.records.outside, knows.records.inside⟩⟩
  pass := fun knows => knows.pass
  protectNode := fun knows n => knows.protectNode n
  dispose := fun knows => knows.dispose

/-- Whether an event is anything but a script that writes a style attribute. -/
def Event.sparesStyles : Event → Bool
  | .script step => !step.writesStyle
  | _ => true

theorem KnowsInitial.after {engine : Engine σ} (knows : engine.KnowsInitial initial) {event : Event}
    (spares : event.sparesStyles = true)
    (new : ∀ n, engine.page.tree.contains n = false → (engine.after event).page.tree.contains n = true →
      (engine.after event).page.styleText n = initial n) : (engine.after event).KnowsInitial initial := by
  cases event with
  | script step =>
    obtain ⟨_, recorded, quiet⟩ := Page.told_script engine.page step
    refine ⟨knows.elements.after (.script step), knows.hookless, ?_, knows.records.inside⟩
    intro n inside absent
    cases known : engine.page.tree.contains n with
    | false => exact new n known inside
    | true =>
      have same : (engine.page.script step).tree.attribute? n "style" =
          engine.page.tree.attribute? n "style" := by
        refine (recorded.style n known).resolve_right fun told => ?_
        have plain := quiet (by simpa [Event.sparesStyles] using spares) _ told
        simp [Mutation.isStyleChange] at plain
      rw [← knows.records.outside n known absent, Page.styleText, Page.styleText, ← same]
      rfl
  | advance milliseconds =>
    exact ⟨knows.elements, knows.hookless, ⟨knows.records.outside, knows.records.inside⟩⟩
  | useNativeText =>
    exact ⟨knows.elements, knows.hookless, ⟨knows.records.outside, knows.records.inside⟩⟩
  | apply => exact keptByEngine_knowsInitial.apply knows
  | pump => exact keptByEngine_knowsInitial.pump knows
  | dispose => exact knows.dispose

/-- The text of the style attribute of a node when the node is first there in a run. -/
def firstStyle (engine : Engine σ) (n : NodeId) : List Event → String
  | [] => engine.page.styleText n
  | event :: rest =>
    if engine.page.tree.contains n then engine.page.styleText n else (engine.after event).firstStyle n rest

theorem firstStyle_of_contains {engine : Engine σ} {n : NodeId}
    (inside : engine.page.tree.contains n = true) (events : List Event) :
    engine.firstStyle n events = engine.page.styleText n := by
  cases events with
  | nil => rfl
  | cons event rest => rw [firstStyle, if_pos inside]

/-- The induction is on the run; what is needed of nodes that are not there yet is their first style text. -/
theorem KnowsInitial.afterAll {engine : Engine σ} (knows : engine.KnowsInitial initial)
    {events : List Event} (spare : ∀ event ∈ events, event.sparesStyles = true)
    (new : ∀ n, engine.page.tree.contains n = false → initial n = engine.firstStyle n events) :
    (engine.afterAll events).KnowsInitial initial := by
  induction events generalizing engine with
  | nil => exact knows
  | cons event rest ih =>
    obtain ⟨here, others⟩ := List.forall_mem_cons.mp spare
    have first : ∀ n, engine.page.tree.contains n = false →
        initial n = (engine.after event).firstStyle n rest := by
      intro n absent
      rw [new n absent, firstStyle, absent]
      rfl
    refine ih (knows.after here ?_) others ?_
    · intro n absent inside
      rw [first n absent, firstStyle_of_contains inside]
    · intro n absent
      refine first n (Bool.eq_false_iff.mpr fun inside => ?_)
      exact Bool.false_ne_true (absent.symm.trans (contains_after inside event))

/-! Disposed engines. -/

/-- An engine that has nothing to do until rules are applied. -/
structure Idle (engine : Engine σ) : Prop where
  affected : engine.affected = []
  unobserved : engine.observedSince = none
  undue : engine.throttle.due = none
  unawaited : engine.awaitsReady = false

theorem idle_dispose (engine : Engine σ) : engine.dispose.Idle := ⟨rfl, rfl, rfl, rfl⟩

theorem protectStyles_of_idle {engine : Engine σ} (idle : engine.Idle) (records : List Mutation) :
    engine.protectStyles records = engine := by
  have none : ∀ n, engine.protectNode n = engine := by
    intro n
    rw [protectNode, idle.affected]
    rfl
  unfold protectStyles
  generalize ((records.filter (·.isStyleChange)).map (·.target)).eraseDups = targets
  induction targets with
  | nil => rfl
  | cons n rest ih => rw [List.foldl_cons, none, ih]

/-- An idle engine takes the changes of the page and does nothing more. -/
theorem takeChanges_of_idle {engine : Engine σ} (idle : engine.Idle) :
    ∃ log, engine.takeChanges = { engine with page := engine.page.takeMutations.1, log } := by
  have taken : ({ engine with page := engine.page.takeMutations.1 } : Engine σ).Idle :=
    ⟨idle.affected, idle.unobserved, idle.undue, idle.unawaited⟩
  unfold takeChanges
  simp only []
  split
  · exact ⟨engine.log, rfl⟩
  · rw [protectStyles_of_idle taken, noteChanges]
    refine ⟨_, if_pos ?_⟩
    show (!engine.observedSince.isSome || _) = true
    rw [idle.unobserved]
    rfl

theorem pump_of_idle {engine : Engine σ} (idle : engine.Idle) :
    ∃ log, engine.pump = ({ engine with page := engine.page.takeMutations.1, log }, .ok 0) := by
  obtain ⟨log, taken⟩ := takeChanges_of_idle idle
  refine ⟨log, ?_⟩
  unfold pump runDue runReady isDue isReady Throttle.isDue
  simp only [taken, idle.undue, idle.unawaited]
  rfl

/-- Whether an event applies the rules. -/
def Event.isApply : Event → Bool
  | .apply => true
  | _ => false

theorem Idle.after {engine : Engine σ} (idle : engine.Idle) {event : Event}
    (other : event.isApply = false) : (engine.after event).Idle := by
  obtain ⟨affected, unobserved, undue, unawaited⟩ := idle
  cases event with
  | script | advance | useNativeText => exact ⟨affected, unobserved, undue, unawaited⟩
  | apply => exact absurd other.symm Bool.false_ne_true
  | pump =>
    obtain ⟨log, same⟩ := pump_of_idle ⟨affected, unobserved, undue, unawaited⟩
    rw [Engine.after, same]
    exact ⟨affected, unobserved, undue, unawaited⟩
  | dispose => exact idle_dispose engine

theorem Idle.afterAll {engine : Engine σ} (idle : engine.Idle) {events : List Event}
    (others : ∀ event ∈ events, event.isApply = false) : (engine.afterAll events).Idle := by
  induction events generalizing engine with
  | nil => exact idle
  | cons event rest ih =>
    obtain ⟨here, later⟩ := List.forall_mem_cons.mp others
    exact ih (idle.after here) later

/-- In every state of a run in which scripts spare the style attributes, unaffected nodes have their first
style text, and the entries of affected ones hold theirs. Disposal gives all nodes their first style text
back; from then on, until rules are applied again, the delivery of changes does nothing but take them. -/
theorem no_style_residue {page : Page} {configuration : Configuration σ} {hookState : σ}
    {engine : Engine σ} (made : (ofPage page configuration hookState).result = .ok engine)
    (hookless : configuration.hook = none) (events : List Event)
    (spare : ∀ event ∈ events, event.sparesStyles = true) :
    (∀ n, (engine.afterAll events).page.tree.contains n = true →
        n ∉ Affected.nodes (engine.afterAll events).affected →
        (engine.afterAll events).page.styleText n = engine.firstStyle n events) ∧
      (∀ a ∈ (engine.afterAll events).affected, a.initialStyle = engine.firstStyle a.node events) ∧
      (∀ n, (engine.afterAll events).dispose.page.tree.contains n = true →
        (engine.afterAll events).dispose.page.styleText n = engine.firstStyle n events) ∧
      ∀ more, (∀ event ∈ more, event.isApply = false) →
        ((engine.afterAll events).dispose.afterAll more).pump.2 = .ok 0 ∧
          ((engine.afterAll events).dispose.afterAll more).pump.1.page =
            ((engine.afterAll events).dispose.afterAll more).page.takeMutations.1 := by
  have start : engine.KnowsInitial (engine.firstStyle · events) := by
    obtain ⟨rules, _, same⟩ := engine_of_made made
    refine ⟨affectedElements_of_made made, by rw [same]; exact hookless, ?_, ?_⟩
    · intro n inside _
      exact (firstStyle_of_contains inside events).symm
    · simp [same]
  have knows := start.afterAll spare fun _ _ => rfl
  refine ⟨knows.records.outside, knows.records.inside, ?_, ?_⟩
  · intro n inside
    refine knows.dispose.records.outside n inside ?_
    rw [(idle_dispose _).affected]
    exact List.not_mem_nil
  · intro more others
    obtain ⟨log, same⟩ := pump_of_idle ((idle_dispose (engine.afterAll events)).afterAll others)
    rw [same]
    exact ⟨rfl, rfl⟩

/-- A run in which a paragraph is styled, comes to be selected by a second rule, and gets a child that is
styled too. -/
def styledTwice : List Event :=
  [.apply, .script (.setAttribute ⟨1⟩ "class" "a b"), .apply,
    .script (.appendHtml ⟨1⟩ "<b class=b style='left: 0'></b>"), .pump]

/-- The engine at the beginning of that run. -/
def beforeStyling : Engine Unit :=
  started (Page.ofMarkup "<p class=a style='margin: 0'></p>")
    { rules := some [".a { color: red }", ".b { top: 0 }"] }

theorem no_style_residue_styledTwice :
    (∀ event ∈ styledTwice, event.sparesStyles = true) ∧
      (beforeStyling.afterAll styledTwice).page.styleText ⟨1⟩ = "margin: 0; color: red !important;" ∧
      (beforeStyling.afterAll styledTwice).page.styleText ⟨4⟩ = "left: 0; top: 0 !important;" ∧
      (∀ a ∈ (beforeStyling.afterAll styledTwice).affected,
        a.initialStyle = beforeStyling.firstStyle a.node styledTwice) ∧
      (beforeStyling.afterAll styledTwice).dispose.page.styleText ⟨1⟩ = "margin: 0" ∧
      (beforeStyling.afterAll styledTwice).dispose.page.styleText ⟨4⟩ = "left: 0" ∧
      ((beforeStyling.afterAll styledTwice).dispose.after (.script (.setStyleText ⟨1⟩ ""))).pump.2 =
        .ok 0 := by
  have spare : ∀ event ∈ styledTwice, event.sparesStyles = true := by decide +kernel
  have made : (ofPage (Page.ofMarkup "<p class=a style='margin: 0'></p>")
      { rules := some [".a { color: red }", ".b { top: 0 }"] } ()).result = .ok beforeStyling :=
    ofPage_started (by decide +kernel)
  obtain ⟨_, recorded, restored, idle⟩ := no_style_residue made rfl styledTwice spare
  have first := restored ⟨1⟩ (by decide +kernel)
  have second := restored ⟨4⟩ (by decide +kernel)
  exact ⟨spare, by decide +kernel, by decide +kernel, recorded, first.trans (by decide +kernel),
    second.trans (by decide +kernel), (idle [.script (.setStyleText ⟨1⟩ "")] (by decide)).1⟩

end Engine

end CosmeticRules
