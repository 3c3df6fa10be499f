import CosmeticRules.Engine.Run
import CosmeticRules.Proofs.Page.Script

/-!
The states that an engine can reach while scripts change its page, time passes, and its user calls it
in any order; and the states in which the passes of such a run begin.
-/

namespace CosmeticRules.Engine

variable {σ : Type}

/-- What can happen to an engine. -/
inductive Event
  | script (step : Page.ScriptStep)
  | advance (milliseconds : Nat)
  | useNativeText
  | apply
  | pump
  | dispose

/-- Whether an event is none of the calls that let the engine work on the page. -/
def Event.isOutside : Event → Bool
  | .script _ | .advance _ | .useNativeText => true
  | .apply | .pump | .dispose => false

/-- The engine after an event. A pass that fails in it keeps what it has done. -/
def after (engine : Engine σ) : Event → Engine σ
  | .script step => { engine with page := engine.page.script step }
  | .advance milliseconds => { engine with page := engine.page.advance milliseconds }
  | .useNativeText => engine.useNativeText
  | .apply => engine.apply.1
  | .pump => engine.pump.1
  | .dispose => engine.dispose

/-- An engine that has just been set up has the rules that were read and has done nothing yet. -/
theorem engine_of_made {page : Page} {configuration : Configuration σ} {hookState : σ}
    {engine : Engine σ} (made : (ofPage page configuration hookState).result = .ok engine) :
    ∃ rules, configuration.readRules.result = .ok rules ∧
      engine =
        { page
          rules := rules.map fun rule => { rule }
          debug := configuration.debug || rules.any (·.debug == some .everywhere)
          hook := configuration.hook
          hookState } := by
  unfold ofPage at made
  rw [Logged.result_bind] at made
  cases read : configuration.readRules.result with
  | error e =>
    rw [read] at made
    simp [bind, Except.bind] at made
  | ok rules =>
    rw [read] at made
    exact ⟨rules, rfl, (Except.ok.inj made).symm⟩

/-- The states of an engine that was set up on a page, after any events. -/
inductive Reachable (page : Page) (configuration : Configuration σ) (hookState : σ) :
    Engine σ → Prop
  | new {engine} (made : (ofPage page configuration hookState).result = .ok engine) :
      Reachable page configuration hookState engine
  | next {engine} (reach : Reachable page configuration hookState engine) (event : Event) :
      Reachable page configuration hookState (engine.after event)

/-- The engine after events in turn. -/
def afterAll (engine : Engine σ) (events : List Event) : Engine σ := events.foldl after engine

theorem Reachable.afterAll {page : Page} {configuration : Configuration σ} {hookState : σ}
    {engine : Engine σ} (reach : Reachable page configuration hookState engine) (events : List Event) :
    Reachable page configuration hookState (engine.afterAll events) := by
  induction events generalizing engine with
  | nil => exact reach
  | cons event rest ih => exact ih (reach.next event)

/-- The engine that is set up on a page, without rules if its configuration is wrong. -/
def started (page : Page) (configuration : Configuration Unit) : Engine Unit :=
  match (ofPage page configuration ()).result with
  | .ok engine => engine
  | .error _ => { page, rules := [], debug := false, hook := none, hookState := () }

theorem ofPage_started {page : Page} {configuration : Configuration Unit}
    (right : (ofPage page configuration ()).result.isOk = true) :
    (ofPage page configuration ()).result = .ok (started page configuration) := by
  unfold started
  split
  · assumption
  · rename_i e wrong
    rw [wrong] at right
    exact absurd right Bool.false_ne_true

theorem reachable_started {page : Page} {configuration : Configuration Unit}
    (right : (ofPage page configuration ()).result.isOk = true) :
    Reachable page configuration () (started page configuration) := .new (ofPage_started right)

/-- The states in which passes begin: the one that is applied at once, the requested one when it is due,
and the one that waited for the page. -/
inductive PassBegins (page : Page) (configuration : Configuration σ) (hookState : σ) :
    Engine σ → Prop
  | applied {engine} (reach : Reachable page configuration hookState engine) :
      PassBegins page configuration hookState engine
  | requested {engine} (reach : Reachable page configuration hookState engine)
      (due : engine.takeChanges.isDue = true) :
      PassBegins page configuration hookState engine.takeChanges.startDue
  | awaited {engine later count} (reach : Reachable page configuration hookState engine)
      (ran : engine.takeChanges.runDue = (later, .ok count)) (ready : later.isReady = true) :
      PassBegins page configuration hookState later.startReady

/-- The engine that is set up for the page of a markup text, after events. -/
def ranOn (html : String) (configuration : Configuration Unit) (events : List Event) : Engine Unit :=
  (started (Page.ofMarkup html) configuration).afterAll events

theorem passBegins_ranOn {html : String} {configuration : Configuration Unit}
    (right : (ofPage (Page.ofMarkup html) configuration ()).result.isOk = true) (events : List Event) :
    PassBegins (Page.ofMarkup html) configuration () (ranOn html configuration events) :=
  .applied ((reachable_started right).afterAll events)

/-- A pass that is applied at once may leave another one that waits for the page. -/
theorem apply_eq (engine : Engine σ) :
    ∃ awaitsReady, engine.apply = ({ engine.pass.1 with awaitsReady }, engine.pass.2) := by
  unfold apply
  split <;> rename_i ran <;> rw [ran]
  · exact ⟨_, rfl⟩
  · simp only []
    split <;> exact ⟨_, rfl⟩

/-- What passes keep, whether they succeed or fail, and the changes between them that passes do not look
at. -/
structure KeptByPasses (P : Engine σ → Prop) : Prop where
  throttle : ∀ {engine}, P engine → ∀ throttle, P { engine with throttle }
  awaitsReady : ∀ {engine}, P engine → ∀ awaitsReady, P { engine with awaitsReady }
  log : ∀ {engine}, P engine → ∀ log, P { engine with log }
  pass : ∀ {engine}, P engine → P engine.pass.1

/-- What everything keeps that an engine does itself. -/
structure KeptByEngine (P : Engine σ → Prop) : Prop extends KeptByPasses P where
  taken : ∀ {engine}, P engine → P { engine with page := engine.page.takeMutations.1 }
  protectNode : ∀ {engine}, P engine → ∀ n, P (engine.protectNode n)
  dispose : ∀ {engine}, P engine → P engine.dispose

/-- What every event keeps, whatever it does to the page. -/
structure Kept (P : Engine σ → Prop) : Prop extends KeptByEngine P where
  page : ∀ {engine}, P engine → ∀ page, P { engine with page }
  source : ∀ {engine}, P engine → ∀ source, P { engine with source }
  taken := fun holds => page holds _

namespace KeptByPasses

variable {P : Engine σ → Prop} (kept : KeptByPasses P)

include kept

theorem write {engine : Engine σ} (holds : P engine) (entries : List LogEntry) :
    P (engine.write entries) := kept.log holds _

theorem noteChanges {engine : Engine σ} (holds : P engine) (records : List Mutation) :
    P (engine.noteChanges records) := by
  unfold Engine.noteChanges
  simp only []
  split
  · exact holds
  · split
    · exact kept.write holds _
    · exact kept.write (kept.throttle holds _) _

theorem startDue {engine : Engine σ} (holds : P engine) : P engine.startDue :=
  kept.write (kept.throttle holds _) _

theorem startReady {engine : Engine σ} (holds : P engine) : P engine.startReady :=
  kept.awaitsReady holds _

theorem runDue {engine : Engine σ} (holds : P engine) : P engine.runDue.1 := by
  have passed := kept.pass (kept.startDue holds)
  unfold Engine.runDue
  split
  · split <;> rename_i same <;> simpa only [same] using passed
  · exact holds

theorem runReady {engine : Engine σ} (holds : P engine) : P engine.runReady.1 := by
  have passed := kept.pass (kept.startReady holds)
  unfold Engine.runReady
  split
  · split <;> rename_i same <;> simpa only [same] using passed
  · exact holds

/-- What holds when the changes of the page have been taken holds after the passes that run then. -/
theorem pump_of_takeChanges {engine : Engine σ} (holds : P engine.takeChanges) : P engine.pump.1 := by
  have ran := kept.runDue holds
  unfold Engine.pump
  split
  · rename_i same
    simpa only [same] using ran
  · rename_i later due same
    rw [same] at ran
    have waited := kept.runReady ran
    split <;> rename_i run <;> simpa only [run] using waited

theorem apply {engine : Engine σ} (holds : P engine) : P engine.apply.1 := by
  obtain ⟨awaitsReady, same⟩ := apply_eq engine
  rw [same]
  exact kept.awaitsReady (kept.pass holds) awaitsReady

end KeptByPasses

namespace KeptByEngine

variable {P : Engine σ → Prop} (kept : KeptByEngine P)

include kept

theorem dropOwnMutations {engine : Engine σ} (holds : P engine) : P engine.dropOwnMutations :=
  kept.write (kept.taken holds) _

theorem protectStyles {engine : Engine σ} (holds : P engine) (records : List Mutation) :
    P (engine.protectStyles records) := by
  unfold Engine.protectStyles
  generalize ((records.filter (·.isStyleChange)).map (·.target)).eraseDups = targets
  induction targets generalizing engine with
  | nil => exact holds
  | cons n rest ih => exact ih (kept.protectNode holds n)

theorem takeChanges {engine : Engine σ} (holds : P engine) : P engine.takeChanges := by
  unfold Engine.takeChanges
  have taken := kept.taken holds
  simp only []
  split
  · exact taken
  · exact kept.noteChanges (kept.dropOwnMutations (kept.protectStyles taken _)) _

theorem pump {engine : Engine σ} (holds : P engine) : P engine.pump.1 :=
  kept.pump_of_takeChanges (kept.takeChanges holds)

end KeptByEngine

namespace Kept

variable {P : Engine σ → Prop} (kept : Kept P)

include kept

theorem after {engine : Engine σ} (holds : P engine) (event : Event) : P (engine.after event) := by
  cases event with
  | script step => exact kept.page holds _
  | advance milliseconds => exact kept.page holds _
  | useNativeText => exact kept.source holds _
  | apply => exact kept.apply holds
  | pump => exact kept.pump holds
  | dispose => exact kept.dispose holds

/-- What is kept by every event and holds of a new engine holds in every state of a run. -/
theorem reachable {page : Page} {configuration : Configuration σ} {hookState : σ}
    (atStart : ∀ {engine}, (ofPage page configuration hookState).result = .ok engine → P engine)
    {engine : Engine σ} (reach : Reachable page configuration hookState engine) : P engine := by
  induction reach with
  | new made => exact atStart made
  | next _ event ih => exact kept.after ih event

/-- It also holds whenever a pass begins. -/
theorem passBegins {page : Page} {configuration : Configuration σ} {hookState : σ}
    (atStart : ∀ {engine}, (ofPage page configuration hookState).result = .ok engine → P engine)
    {engine : Engine σ} (begins : PassBegins page configuration hookState engine) : P engine := by
  cases begins with
  | applied reach => exact kept.reachable atStart reach
  | requested reach due => exact kept.startDue (kept.takeChanges (kept.reachable atStart reach))
  | awaited reach ran ready =>
    have before := kept.runDue (kept.takeChanges (kept.reachable atStart reach))
    rw [ran] at before
    exact kept.startReady before

end Kept

end CosmeticRules.Engine
