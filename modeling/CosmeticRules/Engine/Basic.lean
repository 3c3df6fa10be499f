import CosmeticRules.Engine.Configuration
import CosmeticRules.Engine.Throttle
import CosmeticRules.Engine.Timing
import CosmeticRules.Matching.Selection

/-!
An engine keeps rules applied to a page: the state that it has between the calls of its user.
-/

namespace CosmeticRules

structure Engine (σ : Type) where
  page : Page
  rules : List RuleState
  /-- Whether all rules are timed, and failing selectors are logged. -/
  debug : Bool
  hook : Option (Hook σ)
  hookState : σ
  affected : List Affected := []
  /-- How often elements have been removed, for each path. -/
  removals : List (String × Nat) := []
  throttle : Throttle := {}
  source : TextSource := .visible
  /-- Since when changes of the page are observed, if they are. -/
  observedSince : Option Nat := none
  /-- Whether another pass is to run once the page is ready. -/
  awaitsReady : Bool := false
  timingsReported : Bool := false
  /-- The number of the next protection. -/
  nextProtection : Nat := 0
  /-- What has been logged and not been taken yet. -/
  log : List LogEntry := []

/-- Why a pass stops. -/
inductive EngineError
  | hookGaveNothing
  | noStyle (selector : String)
  deriving DecidableEq, Repr, Inhabited

def EngineError.message : EngineError → String
  | hookGaveNothing => "Callback 'beforeStyleApplied' should return IAffectedElement"
  | noStyle selector => s!"No style declaration in rule for selector: '{selector}'"

namespace Engine

variable {σ : Type}

/-- An engine for a page. -/
def ofPage (page : Page) (configuration : Configuration σ) (hookState : σ) :
    Logged ConfigurationError (Engine σ) := do
  let rules ← configuration.readRules
  return {
    page
    rules := rules.map fun rule => { rule }
    debug := configuration.debug || rules.any (·.debug == some .everywhere)
    hook := configuration.hook
    hookState }

/-- Compares real texts from now on, whatever scripts of the page show. -/
def useNativeText (engine : Engine σ) : Engine σ := { engine with source := .native }

def write (engine : Engine σ) (entries : List LogEntry) : Engine σ :=
  { engine with log := engine.log ++ entries }

/-- The engine without what it has logged, and what it has logged. -/
def takeLog (engine : Engine σ) : Engine σ × List LogEntry := ({ engine with log := [] }, engine.log)

def isObserving (engine : Engine σ) : Bool := engine.observedSince.isSome

def observe (engine : Engine σ) : Engine σ :=
  { engine with observedSince := engine.observedSince.or (some engine.page.now) }

def stopObserving (engine : Engine σ) : Engine σ := { engine with observedSince := none }

/-- Drops the changes that the engine itself has made. -/
def dropOwnMutations (engine : Engine σ) : Engine σ :=
  let (page, own) := engine.page.takeMutations
  { engine with page }.write <|
    if own.isEmpty then []
    else [⟨.debug, s!"[observer] skipped {own.length} own mutation(s)"⟩]

def pendingPass? (engine : Engine σ) : Option Nat := engine.throttle.due

def timings (engine : Engine σ) : List RuleTimings := engine.rules.filterMap (·.timings?)

/-- A summary of the state. -/
def summary (engine : Engine σ) : String :=
  "ExtendedCss \x7b rules: " ++ toString engine.rules.length ++ ", debug: " ++ toString engine.debug ++
    ", affected: " ++ toString engine.affected.length ++ ", is_dom_observed: " ++
    toString engine.isObserving ++ " \x7d"

end Engine

end CosmeticRules
