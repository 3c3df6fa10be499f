import CosmeticRules.Engine.Basic

/-!
A pass applies all rules of an engine in turn, and then reverts the elements that no rule selects any
more. A pass that fails keeps what it has done so far.
-/

namespace CosmeticRules.Engine

variable {σ : Type}

def removalCount (engine : Engine σ) (path : String) : Nat := (engine.removals.lookup path).getD 0

/-- Takes an affected element out of the page, unless elements with its path have been removed too often.
An element without a parent element stays. -/
def removeAffected (engine : Engine σ) (n : NodeId) : Engine σ :=
  let engine :=
    { engine with affected := Affected.update n (fun a => { a with removed := true }) engine.affected }
  let path := Page.elementPath engine.page.tree n
  let count := engine.removalCount path
  if Protection.limit < count then
    engine.write
      [⟨.error, s!"ExtendedCss: infinite loop protection for selector: '{path}'"⟩]
  else if (engine.page.tree.parentElement? n).isSome then
    { engine with
      page := (engine.page.removeElement n).1
      removals := putPair path (count + 1) engine.removals }
  else engine

/-- Applies the styles of rules to an element, up to the first rule that removes it; `n` is the affected
element, which is the one that is removed. -/
def applyRules (engine : Engine σ) (n target : NodeId) :
    List Rule → Engine σ × Except EngineError Unit
  | [] => (engine, .ok ())
  | rule :: rest =>
    match rule.style with
    | some style =>
      if style.isRemove then (engine.removeAffected n, .ok ())
      else { engine with page := engine.page.applyStyle target style }.applyRules n target rest
    | none =>
      if rule.debug.isNone then (engine, .error (.noStyle rule.selector))
      else engine.applyRules n target rest

/-- What the hook makes of a target; without a hook it stays as it is. -/
def callHook (engine : Engine σ) (target : StyleTarget) : Engine σ × Option StyleTarget :=
  match engine.hook with
  | none => (engine, some target)
  | some hook =>
    let (result, hookState) := hook engine.hookState target
    ({ engine with hookState }, result)

/-- Applies all its rules to an affected element that is not protected yet. -/
def styleAffected (engine : Engine σ) (n : NodeId) : Engine σ × Except EngineError Unit :=
  match Affected.find? n engine.affected with
  | none => (engine, .ok ())
  | some a =>
    if a.protection.isSome then (engine, .ok ())
    else
      match engine.callHook ⟨n, a.rules⟩ with
      | (engine, none) => (engine, .error .hookGaveNothing)
      | (engine, some target) => engine.applyRules n target.node target.rules

/-- Applies a rule to the elements that it selects. -/
def applyToNodes (engine : Engine σ) (rule : Rule) : List NodeId → Engine σ × Except EngineError Unit
  | [] => (engine, .ok ())
  | n :: rest =>
    let affected := Affected.touch n rule (engine.page.styleText n) engine.affected
    match { engine with affected }.styleAffected n with
    | (engine, .error e) => (engine, .error e)
    | (engine, .ok ()) => engine.applyToNodes rule rest

/-- The elements that a rule selects now. A selector that fails selects nothing, and is logged if all
rules are watched. -/
def selectNodes (engine : Engine σ) (rule : Rule) : Engine σ × List NodeId :=
  let found := Matching.select ⟨engine.page, engine.source⟩ rule.tree
  let engine := engine.write found.log
  match found.result with
  | .ok nodes => (engine, nodes)
  | .error e => (if engine.debug then engine.write [⟨.error, e.message⟩] else engine, [])

/-- Applies rules in turn. The result holds the rules with their new state, and the elements that were
selected. -/
def applyEach (engine : Engine σ) :
    List RuleState → Engine σ × List RuleState × Except EngineError (List NodeId)
  | [] => (engine, [], .ok [])
  | state :: rest =>
    let (engine, nodes) := engine.selectNodes state.rule
    match engine.applyToNodes state.rule nodes with
    | (engine, .error e) => (engine, state :: rest, .error e)
    | (engine, .ok ()) =>
      let (engine, rest, result) := engine.applyEach rest
      (engine, state.applied engine.debug nodes :: rest, result.map (nodes ++ ·))

/-- Gives the element of an affected entry its initial style back. -/
def revert (page : Page) (a : Affected) : Page := page.writeStyle a.node a.initialStyle

/-- Settles an entry at the end of a pass: it is dropped if no rule selects its element, and else protected
unless it is or the element has been removed. -/
def settle (selected : List NodeId) (a : Affected) (engine : Engine σ) : Engine σ :=
  if !selected.contains a.node then { engine with page := revert engine.page a }
  else if !a.removed && a.protection.isNone then
    { engine with
      affected := a.protectedBy engine.nextProtection :: engine.affected
      nextProtection := engine.nextProtection + 1 }
  else { engine with affected := a :: engine.affected }

/-- Settles all entries, the last first. -/
def settleAll (engine : Engine σ) (selected : List NodeId) : Engine σ :=
  engine.affected.foldr (settle selected) { engine with affected := [] }

/-- Reports the timings after the first pass that succeeds. -/
def reportTimings (engine : Engine σ) : Engine σ :=
  if engine.timingsReported then engine
  else
    { engine with timingsReported := true }.write <|
      if engine.timings.isEmpty then []
      else [⟨.info, "[ExtendedCss] Timings in milliseconds:"⟩]

/-- Runs a pass. The page is not observed meanwhile. -/
def pass (engine : Engine σ) : Engine σ × Except EngineError Unit :=
  let (engine, rules, result) := engine.stopObserving.applyEach engine.rules
  let engine := { engine with rules }
  match result with
  | .error e => (engine, .error e)
  | .ok selected => ((engine.settleAll selected).dropOwnMutations.observe.reportTimings, .ok ())

end CosmeticRules.Engine
