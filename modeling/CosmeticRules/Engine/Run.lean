import CosmeticRules.Engine.Pass

/-!
What the user of an engine calls: applying the rules now, delivering the changes of the page, and taking
everything back.
-/

namespace CosmeticRules.Engine

variable {σ : Type}

/-- Runs a pass now. While the page is still loading, another one runs when it is ready. -/
def apply (engine : Engine σ) : Engine σ × Except EngineError Unit :=
  match engine.pass with
  | (engine, .error e) => (engine, .error e)
  | (engine, .ok ()) =>
    (if engine.page.ready then engine else { engine with awaitsReady := true }, .ok ())

/-- Puts the protected styles of an element back. The protection ends when it has done so too often. -/
def protectNode (engine : Engine σ) (n : NodeId) : Engine σ :=
  match (Affected.find? n engine.affected).bind (·.protection) with
  | none => engine
  | some p =>
    if !p.connected then engine
    else
      let affected := Affected.update n (fun a => { a with protection := some p.next }) engine.affected
      let page := p.styles.foldl (·.applyStyle n) engine.page
      { engine with affected, page }.write <|
        if p.next.connected then []
        else [⟨.error, "ExtendedCss: infinite loop protection for style"⟩]

/-- Puts the styles of all elements back whose style attribute has been changed. -/
def protectStyles (engine : Engine σ) (records : List Mutation) : Engine σ :=
  ((records.filter (·.isStyleChange)).map (·.target)).eraseDups.foldl protectNode engine

/-- Whether changes are passed over because they may be due to a hover event. -/
def isHoverChange (engine : Engine σ) (records : List Mutation) : Bool :=
  match engine.page.lastInput, engine.observedSince with
  | some event, some since =>
    event.isRecentHover since engine.page.now && records.all (·.isAttribute)
  | _, _ => false

/-- Requests a pass if changes may alter which elements are selected. -/
def noteChanges (engine : Engine σ) (records : List Mutation) : Engine σ :=
  let observed := records.filter (·.isObserved)
  if !engine.isObserving || observed.isEmpty then engine
  else if engine.isHoverChange observed then
    engine.write [⟨.debug, "[observer] ignored attribute changes after hover"⟩]
  else
    { engine with throttle := engine.throttle.request engine.page.now }.write
      (engine.throttle.requestLog engine.page.now)

/-- Takes the changes that wait on the page, and does what they ask for. -/
def takeChanges (engine : Engine σ) : Engine σ :=
  let (page, records) := engine.page.takeMutations
  let engine := { engine with page }
  if records.isEmpty then engine
  else ((engine.protectStyles records).dropOwnMutations).noteChanges records

/-- Whether a requested pass is due. -/
def isDue (engine : Engine σ) : Bool := engine.throttle.isDue engine.page.now

/-- The engine when the requested pass begins. -/
def startDue (engine : Engine σ) : Engine σ :=
  { engine with throttle := engine.throttle.start engine.page.now }.write
    [⟨.debug, s!"[scheduler] throttled pass at {engine.page.now}ms"⟩]

/-- Runs the requested pass if it is due, and tells how many passes ran. -/
def runDue (engine : Engine σ) : Engine σ × Except EngineError Nat :=
  if engine.isDue then
    match engine.startDue.pass with
    | (engine, .error e) => (engine, .error e)
    | (engine, .ok ()) => (engine, .ok 1)
  else (engine, .ok 0)

/-- Whether the pass that waits for the page to be ready can run. -/
def isReady (engine : Engine σ) : Bool := engine.awaitsReady && engine.page.ready

/-- The engine when the pass that waited for the page begins. -/
def startReady (engine : Engine σ) : Engine σ := { engine with awaitsReady := false }

/-- Runs the pass that waits for the page to be ready, and tells how many passes ran. -/
def runReady (engine : Engine σ) : Engine σ × Except EngineError Nat :=
  if engine.isReady then
    match engine.startReady.pass with
    | (engine, .error e) => (engine, .error e)
    | (engine, .ok ()) => (engine, .ok 1)
  else (engine, .ok 0)

/-- Delivers the changes of the page and runs the passes that are due; tells how many ran. -/
def pump (engine : Engine σ) : Engine σ × Except EngineError Nat :=
  match engine.takeChanges.runDue with
  | (engine, .error e) => (engine, .error e)
  | (engine, .ok due) =>
    match engine.runReady with
    | (engine, .error e) => (engine, .error e)
    | (engine, .ok ready) => (engine, .ok (due + ready))

/-- Stops observing the page, and gives every affected element its initial style back. -/
def dispose (engine : Engine σ) : Engine σ :=
  { engine.stopObserving with
    throttle := engine.throttle.cancel
    awaitsReady := false
    affected := []
    page := engine.affected.foldl revert engine.page }.dropOwnMutations

/-- The page, after the engine has taken everything back. -/
def releasePage (engine : Engine σ) : Engine σ × Page := (engine.dispose, engine.dispose.page)

end CosmeticRules.Engine
