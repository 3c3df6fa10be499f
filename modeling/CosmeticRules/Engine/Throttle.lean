import CosmeticRules.Log
import CosmeticRules.Page.Basic

/-!
When passes run: requests for a pass are gathered, and changes of attributes right after a hover event
request none.
-/

namespace CosmeticRules

/-- When the last requested pass ran, and when the next one is due. -/
structure Throttle where
  lastRun : Option Nat := none
  due : Option Nat := none
  deriving DecidableEq, Repr, Inhabited

namespace Throttle

/-- The least time between two requested passes, in milliseconds. -/
def interval : Nat := 150

/-- The deadline of a pass that is requested now: at once, or when the interval since the last pass is
over. Times wrap around at the end of the clock. -/
def deadline (t : Throttle) (now : Nat) : Nat :=
  match t.lastRun with
  | some lastRun =>
    if now - lastRun < interval then (now + (interval - (now - lastRun))) % (Page.endOfTime + 1)
    else now
  | none => now

/-- Requests a pass, unless one is pending. -/
def request (t : Throttle) (now : Nat) : Throttle :=
  match t.due with
  | some _ => t
  | none => { t with due := some (t.deadline now) }

/-- What is logged about a request. -/
def requestLog (t : Throttle) (now : Nat) : List LogEntry :=
  match t.due, t.lastRun with
  | some _, _ => [⟨.debug, "[scheduler] pass already pending"⟩]
  | none, some lastRun =>
    if now - lastRun < interval then
      [⟨.debug, s!"[scheduler] deferred to {t.deadline now}ms"⟩]
    else []
  | none, none => []

/-- Whether the pending pass is due. -/
def isDue (t : Throttle) (now : Nat) : Bool := t.due.any (· ≤ now)

/-- Starts the pass that is due. -/
def start (_ : Throttle) (now : Nat) : Throttle := ⟨some now, none⟩

def cancel (t : Throttle) : Throttle := { t with due := none }

end Throttle

namespace InputEvent

/-- The events that come with the pointer passing over elements. -/
def hoverTypes : List String := ["mouseover", "mouseleave", "mouseenter", "mouseout"]

/-- How long changes of attributes may be due to a hover event, in milliseconds. -/
def hoverTime : Nat := 10

/-- Whether changes of attributes seen now may be due to this event; observation began at the given
time. -/
def isRecentHover (event : InputEvent) (observedSince now : Nat) : Bool :=
  observedSince ≤ event.time && hoverTypes.contains event.type && now - event.time < hoverTime

end InputEvent

namespace Mutation

def isAttribute (m : Mutation) : Bool :=
  match m.kind with
  | .attribute _ => true
  | .childList => false

/-- The attributes whose change may alter which elements are selected. -/
def observedAttributes : List String := ["id", "class"]

/-- Whether a change may alter which elements are selected. -/
def isObserved (m : Mutation) : Bool :=
  match m.kind with
  | .attribute name => observedAttributes.contains name
  | .childList => true

def isStyleChange (m : Mutation) : Bool := m.kind == .attribute "style"

end Mutation

end CosmeticRules
