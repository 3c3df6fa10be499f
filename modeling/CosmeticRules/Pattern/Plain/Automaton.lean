import CosmeticRules.Pattern.Plain.Syntax
import Std.Data.HashSet

/-!
The preferred match of a plain pattern from a place. The pattern becomes an automaton whose ways are ordered,
and the search never enters a state at the same place twice. So a repetition that does not move on comes to
nothing, and the ways that are left are tried in order.
-/

namespace CosmeticRules.Pattern.Plain

inductive State
  | read (set : CharSet) (next : Nat)
  | check (a : Anchor) (next : Nat)
  /-- Goes on in one of two states; the first one is preferred. -/
  | fork (first second : Nat)
  | finish
  deriving DecidableEq, Repr, Inhabited

structure Automaton where
  states : Array State
  start : Nat
  deriving DecidableEq, Repr, Inhabited

abbrev Builder := StateM (Array State)

/-- Adds a state and gives its number. -/
def addState (s : State) : Builder Nat := modifyGet fun states => (states.size, states.push s)

def setState (number : Nat) (s : State) : Builder Unit := modify fun states => states.setIfInBounds number s

/-- A fork between a way on and the way past it. -/
def forkFor (greedy : Bool) (into past : Nat) : State :=
  if greedy then .fork into past else .fork past into

/-- Builds something in front of a state so many times. -/
def buildTimes (build : Nat → Builder Nat) : Nat → Nat → Builder Nat
  | 0, next => return next
  | count + 1, next => do buildTimes build count (← build next)

/-- Builds something in front of a state up to so many times; each time it may be left out together with
those after it. -/
def buildUpTo (build : Nat → Builder Nat) (greedy : Bool) (past : Nat) : Nat → Nat → Builder Nat
  | 0, next => return next
  | count + 1, next => do
    let into ← build next
    buildUpTo build greedy past count (← addState (forkFor greedy into past))

/-- Builds a loop that goes through something at least once; gives its first state and its fork. -/
def buildLoop (build : Nat → Builder Nat) (greedy : Bool) (next : Nat) : Builder (Nat × Nat) := do
  let loop ← addState .finish
  let into ← build loop
  setState loop (forkFor greedy into next)
  return (into, loop)

/-- Builds a pattern in front of a state and gives its first state. -/
def build : Plain → Nat → Builder Nat
  | empty, next => return next
  | char set, next => addState (.read set next)
  | anchor a, next => addState (.check a next)
  | sequence p q, next => do p.build (← q.build next)
  | either p q, next => do
    let first ← p.build next
    let second ← q.build next
    addState (.fork first second)
  | repeated p least (some most) greedy, next => do
    buildTimes p.build least (← buildUpTo p.build greedy next (most - least) next)
  | repeated p 0 none greedy, next => do
    let (into, loop) ← buildLoop p.build greedy next
    if p.isNullable then addState (forkFor greedy into next) else return loop
  | repeated p (least + 1) none greedy, next => do
    buildTimes p.build least (← buildLoop p.build greedy next).1

def automaton (p : Plain) : Automaton :=
  let (start, states) := (do p.build (← addState .finish) : Builder Nat).run #[]
  ⟨states, start⟩

/-- Where a search stands: the states to try at their places, the preferred one first, and those that have
been tried. -/
structure Search where
  waiting : List (Nat × Nat)
  tried : Std.HashSet (Nat × Nat)

/-- The states that a state leads to from a place. -/
def State.following (text : Array Char) (position : Nat) : State → List (Nat × Nat)
  | read set next => if (text[position]?).any set.contains then [(next, position + 1)] else []
  | check a next => if a.holds text position then [(next, position)] else []
  | fork first second => [(first, position), (second, position)]
  | finish => []

/-- The end of the first match that is found in at most so many steps. -/
def Automaton.searchFrom (a : Automaton) (text : Array Char) : Nat → Search → Option Nat
  | 0, _ => none
  | _ + 1, ⟨[], _⟩ => none
  | count + 1, ⟨(number, position) :: waiting, tried⟩ =>
    if tried.contains (number, position) then a.searchFrom text count ⟨waiting, tried⟩
    else
      match a.states[number]? with
      | some .finish => some position
      | none => a.searchFrom text count ⟨waiting, tried⟩
      | some s =>
        a.searchFrom text count
          ⟨s.following text position ++ waiting, tried.insert (number, position)⟩

/-- The end of the preferred match from a place. Each state at each place leads to at most two others. -/
def Automaton.preferredEnd? (a : Automaton) (text : Array Char) (position : Nat) : Option Nat :=
  a.searchFrom text (2 * a.states.size * (text.size + 1) + 2) ⟨[(a.start, position)], ∅⟩

end CosmeticRules.Pattern.Plain
