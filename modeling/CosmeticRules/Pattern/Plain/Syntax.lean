import CosmeticRules.Pattern.Anchor
import CosmeticRules.Pattern.CharSet

/-!
Plain patterns: those without look-around and without references to groups.
-/

namespace CosmeticRules.Pattern

inductive Plain
  | empty
  | char (set : CharSet)
  | anchor (a : Anchor)
  | sequence (first second : Plain)
  /-- Either of two patterns; the first one is preferred. -/
  | either (first second : Plain)
  /-- Repeats a pattern at least and at most so often; a greedy one prefers more repetitions. -/
  | repeated (p : Plain) (least : Nat) (most : Option Nat) (greedy : Bool)
  deriving DecidableEq, Repr, Inhabited

namespace Plain

/-- Whether a pattern may match without moving on. -/
def isNullable : Plain → Bool
  | empty | anchor _ => true
  | char _ => false
  | sequence p q => p.isNullable && q.isNullable
  | either p q => p.isNullable || q.isNullable
  | repeated p least _ _ => least == 0 || p.isNullable

/-- Whether a pattern never moves on. -/
def isWidthless : Plain → Bool
  | empty | anchor _ => true
  | char _ => false
  | sequence p q | either p q => p.isWidthless && q.isWidthless
  | repeated p _ most _ => most == some 0 || p.isWidthless

/-- Repeats a pattern. Of one that never moves on, a second repetition would change nothing. -/
def times (p : Plain) (least : Nat) (most : Option Nat) (greedy : Bool) : Plain :=
  let (least, most) := if p.isWidthless then (min least 1, some (min (most.getD 1) 1)) else (least, most)
  if most = some 0 then empty else repeated p least most greedy

/-- Patterns one after another. -/
def ofSequence : List Plain → Plain
  | [] => empty
  | [p] => p
  | p :: rest => sequence p (ofSequence rest)

/-- Alternatives, the preferred one first. -/
def ofAlternatives (first : Plain) : List Plain → Plain
  | [] => first
  | second :: rest => either first (ofAlternatives second rest)

end Plain

end CosmeticRules.Pattern
