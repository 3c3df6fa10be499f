import CosmeticRules.Pattern.Plain.Automaton

/-!
The steps of a search that goes back when it fails.
-/

namespace CosmeticRules.Pattern

/-- What the search does next. Slots hold places and counts; two of them belong to each group. -/
inductive Step
  | nothing
  | literal (c : Char)
  | any (lineFeed : Bool)
  | anchor (a : Anchor)
  | lineBreak
  /-- Goes to the end of the preferred match of a plain pattern. -/
  | plain (a : Plain.Automaton)
  /-- Holds where a match of a plain pattern ends. -/
  | endOf (p : Plain)
  /-- Goes back so many characters. -/
  | back (count : Nat)
  | sequence (first second : Step)
  /-- Takes the first step, and the second one if that fails. -/
  | either (first second : Step)
  /-- Repeats a step as often as it likes. -/
  | loop (greedy : Bool) (body : Step)
  /-- Repeats a step between the given bounds, counting in a slot. -/
  | counted (least : Nat) (most : Option Nat) (greedy : Bool) (counter : Nat) (body : Step)
  /-- Repeats a step that may not move on; it ends after a repetition that has not. -/
  | guarded (least : Nat) (greedy : Bool) (counter place : Nat) (body : Step)
  | clear (slot : Nat)
  | save (slot : Nat)
  | restore (slot : Nat)
  /-- Holds if a step fails. The mark tells this step from others. -/
  | forbid (mark : Nat) (body : Step)
  /-- Fails the step with this mark. -/
  | refuse (mark : Nat)
  | beginAtomic
  | endAtomic
  | reference (group : Nat) (ignoreCase : Bool)
  | isMatched (group : Nat)
  deriving DecidableEq, Repr, Inhabited

namespace Step

def ofList : List Step → Step
  | [] => nothing
  | [s] => s
  | s :: rest => sequence s (ofList rest)

/-- The first of several steps that does not fail. -/
def ofChoices : List Step → Step
  | [] => nothing
  | [s] => s
  | s :: rest => either s (ofChoices rest)

/-- Takes a step or leaves it. -/
def optional (greedy : Bool) (s : Step) : Step := if greedy then either s nothing else either nothing s

end Step

end CosmeticRules.Pattern
