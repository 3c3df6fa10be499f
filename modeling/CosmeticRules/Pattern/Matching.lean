import CosmeticRules.Pattern.Extended.Plan
import CosmeticRules.Pattern.Extended.Reader
import CosmeticRules.Pattern.Search

/-!
Patterns: regular expressions with look-around and references to groups. A pattern that does without them is
read as a plain one.
-/

namespace CosmeticRules

/-- A pattern that is ready to be looked for. -/
inductive Pattern
  | plain (p : Pattern.Plain)
  /-- A hard pattern, and the number of slots that its steps use. -/
  | hard (start : Pattern.Step) (slots : Nat)
  deriving DecidableEq, Repr, Inhabited

namespace Pattern

/-- Reads a pattern with the flags that hold at its start. In a plain pattern these hold wherever no flags
are switched on. -/
def read (flags : Flags) (s : List Char) : Except Error Pattern := do
  let source ← Extended.read flags s
  let p := source.pattern.withoutLastLook
  if p.isHard source.referred then
    let (start, slots) ← (p.plan source.referred false).run (2 * source.groups + 2)
    return hard start slots
  else return plain (← Plain.read flags (p.print .whole))

/-- Whether a pattern matches somewhere in a text, unless that takes too long to find out. -/
def occursIn (p : Pattern) (s : List Char) : Except Error Bool :=
  match p with
  | plain p => .ok (p.occursIn s)
  | hard start slots => start.occursIn slots s.toArray

end Pattern

end CosmeticRules
