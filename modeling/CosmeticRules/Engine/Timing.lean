import CosmeticRules.Engine.Affected

/-!
Timings of rules. How long a rule takes is measured outside; here are the figures that are made of it, and
how often each rule has been timed.
-/

namespace CosmeticRules

/-- The durations of the applications of a rule in milliseconds, with their sum, mean and standard
deviation. -/
structure TimingStats where
  applies : List Float
  count : Nat
  sum : Float
  mean : Float
  deviation : Float
  deriving Inhabited

namespace TimingStats

/-- Rounds to four decimals; a half goes away from zero. -/
def roundFigure (x : Float) : Float := (x * 10000).round / 10000

/-- The figures as they are reported. -/
def beautified (s : TimingStats) : TimingStats where
  applies := s.applies.map roundFigure
  count := s.count
  sum := roundFigure s.sum
  mean := roundFigure s.mean
  deviation := roundFigure s.deviation

end TimingStats

/-- A rule, how often it has been timed, and the elements that it selected last. -/
structure RuleState where
  rule : Rule
  timed : Nat := 0
  selected : List NodeId := []
  deriving DecidableEq, Repr, Inhabited

/-- What is reported of a rule that has been timed. -/
structure RuleTimings where
  selector : String
  timed : Nat
  removes : Bool
  style : Option Style
  selected : List NodeId
  deriving DecidableEq, Repr, Inhabited

namespace RuleState

/-- Records that a rule has been applied to these elements. Times are taken for a rule that asks for it, and
for every rule if all are timed. -/
def applied (state : RuleState) (allTimed : Bool) (nodes : List NodeId) : RuleState :=
  let own := state.rule.debug.isSome
  { state with
    timed := if own || allTimed then state.timed + 1 else state.timed
    selected := if own then nodes else state.selected }

/-- The report on a rule; removal rules report neither a style nor elements. -/
def timings? (state : RuleState) : Option RuleTimings :=
  let removes := state.rule.style.any (·.isRemove)
  if state.timed = 0 then none
  else some {
    selector := state.rule.selector
    timed := state.timed
    removes
    style := if removes then none else state.rule.style
    selected := if removes then [] else state.selected }

end RuleState

end CosmeticRules
