import CosmeticRules.Pattern.Extended.Printer
import CosmeticRules.Pattern.Plain.Reader
import CosmeticRules.Pattern.Step

/-!
The steps by which a hard pattern is searched for.

The parts of a hard pattern that are not hard themselves are left to plain patterns as far as nothing has to
go back into them: those that take a fixed number of characters, and those after which nothing follows.
-/

namespace CosmeticRules.Pattern.Extended

/-- Gives out the slots after those of the groups. -/
abbrev Planner := StateT Nat (Except Error)

def newSlot : Planner Nat := modifyGet fun next => (next, next + 1)

/-- The plain pattern by which parts that are not hard match one after another. -/
def plainOf (parts : List Extended) : Except Error Plain :=
  Plain.read {} (parts.flatMap (print .branch))

/-- The step for parts that are not hard. -/
def delegated : List Extended → Planner Step
  | [] => return .nothing
  | [literal c false] => return .literal c
  | parts => return .plain (← plainOf parts).automaton

/-- The step for parts of a sequence, given the steps for each of them. Those at the start and at the end
that are not hard are left to plain patterns, unless what follows may have to go back into one at the end
whose extent is not fixed. -/
def inSequence (referred : List Nat) (followed : Bool) (parts : List Extended)
    (steps : List (Planner Step)) : Planner Step := do
  let isEasy (p : Extended) := !p.isHard referred
  let isFixed (p : Extended) := isEasy p && p.extent.fixed
  let start := parts.takeWhile isFixed
  let rest := parts.drop start.length
  let stop := (rest.reverse.takeWhile (if followed then isFixed else isEasy)).reverse
  let first ← delegated start
  let between ← ((steps.drop start.length).take (rest.length - stop.length)).mapM id
  let last ← delegated stop
  return .ofList (first :: between ++ [last])

/-- The step for a look-behind, given the step for its pattern. Where the extent is not fixed, a plain
pattern looks for a match that ends here. -/
def behind (referred : List Nat) (p : Extended) (step : Planner Step) : Planner Step := do
  if p.extent.fixed then return .sequence (.back p.extent.least) (← step)
  else if p.isHard referred then throw .unboundedLookBehind
  else return .endOf (← plainOf [p])

/-- The step for a look-around, given the step that looks. -/
def looking (negated : Bool) (step : Planner Step) : Planner Step := do
  let slot ← newSlot
  let s ← step
  if negated then return .forbid slot (.sequence s (.refuse slot))
  else return .ofList [.save slot, s, .restore slot]

/-- The step for a repetition, given the step for what is repeated. -/
def repeating (p : Extended) (least : Nat) (most : Option Nat) (greedy : Bool) (step : Planner Step) :
    Planner Step := do
  let counted : Planner Step := do
    let counter ← newSlot
    return .sequence (.clear counter) (.counted least most greedy counter (← step))
  match least, most with
  | 0, some 1 => return .optional greedy (← step)
  | _, some _ => counted
  | least, none =>
    if p.extent.least = 0 then
      let counter ← newSlot
      let place ← newSlot
      return .sequence (.clear counter) (.guarded least greedy counter place (← step))
    else
      match least with
      | 0 => return .loop greedy (← step)
      | 1 =>
        let s ← step
        return .sequence s (.loop greedy s)
      | _ => counted

mutual

/-- The step for a pattern. If it is followed by something that may fail, the search has to be able to go
back into it. -/
def plan (referred : List Nat) (followed : Bool) (p : Extended) : Planner Step :=
  if !followed && !p.isHard referred then delegated [p]
  else
    match p with
    | empty | matchStart => return .nothing
    | any lineFeed => return .any lineFeed
    | literal c ignoreCase => delegated [literal c ignoreCase]
    | plain text ignoreCase => delegated [plain text ignoreCase]
    | anchor a => return .anchor a
    | searchStart => return .anchor .textStart
    | lineBreak => return .lineBreak
    | reference index ignoreCase _ => return .reference index ignoreCase
    | isMatched index => return .isMatched index
    | sequence parts => inSequence referred followed parts (planEach referred true parts)
    | either choices => return .ofChoices (← (planEach referred followed choices).mapM id)
    | repeated p least most greedy =>
      let isOptional := least == 0 && most == some 1
      repeating p least most greedy (plan referred (followed || !isOptional) p)
    | group index p => do
      return .ofList [.save (2 * index), ← plan referred followed p, .save (2 * index + 1)]
    | atomic p => return .ofList [.beginAtomic, ← plan referred false p, .endAtomic]
    | conditional condition yes no => do
      let found := Step.ofList
        [← plan referred followed condition, .endAtomic, ← plan referred followed yes]
      return .sequence .beginAtomic (.either found (← plan referred followed no))
    | look false negated p => looking negated (plan referred false p)
    | look true negated p =>
      let whole := looking negated (behind referred p (plan referred false p))
      match p with
      | either choices =>
        if p.extent.fixed then whole
        else do
          let each ← ((choices.zip (planEach referred false choices)).map fun (choice, step) =>
            looking negated (behind referred choice step)).mapM id
          return if negated then .ofList each else .ofChoices each
      | _ => whole

def planEach (referred : List Nat) (followed : Bool) : List Extended → List (Planner Step)
  | [] => []
  | p :: rest => plan referred followed p :: planEach referred followed rest

end

end CosmeticRules.Pattern.Extended
