import CosmeticRules.Engine.Affected
import CosmeticRules.Rule.Sheet

/-!
What an engine is set up with: where its rules come from, whether all of them are timed, and a hook that
may change what is applied to an element.
-/

namespace CosmeticRules

/-- An element that is about to be styled, and the rules for it. -/
structure StyleTarget where
  node : NodeId
  rules : List Rule
  deriving DecidableEq, Repr, Inhabited

/-- What is called before styles are applied: it may change the element and the rules, or give nothing at
all. It can keep a state. -/
abbrev Hook (σ : Type) := σ → StyleTarget → Option StyleTarget × σ

structure Configuration (σ : Type) where
  styleSheet : Option String := none
  rules : Option (List String) := none
  debug : Bool := false
  hook : Option (Hook σ) := none

inductive ConfigurationError
  | noRules
  | badSheet (cause : StyleError)
  deriving DecidableEq, Repr, Inhabited

def ConfigurationError.message : ConfigurationError → String
  | noRules => "ExtendedCss configuration should have 'styleSheet' or 'cssRules' defined."
  | badSheet cause =>
    "Pass the rules as configuration.cssRules since configuration.styleSheet cannot be parsed " ++
      s!"because of: '{cause.message}'"

namespace Configuration

variable {σ : Type}

/-- The rules of the style sheet and then those of the list. An empty style sheet counts as none. A sheet
that cannot be read is an error, but a rule of the list is only logged then. -/
def readRules (configuration : Configuration σ) : Logged ConfigurationError (List Rule) := do
  let sheet := configuration.styleSheet.filter (!·.isEmpty)
  if sheet.isNone && configuration.rules.isNone then throw .noRules
  let ofSheet ← match sheet with
    | some text => (Sheet.read text).mapError .badSheet
    | none => pure []
  let ofList ← match configuration.rules with
    | some texts => Rule.readAll texts
    | none => pure []
  return ofSheet ++ ofList

end Configuration

end CosmeticRules
