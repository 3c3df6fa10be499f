import CosmeticRules.Rule.Style
import CosmeticRules.Selector.Tree

/-!
Rules: a selector with its tree, the style for the elements it selects, and whether timings are kept.
Rules with the same selector are gathered into one before they are made.
-/

namespace CosmeticRules

/-- For which rules timings are kept. -/
inductive DebugMode
  | rule
  | everywhere
  deriving DecidableEq, Repr, Inhabited

structure Rule where
  selector : String
  tree : SelectorTree
  style : Option Style
  debug : Option DebugMode
  deriving DecidableEq, Repr, Inhabited

/-- A rule as it is read, with its declarations in order. -/
structure RawRule where
  selector : String
  tree : SelectorTree
  declarations : List Declaration
  deriving DecidableEq, Repr, Inhabited

namespace Rule

/-- The property that turns timings on. -/
def debugProperty : String := "debug"

def debugMode? (value : String) : Option DebugMode :=
  if value == "true" then some .rule else if value == "global" then some .everywhere else none

def isRemoval (d : Declaration) : Bool :=
  d.property == Style.removeProperty && d.value == Style.removeValue

/-- The style of a rule that deletes elements; a declared content is kept for hooks. -/
def removalStyle (declarations : List Declaration) : Style :=
  let style := Style.insert {} Style.removeProperty Style.removeValue
  match declarations.find? (·.property == Style.contentProperty) with
  | some content => style.insert Style.contentProperty content.value
  | none => style

/-- The rule that a list of declarations makes of a selector. Debug declarations are taken out, and the
first of them counts. -/
def ofRaw (raw : RawRule) : Rule :=
  let debug := raw.declarations.find? (·.property == debugProperty)
  let declarations := raw.declarations.filter (·.property != debugProperty)
  let style :=
    if raw.declarations.any isRemoval then some (removalStyle declarations)
    else if declarations.isEmpty then none
    else some (Style.ofList declarations)
  ⟨raw.selector, raw.tree, style, debug.bind (debugMode? ·.value)⟩

end Rule

namespace RawRule

/-- Adds a rule to a list with one rule for each selector: the declarations of a selector that is there
already are appended to those it has. -/
def gather : List RawRule → RawRule → List RawRule
  | [], raw => [raw]
  | first :: rest, raw =>
    if first.selector = raw.selector then
      { first with declarations := first.declarations ++ raw.declarations } :: rest
    else first :: gather rest raw

end RawRule

end CosmeticRules
