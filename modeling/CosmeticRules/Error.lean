import CosmeticRules.Engine.Run

/-!
The errors of all parts of the library, with the messages in which they are reported.
-/

namespace CosmeticRules

inductive Error
  | selector (e : SelectorError)
  | style (e : StyleError)
  | matching (e : MatchError)
  | configuration (e : ConfigurationError)
  | engine (e : EngineError)
  | unsupported (e : Css.Unsupported)
  | path (e : XPath.Error)
  | markup (e : Markup.Error)
  | page (e : PageError)
  deriving DecidableEq, Repr, Inhabited

def Error.message : Error → String
  | selector e => e.message
  | style e => e.message
  | matching e => e.message
  | configuration e => e.message
  | engine e => e.message
  | unsupported e => e.message
  | path e => e.report
  | markup e => s!"html parse error: {e.message}"
  | page e => s!"runtime error: {e.message}"

end CosmeticRules
