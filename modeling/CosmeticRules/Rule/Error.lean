/-!
Why the text of a rule, a list of declarations or a style sheet is refused.
-/

namespace CosmeticRules

/-- A fault in a rule, with the piece of text that its message quotes. -/
inductive StyleError
  | atRule (selector : String)
  | misplacedRemove (selector : String)
  | comment
  | commentInSheet (sheet : String)
  | noSelector
  | noSelectorInSheet (rest : String)
  | noClosedBlock
  | invalidSelector
  | invalidSelectorInSheet (selector : String)
  | nothingToApply
  | nothingToApplyInSheet (rest : String)
  | noValidSelector
  | invalidDeclaration (rest : String)
  | noDeclaration (rest : String)
  | unclosedDeclaration (rest : String)
  | noProperty (rest : String)
  | noValue (rest : String)
  | propertyOfTwoWords (block : String)
  | noPropertyBeforeColon (block : String)
  | strayMark (block : String)
  | invalidValue (property block : String)
  | openQuote (block : String)
  | propertyWithoutValue (property block : String)
  | emptyBlock
  deriving DecidableEq, Repr, Inhabited

namespace StyleError

def message : StyleError → String
  | atRule selector => s!"At-rules are not supported: '{selector}'."
  | misplacedRemove selector => s!"Invalid :remove() pseudo-class in selector: '{selector}'"
  | comment => "Comments are not supported"
  | commentInSheet sheet => s!"Comments are not supported in stylesheet: '{sheet}'"
  | noSelector => "Selector should be defined"
  | noSelectorInSheet rest =>
    s!"Selector should be defined before style declaration in stylesheet: '{rest}'"
  | noClosedBlock => "No style declaration found OR Unclosed style declaration"
  | invalidSelector => "Invalid selector"
  | invalidSelectorInSheet selector => s!"Invalid selector in stylesheet: '{selector}'"
  | nothingToApply => "Style should be declared or :remove() pseudo-class should used"
  | nothingToApplyInSheet rest =>
    s!"Style should be declared or :remove() pseudo-class should used: '{rest}'"
  | noValidSelector => "Selector is not valid"
  | invalidDeclaration rest => s!"Invalid style declaration: '{rest}'"
  | noDeclaration rest => s!"No style declaration found: '{rest}'"
  | unclosedDeclaration rest => s!"Unclosed style declaration: '{rest}'"
  | noProperty rest => s!"Missing style property in declaration: '{rest}'"
  | noValue rest => s!"Missing style value in declaration: '{rest}'"
  | propertyOfTwoWords block => s!"Invalid style property in style block: '{block}'"
  | noPropertyBeforeColon block => s!"Missing style property before ':' in style block: '{block}'"
  | strayMark block => s!"Invalid style declaration in style block: '{block}'"
  | invalidValue property block =>
    s!"Invalid style value for property '{property}' in style block: '{block}'"
  | openQuote block => s!"Unbalanced style declaration quotes in style block: '{block}'"
  | propertyWithoutValue property block =>
    s!"Missing style value for property '{property}' in style block '{block}'"
  | emptyBlock => "No style declaration found"

end StyleError

end CosmeticRules
