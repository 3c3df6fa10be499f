/-!
Why the text of a selector is refused.
-/

namespace CosmeticRules

/-- The parts of a selector tree that can be missing or of the wrong kind. -/
inductive TreeFault
  | emptyValue
  | noValue
  | noChildren
  | notOneChild
  | notPlain
  | noRegular
  | notRelative
  | noPseudo
  deriving DecidableEq, Repr, Inhabited

def TreeFault.message : TreeFault → String
  | emptyValue => "Ast RegularSelector ot AbsolutePseudoClass node should have a value"
  | noValue => "Only RegularSelector ot AbsolutePseudoClass node can have a value"
  | noChildren => "Node should have children"
  | notOneChild => "Selector node should have exact one child"
  | notPlain => "Selector should have only one RegularSelector child"
  | noRegular => "No RegularSelector node found"
  | notRelative => "Relative pseudo-class should have a SelectorList"
  | noPseudo => "Extended selector should have a pseudo-class"

inductive SelectorError
  | notASelector (selector : String)
  | oldSyntax (selector : String)
  | blankAtPseudo (selector : String)
  | unknownPseudo (name : String)
  | strayBracket (selector value : String)
  | colonAtEnd (selector : String)
  | argumentAtEnd (selector : String)
  | removePseudo (selector : String)
  | nothingToRemove (selector : String)
  | removeTwice (selector : String)
  | removeNotLast (selector : String)
  | hasInsidePseudo (name outer : String)
  | hasAfterElement (name element : String)
  | nothingBefore (name : String)
  | xpathNotLast (selector : String)
  | openPseudo (name : String)
  | openAttribute (selector : String)
  | attributeStart (condition first : String)
  | attributeEqual (condition : String)
  | attributeValue (condition : String)
  | patternPlace (name argument : String)
  | patternOutside
  | noParent
  | nothingOpen
  | nothingToContinue
  | openHasNoValue
  | notInSelector
  | noSelector
  | tree (fault : TreeFault)
  deriving DecidableEq, Repr, Inhabited

namespace SelectorError

def message : SelectorError → String
  | notASelector selector => s!"'{selector}' is not a valid selector"
  | oldSyntax selector => s!"Invalid extended-css old syntax selector: '{selector}'"
  | blankAtPseudo selector =>
    "No white space is allowed before or after extended pseudo-class name in selector: " ++
      s!"'{selector}'"
  | unknownPseudo name => s!"Unknown pseudo-class :{name}()"
  | strayBracket selector value => s!"'{selector}' is not a valid selector due to ']' after '{value}'"
  | colonAtEnd selector => s!"Invalid colon ':' at the end of selector: '{selector}'"
  | argumentAtEnd selector => s!"Invalid pseudo-class arg at the end of selector: '{selector}'"
  | removePseudo selector => s!"Invalid :remove() pseudo-class in selector: '{selector}'"
  | nothingToRemove selector =>
    s!"Selector should be defined before :remove() pseudo-class: '{selector}'"
  | removeTwice selector =>
    s!"Pseudo-class :remove() appears more than once in selector: '{selector}'"
  | removeNotLast selector =>
    s!"Pseudo-class :remove() should be at the end of selector: '{selector}'"
  | hasInsidePseudo name outer =>
    s!"Usage of :{name}() pseudo-class is not allowed inside regular pseudo: '{outer}'"
  | hasAfterElement name element =>
    s!"Usage of :{name}() pseudo-class is not allowed after any regular pseudo-element: '{element}'"
  | nothingBefore name => s!"Selector should be defined before :{name}() pseudo-class"
  | xpathNotLast selector => s!":xpath() pseudo-class should be the last in selector: '{selector}'"
  | openPseudo name => s!"Unbalanced brackets for extended pseudo-class: '{name}'"
  | openAttribute selector => s!"Unbalanced attribute brackets in selector: '{selector}'"
  | attributeStart condition first =>
    s!"'[{condition}]' is not a valid attribute due to '{first}' at start of it"
  | attributeEqual condition => s!"'[{condition}]' is not a valid attribute due to '='"
  | attributeValue condition => s!"'[{condition}]' is not a valid attribute"
  | patternPlace name argument =>
    s!"Invalid regexp pattern for :{name}() pseudo-class in arg part: '{argument}'"
  | patternOutside => "Regexp pattern allowed only in arg of extended pseudo-class"
  | noParent => "No buffer node"
  | nothingOpen => "No bufferNode to update"
  | nothingToContinue => "No bufferNode found"
  | openHasNoValue => "Only RegularSelector and AbsolutePseudoClass nodes can be updated"
  | notInSelector => "Unsupported bufferNode type"
  | noSelector => "No SelectorNode, impossible to continue selector parsing by ExtendedCss"
  | tree fault => fault.message

end SelectorError

end CosmeticRules
