import CosmeticRules.Css.Reader
import CosmeticRules.Pattern.Error
import CosmeticRules.Selector.Error
import CosmeticRules.Selector.PseudoClass

/-!
Why the selection of elements fails.
-/

namespace CosmeticRules

def Css.Unsupported.message (e : Css.Unsupported) : String := s!"unsupported selector: {e.selector}"

/-- What an absolute pseudo-class compares. -/
inductive MatchSubject
  | text
  | style
  | attributes
  | properties
  deriving DecidableEq, Repr, Inhabited

def MatchSubject.name : MatchSubject → String
  | text => "text content"
  | style => "style"
  | attributes => "attributes"
  | properties => "properties"

inductive MatchError
  | tree (fault : TreeFault)
  | nativeSelector (selector : String) (cause : Css.Unsupported)
  | noPseudo
  | noList (pseudo : PseudoClass)
  | noArgument (pseudo : PseudoClass)
  | noRegular (pseudo : PseudoClass)
  | notPossible (pseudo : PseudoClass)
  | badSelector (pseudo : PseudoClass) (selector : String)
  | badArgument (pseudo : PseudoClass) (argument : String)
  | badTarget (pseudo : PseudoClass) (argument : String)
  | badTextPattern (pseudo : PseudoClass) (argument : String)
  | noStyle (pseudo : PseudoClass) (argument : String)
  | noStyleValue (pseudo : PseudoClass) (declaration : String)
  | noName (pseudo : PseudoClass) (argument : String)
  | badName (pseudo : PseudoClass) (name : String)
  | noMatcher
  | emptyPattern (raw : String)
  | tooGeneral (raw : String)
  | badMatcher (raw : String)
  | pattern (e : Pattern.Error)
  | openChain (chain : String)
  | emptyLink (chain : String)
  | badLink (link chain : String)
  | element (subject : MatchSubject) (pseudo : PseudoClass) (argument : String)
  deriving DecidableEq, Repr, Inhabited

def MatchError.message : MatchError → String
  | tree fault => fault.message
  | nativeSelector selector cause => s!"Error: unable to select by '{selector}' -- {cause.message}"
  | noPseudo => "Extended selector should have a pseudo-class child"
  | noList pseudo => s!"Selector list is missing for :{pseudo.name}() pseudo-class"
  | noArgument pseudo => s!"Missing arg for :{pseudo.name}() pseudo-class"
  | noRegular pseudo => s!"RegularSelector is missing for :{pseudo.name}() pseudo-class"
  | notPossible pseudo => s!"Selection by :{pseudo.name}() pseudo-class is not possible"
  | badSelector pseudo selector => s!"Invalid selector for :{pseudo.name}() pseudo-class: '{selector}'"
  | badArgument pseudo argument => s!"Invalid argument of :{pseudo.name}() pseudo-class: '{argument}'"
  | badTarget pseudo argument => s!"Invalid argument of :{pseudo.name} pseudo-class: '{argument}'"
  | badTextPattern pseudo argument => s!"Invalid argument of :{pseudo.name}() pseudo-class: {argument}"
  | noStyle pseudo argument =>
    s!"Required style property argument part is missing in :{pseudo.name}() arg: '{argument}'"
  | noStyleValue pseudo declaration =>
    s!"Required property name or value is missing in :{pseudo.name}() arg: '{declaration}'"
  | noName pseudo argument => s!"Required attribute name is missing in :{pseudo.name} arg: {argument}"
  | badName pseudo name => s!"Invalid :{pseudo.name} name pattern: {name}"
  | noMatcher => "Argument should be specified. Empty arg is invalid."
  | emptyPattern raw => s!"Invalid regexp: '{raw}'"
  | tooGeneral raw => s!"Argument should be more specific than {raw}"
  | badMatcher raw => s!"Invalid argument: '{raw}'"
  | pattern e => e.message
  | openChain chain => s!"Invalid regexp property pattern '{chain}'"
  | emptyLink chain => s!"Empty pattern '' is invalid in chain '{chain}'"
  | badLink link chain => s!"Invalid property pattern '{link}' in property chain '{chain}'"
  | element subject pseudo argument =>
    s!"Error while matching element {subject.name}, may be invalid :{pseudo.name}() pseudo-class arg: " ++
      s!"'{argument}'"

end CosmeticRules
