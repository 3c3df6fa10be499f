/-!
Why a text is not a pattern, and why matching gives up.
-/

namespace CosmeticRules.Pattern

inductive Error
  | openGroup
  | openClass
  | badClass
  | notRepeatable
  | badCount
  | badEscape
  | badReference
  | badName
  | badFlag
  | badCondition
  | tooDeep
  | tooLarge
  | strayClosing
  | mixedReferences
  | unboundedLookBehind
  | subroutine
  | tooManySteps
  deriving DecidableEq, Repr, Inhabited

def Error.message : Error → String
  | openGroup => "opening parenthesis without closing parenthesis"
  | openClass => "opening bracket without closing bracket"
  | badClass => "invalid character class"
  | notRepeatable => "target of repetition is not repeatable"
  | badCount => "invalid repetition count"
  | badEscape => "invalid escape"
  | badReference => "invalid reference to a group"
  | badName => "invalid group name"
  | badFlag => "invalid flags"
  | badCondition => "condition without a pattern for the case that it holds"
  | tooDeep => "groups are nested too deeply"
  | tooLarge => "pattern is too large"
  | strayClosing => "closing parenthesis without opening parenthesis"
  | mixedReferences => "reference by number in a pattern with group names"
  | unboundedLookBehind => "look-behind whose length is not fixed"
  | subroutine => "groups cannot be called"
  | tooManySteps => "matching takes too many steps"

end CosmeticRules.Pattern
