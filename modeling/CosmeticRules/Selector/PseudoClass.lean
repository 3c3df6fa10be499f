/-!
The extended pseudo-classes. Absolute ones take a plain text as argument, relative ones a list of
selectors.
-/

namespace CosmeticRules

inductive PseudoClass
  | contains
  | hasText
  | abpContains
  | matchesCss
  | matchesCssBefore
  | matchesCssAfter
  | matchesAttr
  | matchesProperty
  | xpath
  | nthAncestor
  | upward
  | has
  | abpHas
  | is
  | not
  deriving DecidableEq, Repr, Inhabited

namespace PseudoClass

/-- Every extended pseudo-class once, in the order in which names are looked up. -/
def all : List PseudoClass :=
  [contains, hasText, abpContains, matchesCss, matchesCssBefore, matchesCssAfter, matchesAttr,
    matchesProperty, xpath, nthAncestor, upward, has, abpHas, is, not]

/-- The name as it is written after the colon. -/
def name : PseudoClass → String
  | contains => "contains"
  | hasText => "has-text"
  | abpContains => "-abp-contains"
  | matchesCss => "matches-css"
  | matchesCssBefore => "matches-css-before"
  | matchesCssAfter => "matches-css-after"
  | matchesAttr => "matches-attr"
  | matchesProperty => "matches-property"
  | xpath => "xpath"
  | nthAncestor => "nth-ancestor"
  | upward => "upward"
  | has => "has"
  | abpHas => "-abp-has"
  | is => "is"
  | not => "not"

/-- The pseudo-class with exactly this name. -/
def ofName? (text : String) : Option PseudoClass := all.find? (·.name == text)

/-- Takes a list of selectors as its argument. -/
def isRelative : PseudoClass → Bool
  | has | abpHas | is | not => true
  | _ => false

/-- Takes a plain text as its argument. -/
def isAbsolute (pseudo : PseudoClass) : Bool := !pseudo.isRelative

/-- Compares with the text content; its argument may hold a bare pattern. -/
def isTextMatching : PseudoClass → Bool
  | contains | hasText | abpContains => true
  | _ => false

def isHas : PseudoClass → Bool
  | has | abpHas => true
  | _ => false

/-- Can be left to native matching when its alternatives are plain selectors. -/
def isFoldable : PseudoClass → Bool
  | is | not => true
  | _ => false

theorem mem_all (pseudo : PseudoClass) : pseudo ∈ all := by cases pseudo <;> decide

theorem name_of_ofName? {text : String} {pseudo : PseudoClass} (found : ofName? text = some pseudo) :
    pseudo.name = text := by
  simpa using List.find?_some found

end PseudoClass

end CosmeticRules
