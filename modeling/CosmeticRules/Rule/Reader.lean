import CosmeticRules.Log
import CosmeticRules.Rule.Basic
import CosmeticRules.Rule.Block
import CosmeticRules.Rule.RemoveMarker
import CosmeticRules.Selector.Reader

/-!
Reading one rule and lists of rules. A rule is cut at its last opening brace; if what stands before it
is no selector, the brace may belong to an argument, and the one before it is tried.
-/

namespace CosmeticRules

open Text

/-- What stands before an opening brace: the selector without marker, its tree if it has one, and what
the marker declares. -/
structure RuleHead where
  selector : String
  tree : Option SelectorTree
  marked : List Declaration
  deriving Repr, Inhabited

namespace RuleHead

/-- Reads the text before a brace. A text that is no selector is not an error, but at-rules and
misplaced markers are. -/
def read (text : List Char) : Logged StyleError RuleHead := do
  let selector := String.ofList (trim text)
  if (trim text).head? == some '@' then throw (.atRule selector)
  else
    let marked ← (Logged.ofExcept (MarkedSelector.read selector)).reportAs
      SelectorError.message fun _ => StyleError.misplacedRemove selector
    return ⟨marked.selector, (SelectorTree.parse marked.selector).toOption, marked.declarations⟩

/-- The rule with these declarations after those of the marker. -/
def toRaw (head : RuleHead) (tree : SelectorTree) (declarations : List Declaration) : RawRule :=
  ⟨trimText head.selector, tree, head.marked ++ declarations⟩

end RuleHead

namespace Rule

def hasComment (css : List Char) : Bool :=
  occursIn ['/', '*'] css && occursIn ['*', '/'] css

/-- The cuts of a text at its opening braces, the last first: what stands before and after each. -/
def braceCuts : List Char → List (List Char × List Char)
  | [] => []
  | c :: rest =>
    let later := (braceCuts rest).map fun (before, after) => (c :: before, after)
    if c = '\x7b' then later ++ [([], rest)] else later

/-- Takes the first cut with a selector before the brace. The block reaches to the last character but
one. -/
def readCuts : List (List Char × List Char) → Logged StyleError RawRule
  | [] => throw .noValidSelector
  | (before, after) :: rest => do
    let head ← RuleHead.read before
    match head.tree with
    | none => readCuts rest
    | some tree =>
      let declarations ← Logged.ofExcept (Block.declarations (String.ofList after.dropLast))
      return head.toRaw tree declarations

/-- A selector without block, which needs the marker. -/
def readMarked (text : List Char) : Logged StyleError RawRule := do
  let head ← RuleHead.read text
  match head.tree with
  | none => throw .invalidSelector
  | some tree => if head.marked.isEmpty then throw .nothingToApply else return head.toRaw tree []

/-- Reads a rule up to its declarations. -/
def readRaw (text : String) : Logged StyleError RawRule :=
  let rule := trim text.toList
  if hasComment rule then throw .comment
  else if rule.head? == some '\x7b' then throw .noSelector
  else
    match braceCuts rule with
    | [] => readMarked rule
    | cuts => if rule.contains '\x7d' then readCuts cuts else throw .noClosedBlock

/-- Reads one rule: a selector with a block, or a selector that ends in the marker. -/
def read (text : String) : Logged StyleError Rule := ofRaw <$> readRaw text

/-- The texts without surrounding blanks, each at its first occurrence only. -/
def distinctTexts (texts : List String) : List String :=
  (texts.map trimText).eraseDups

/-- What is reported of a rule that could not be read. -/
def warning (text : String) (e : StyleError) : String := s!"'{text}' - error: '{e.message}'"

/-- Reads the texts in turn and gathers the rules; those that cannot be read are noted. -/
def readTexts {ε : Type} (rules : List RawRule) (warnings : List String) :
    List String → Logged ε (List RawRule × List String)
  | [] => return (rules, warnings)
  | text :: rest => do
    match ← (readRaw text).attempt with
    | .ok raw => readTexts (RawRule.gather rules raw) warnings rest
    | .error e => readTexts rules (warnings ++ [warning text e]) rest

/-- Reads a list of rules. Those that cannot be read are logged together and left out, and rules with
the same selector become one. -/
def readAll {ε : Type} (texts : List String) : Logged ε (List Rule) := do
  let (rules, warnings) ← readTexts [] [] (distinctTexts texts)
  if !warnings.isEmpty then
    Logged.write .info ("Invalid rules:\n  " ++ String.intercalate "\n  " warnings)
  return rules.map ofRaw

end Rule

end CosmeticRules
