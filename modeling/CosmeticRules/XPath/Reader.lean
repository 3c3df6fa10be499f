import CosmeticRules.Text.Case
import CosmeticRules.XPath.Syntax

/-!
Reading path expressions. Each level of precedence reads its operands with the level below it; what
stands in brackets or parentheses is read one level of nesting deeper. A nested expression comes after
at least one token of its own, so a nesting depth above the number of tokens is never used up.
-/

namespace CosmeticRules.XPath

abbrev TokenReader (α : Type) := List Token → Except Error (α × List Token)

/-- Takes a token that has to come next. -/
def Token.expect (token : Token) : List Token → Except Error (List Token)
  | found :: rest => if found = token then .ok rest else .error (.expected token (some found))
  | [] => .error (.expected token none)

/-- Joins operands to the left as long as a joint stands between them. The count bounds the joints. -/
def joinFrom (operand : TokenReader Expr) (joint? : Token → Option (Expr → Expr → Expr)) :
    Nat → Expr → TokenReader Expr
  | _, left, [] => .ok (left, [])
  | 0, left, rest => .ok (left, rest)
  | count + 1, left, token :: rest =>
    match joint? token with
    | none => .ok (left, token :: rest)
    | some join => do
      let (right, rest) ← operand rest
      joinFrom operand joint? count (join left right) rest

/-- Reads operands with joints between them; the joints associate to the left. -/
def joined (operand : TokenReader Expr) (joint? : Token → Option (Expr → Expr → Expr)) :
    TokenReader Expr := fun tokens => do
  let (left, rest) ← operand tokens
  joinFrom operand joint? rest.length left rest

namespace NodeTest

/-- The words that are node types and not names when they stand as a node test. -/
def isType (word : String) : Bool := word == "text" || word == "node"

def read : TokenReader NodeTest
  | .star :: rest => .ok (.any, rest)
  | .name word :: rest =>
    if isType word then do
      let rest ← Token.openParenthesis.expect rest
      let rest ← Token.closeParenthesis.expect rest
      return (if word == "text" then .text else .node, rest)
    else .ok (.name (String.ofList (Text.asciiLower word.toList)), rest)
  | tokens => .error (.noNodeTest tokens.head?)

end NodeTest

/-- The axis at the start of a step: written out, as an at sign, or left out for children. -/
def Axis.read : TokenReader Axis
  | .atSign :: rest => .ok (.attributes, rest)
  | .name word :: .doubleColon :: rest =>
    match Axis.ofName? word with
    | some axis => .ok (axis, rest)
    | none => .error (.unknownAxis word)
  | tokens => .ok (.child, tokens)

/-- The expressions in brackets after a node test. The count bounds their number. -/
def predicatesFrom (nested : TokenReader Expr) : Nat → TokenReader (List Expr)
  | count + 1, .openBracket :: rest => do
    let (predicate, rest) ← nested rest
    let rest ← Token.closeBracket.expect rest
    let (more, rest) ← predicatesFrom nested count rest
    return (predicate :: more, rest)
  | _, tokens => .ok ([], tokens)

namespace Step

def read (nested : TokenReader Expr) : TokenReader Step
  | .dot :: rest => .ok (.mk .self .node [], rest)
  | .doubleDot :: rest => .ok (.mk .parent .node [], rest)
  | tokens => do
    let (axis, rest) ← Axis.read tokens
    let (test, rest) ← NodeTest.read rest
    let (predicates, rest) ← predicatesFrom nested rest.length rest
    return (.mk axis test predicates, rest)

/-- Whether a step can start with this token. -/
def canStart : Token → Bool
  | .dot | .doubleDot | .atSign | .star | .name _ => true
  | _ => false

end Step

/-- The steps that follow a first one, each after one slash or two. The count bounds their number. -/
def stepsFrom (nested : TokenReader Expr) : Nat → TokenReader (List Step)
  | count + 1, .slash :: rest => do
    let (step, rest) ← Step.read nested rest
    let (more, rest) ← stepsFrom nested count rest
    return (step :: more, rest)
  | count + 1, .doubleSlash :: rest => do
    let (step, rest) ← Step.read nested rest
    let (more, rest) ← stepsFrom nested count rest
    return (.anyDepth :: step :: more, rest)
  | _, tokens => .ok ([], tokens)

def steps (nested : TokenReader Expr) : TokenReader (List Step) := fun tokens => do
  let (first, rest) ← Step.read nested tokens
  let (more, rest) ← stepsFrom nested rest.length rest
  return (first :: more, rest)

/-- A location path. A slash alone is the document. -/
def locationPath (nested : TokenReader Expr) : TokenReader Expr
  | .slash :: rest =>
    if rest.head?.any Step.canStart then do
      let (path, rest) ← steps nested rest
      return (.path true path, rest)
    else .ok (.path true [], rest)
  | .doubleSlash :: rest => do
    let (path, rest) ← steps nested rest
    return (.path true (.anyDepth :: path), rest)
  | tokens => do
    let (path, rest) ← steps nested tokens
    return (.path false path, rest)

/-- The arguments that follow a first one, each after a comma. The count bounds their number. -/
def argumentsFrom (nested : TokenReader Expr) : Nat → TokenReader (List Expr)
  | count + 1, .comma :: rest => do
    let (argument, rest) ← nested rest
    let (more, rest) ← argumentsFrom nested count rest
    return (argument :: more, rest)
  | _, tokens => .ok ([], tokens)

/-- The arguments of a call up to the closing parenthesis. -/
def callArguments (nested : TokenReader Expr) : TokenReader (List Expr)
  | .closeParenthesis :: rest => .ok ([], rest)
  | tokens => do
    let (first, rest) ← nested tokens
    let (more, rest) ← argumentsFrom nested rest.length rest
    return (first :: more, ← Token.closeParenthesis.expect rest)

namespace Expr

def operand (nested : TokenReader Expr) : TokenReader Expr
  | .literal text :: rest => .ok (.literal text, rest)
  | .number value :: rest => .ok (.number value, rest)
  | .openParenthesis :: rest => do
    let (inner, rest) ← nested rest
    return (inner, ← Token.closeParenthesis.expect rest)
  | .name word :: .openParenthesis :: rest =>
    if NodeTest.isType word then locationPath nested (.name word :: .openParenthesis :: rest)
    else do
      let (arguments, rest) ← callArguments nested rest
      return (.call word arguments, rest)
  | tokens => locationPath nested tokens

/-! The operators, those that bind tightest first. -/

def unionOperator? : Token → Option (Expr → Expr → Expr)
  | .bar => some union
  | _ => none

def comparisonOperator? : Token → Option (Expr → Expr → Expr)
  | .comparison c => some fun left right => compare left c right
  | _ => none

def andOperator? : Token → Option (Expr → Expr → Expr)
  | .name word => if word == "and" then some and else none
  | _ => none

def orOperator? : Token → Option (Expr → Expr → Expr)
  | .name word => if word == "or" then some or else none
  | _ => none

/-- Reads an expression with at most so many levels of nesting. -/
def readNested : Nat → TokenReader Expr
  | 0, tokens => .error (.noNodeTest tokens.head?)
  | depth + 1, tokens =>
    joined (joined (joined (joined (operand (readNested depth)) unionOperator?)
      comparisonOperator?) andOperator?) orOperator? tokens

/-- Reads the text of an expression. -/
def read (text : String) : Except Error Expr := do
  let tokens ← Token.read text.toList
  let (expression, rest) ← readNested (tokens.length + 1) tokens
  if rest.isEmpty then return expression else throw (.tokenLeft text)

end Expr

end CosmeticRules.XPath
