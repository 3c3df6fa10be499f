import CosmeticRules.Proofs.XPath.ElementPath

/-!
Printing path expressions, and the expressions whose print can be read again. Every step is printed with its
axis, and every operand of an operator in parentheses, so that no rule of precedence matters.
-/

namespace CosmeticRules.XPath

def Comparison.sign : Comparison → List Char
  | equal => ['=']
  | notEqual => ['!', '=']
  | less => ['<']
  | lessEqual => ['<', '=']
  | greater => ['>']
  | greaterEqual => ['>', '=']

/-- The text of a token: a literal in double quotes, a number by the digits of its mantissa. -/
def Token.spelling : Token → List Char
  | slash => ['/']
  | doubleSlash => ['/', '/']
  | dot => ['.']
  | doubleDot => ['.', '.']
  | atSign => ['@']
  | star => ['*']
  | doubleColon => [':', ':']
  | openBracket => ['[']
  | closeBracket => [']']
  | openParenthesis => ['(']
  | closeParenthesis => [')']
  | comma => [',']
  | bar => ['|']
  | comparison c => c.sign
  | name word => word.toList
  | literal text => '"' :: (text.toList ++ ['"'])
  | number value => Nat.toDigits 10 value.mantissa

/-- The text of tokens one after the other, with some spaces on both sides of each. -/
def spaced (margin : Token → Nat) (tokens : List Token) : List Char :=
  tokens.flatMap fun token =>
    List.replicate (margin token) ' ' ++ (token.spelling ++ List.replicate (margin token) ' ')

/-! The tokens of an expression. -/

def parenthesized (tokens : List Token) : List Token := .openParenthesis :: (tokens ++ [.closeParenthesis])

def bracketed (tokens : List Token) : List Token := .openBracket :: (tokens ++ [.closeBracket])

def NodeTest.tokens : NodeTest → List Token
  | .name word => [.name word]
  | .any => [.star]
  | .text => .name "text" :: parenthesized []
  | .node => .name "node" :: parenthesized []

mutual

def Step.tokens : Step → List Token
  | .mk axis test predicates =>
    .name axis.name :: .doubleColon :: (test.tokens ++ (exprTokens predicates).flatMap bracketed)

def Expr.tokens : Expr → List Token
  | .or left right => parenthesized left.tokens ++ .name "or" :: parenthesized right.tokens
  | .and left right => parenthesized left.tokens ++ .name "and" :: parenthesized right.tokens
  | .compare left c right => parenthesized left.tokens ++ .comparison c :: parenthesized right.tokens
  | .union left right => parenthesized left.tokens ++ .bar :: parenthesized right.tokens
  | .path absolute steps => (if absolute then [.slash] else []) ++ [Token.slash].intercalate (stepTokens steps)
  | .literal text => [.literal text]
  | .number value => [.number value]
  | .call function arguments => .name function :: parenthesized ([Token.comma].intercalate (exprTokens arguments))

/-- The tokens of each step. -/
def stepTokens : List Step → List (List Token)
  | [] => []
  | step :: rest => step.tokens :: stepTokens rest

/-- The tokens of each expression. -/
def exprTokens : List Expr → List (List Token)
  | [] => []
  | e :: rest => e.tokens :: exprTokens rest

end

/-- The text of an expression. -/
def Expr.print (margin : Token → Nat) (e : Expr) : String := String.ofList (spaced margin e.tokens)

/-! The expressions that can be read again. -/

/-- Identifiers in lower case, but for the types of nodes. -/
def isWord (name : String) : Bool := isAttributeName name && !NodeTest.isType name

def NodeTest.isPrintable : NodeTest → Bool
  | .name word => isWord word
  | .any | .text | .node => true

mutual

def Step.isPrintable : Step → Bool
  | .mk _ test predicates => test.isPrintable && areExprsPrintable predicates

/-- Literals hold no double quote, numbers are whole, and only the path to the document has no steps. -/
def Expr.isPrintable : Expr → Bool
  | .or left right => left.isPrintable && right.isPrintable
  | .and left right => left.isPrintable && right.isPrintable
  | .compare left _ right => left.isPrintable && right.isPrintable
  | .union left right => left.isPrintable && right.isPrintable
  | .path absolute steps => (absolute || !steps.isEmpty) && areStepsPrintable steps
  | .literal text => !text.toList.contains '"'
  | .number value => value.exponent == 0
  | .call function arguments => isWord function && areExprsPrintable arguments

def areStepsPrintable : List Step → Bool
  | [] => true
  | step :: rest => step.isPrintable && areStepsPrintable rest

def areExprsPrintable : List Expr → Bool
  | [] => true
  | e :: rest => e.isPrintable && areExprsPrintable rest

end

/-! Lists of expressions and steps, one by one. -/

@[simp]
theorem exprTokens_eq_map (exprs : List Expr) : exprTokens exprs = exprs.map (·.tokens) := by
  induction exprs with
  | nil => rfl
  | cons e rest ih => rw [exprTokens, ih, List.map_cons]

@[simp]
theorem stepTokens_eq_map (steps : List Step) : stepTokens steps = steps.map (·.tokens) := by
  induction steps with
  | nil => rfl
  | cons step rest ih => rw [stepTokens, ih, List.map_cons]

@[simp]
theorem areExprsPrintable_iff {exprs : List Expr} :
    areExprsPrintable exprs = true ↔ ∀ e ∈ exprs, e.isPrintable = true := by
  induction exprs with
  | nil => simp [areExprsPrintable]
  | cons e rest ih => rw [areExprsPrintable, Bool.and_eq_true, ih, List.forall_mem_cons]

@[simp]
theorem areStepsPrintable_iff {steps : List Step} :
    areStepsPrintable steps = true ↔ ∀ step ∈ steps, step.isPrintable = true := by
  induction steps with
  | nil => simp [areStepsPrintable]
  | cons step rest ih => rw [areStepsPrintable, Bool.and_eq_true, ih, List.forall_mem_cons]

def Step.predicates : Step → List Expr
  | .mk _ _ predicates => predicates

/-- Induction over expressions, with the predicates of all steps of a path. -/
theorem Expr.induction {P : Expr → Prop} (or : ∀ left right, P left → P right → P (.or left right))
    (and : ∀ left right, P left → P right → P (.and left right))
    (compare : ∀ left c right, P left → P right → P (.compare left c right))
    (union : ∀ left right, P left → P right → P (.union left right))
    (path : ∀ absolute steps, (∀ step ∈ steps, ∀ e ∈ step.predicates, P e) → P (.path absolute steps))
    (literal : ∀ text, P (.literal text)) (number : ∀ value, P (.number value))
    (call : ∀ function arguments, (∀ e ∈ arguments, P e) → P (.call function arguments)) (e : Expr) : P e := by
  refine @Expr.rec (fun step => ∀ e ∈ step.predicates, P e) P (fun exprs => ∀ e ∈ exprs, P e)
    (fun steps => ∀ step ∈ steps, ∀ e ∈ step.predicates, P e) (fun _ _ _ each => each) or and compare union path
    literal number call ?_ ?_ ?_ ?_ e
  · exact fun _ member => nomatch member
  · exact fun _ _ first later => List.forall_mem_cons.mpr ⟨first, later⟩
  · exact fun _ member => nomatch member
  · exact fun _ _ first later => List.forall_mem_cons.mpr ⟨first, later⟩

end CosmeticRules.XPath
