import CosmeticRules.Decimal.Numeral
import CosmeticRules.Text.Blank
import CosmeticRules.Text.Quoted

/-!
The tokens of a path expression.
-/

namespace CosmeticRules.XPath

inductive Comparison
  | equal
  | notEqual
  | less
  | lessEqual
  | greater
  | greaterEqual
  deriving DecidableEq, Repr, Inhabited

inductive Token
  | slash
  | doubleSlash
  | dot
  | doubleDot
  | atSign
  | star
  | doubleColon
  | openBracket
  | closeBracket
  | openParenthesis
  | closeParenthesis
  | comma
  | bar
  | comparison (c : Comparison)
  | name (name : String)
  | literal (text : String)
  | number (value : Decimal)
  deriving DecidableEq, Repr, Inhabited

def Comparison.label : Comparison → String
  | equal => "Eq"
  | notEqual => "NotEq"
  | less => "Lt"
  | lessEqual => "Le"
  | greater => "Gt"
  | greaterEqual => "Ge"

/-- How an error message names a token. -/
def Token.label : Token → String
  | slash => "Slash"
  | doubleSlash => "DoubleSlash"
  | dot => "Dot"
  | doubleDot => "DotDot"
  | atSign => "At"
  | star => "Star"
  | doubleColon => "ColonColon"
  | openBracket => "LBracket"
  | closeBracket => "RBracket"
  | openParenthesis => "LParen"
  | closeParenthesis => "RParen"
  | comma => "Comma"
  | bar => "Pipe"
  | comparison c => s!"Op({c.label})"
  | name word => "Name(" ++ String.ofList (Text.quoted word.toList) ++ ")"
  | literal text => "Literal(" ++ String.ofList (Text.quoted text.toList) ++ ")"
  | number value => "Number(" ++ String.ofList (Binary64.preciseText value.toFloat) ++ ")"

/-- How an error message names what was found: a token, or nothing. -/
def foundLabel : Option Token → String
  | some token => s!"Some({token.label})"
  | none => "None"

inductive Error
  | openLiteral
  | strayCharacter (c : Char)
  | badNumber (text : String)
  | expected (token : Token) (found : Option Token)
  | unknownAxis (name : String)
  | noNodeTest (found : Option Token)
  | tokenLeft (expression : String)
  | notNodes (expression : String)
  | unionOfOthers
  | missingArgument (function : String)
  | countOfOthers
  | nameOfOthers (function : String)
  | unknownFunction (name : String)
  deriving DecidableEq, Repr, Inhabited

def Error.message : Error → String
  | openLiteral => "unterminated string literal"
  | strayCharacter c => s!"unexpected character '{c}'"
  | badNumber text => s!"invalid number '{text}'"
  | expected token found => s!"expected {token.label}, found {foundLabel found}"
  | unknownAxis name => s!"unsupported axis '{name}'"
  | noNodeTest found => s!"expected node test, found {foundLabel found}"
  | tokenLeft expression => s!"unexpected token in expression '{expression}'"
  | notNodes expression => s!"expression '{expression}' does not evaluate to a node-set"
  | unionOfOthers => "union operands must be node-sets"
  | missingArgument function => s!"missing argument for {function}()"
  | countOfOthers => "count() expects a node-set"
  | nameOfOthers function => s!"{function}() expects a node-set"
  | unknownFunction name => s!"unsupported function '{name}()'"

namespace Token

open Text

def isNumberChar (c : Char) : Bool := c.isDigit || c == '.'

def isNameStart (c : Char) : Bool := isAlphabetic c || c == '_'

def isNameChar (c : Char) : Bool := isAlphanumeric c || c == '-' || c == '_' || c == '.'

/-- The token of one or two signs at the start of a text. -/
def sign? : List Char → Option (Token × List Char)
  | '/' :: '/' :: rest => some (doubleSlash, rest)
  | '/' :: rest => some (slash, rest)
  | '.' :: '.' :: rest => some (doubleDot, rest)
  | '.' :: rest => some (dot, rest)
  | '@' :: rest => some (atSign, rest)
  | '*' :: rest => some (star, rest)
  | ':' :: ':' :: rest => some (doubleColon, rest)
  | '[' :: rest => some (openBracket, rest)
  | ']' :: rest => some (closeBracket, rest)
  | '(' :: rest => some (openParenthesis, rest)
  | ')' :: rest => some (closeParenthesis, rest)
  | ',' :: rest => some (comma, rest)
  | '|' :: rest => some (bar, rest)
  | '=' :: rest => some (comparison .equal, rest)
  | '!' :: '=' :: rest => some (comparison .notEqual, rest)
  | '<' :: '=' :: rest => some (comparison .lessEqual, rest)
  | '<' :: rest => some (comparison .less, rest)
  | '>' :: '=' :: rest => some (comparison .greaterEqual, rest)
  | '>' :: rest => some (comparison .greater, rest)
  | _ => none

/-- A number starts with a digit, or with a point before a digit. -/
def startsNumber : List Char → Bool
  | '.' :: c :: _ => c.isDigit
  | c :: _ => c.isDigit
  | [] => false

/-- Reads one token of a text that does not start with a blank. -/
def next (c : Char) (rest : List Char) : Except Error (Token × List Char) :=
  if startsNumber (c :: rest) then
    let digits := (c :: rest).takeWhile isNumberChar
    match Decimal.read? digits with
    | some value => .ok (number value, (c :: rest).dropWhile isNumberChar)
    | none => .error (.badNumber (String.ofList digits))
  else if c = '"' ∨ c = '\'' then
    match splitFirst? c rest with
    | some (text, rest) => .ok (literal (String.ofList text), rest)
    | none => .error .openLiteral
  else if isNameStart c then
    .ok (name (String.ofList (c :: rest.takeWhile isNameChar)), rest.dropWhile isNameChar)
  else
    match sign? (c :: rest) with
    | some found => .ok found
    | none => .error (.strayCharacter c)

theorem length_sign? {s rest : List Char} {token : Token} (found : sign? s = some (token, rest)) :
    rest.length < s.length := by
  unfold sign? at found
  split at found
  all_goals first
    | (simp only [Option.some.injEq, Prod.mk.injEq] at found
       rw [← found.2]; simp only [List.length_cons]; omega)
    | simp at found

theorem length_next {c : Char} {s rest : List Char} {token : Token}
    (found : next c s = .ok (token, rest)) : rest.length ≤ s.length := by
  have dropped (p : Char → Bool) : (s.dropWhile p).length ≤ s.length :=
    (List.dropWhile_sublist p).length_le
  unfold next at found
  simp only [] at found
  split at found
  · rename_i starts
    split at found
    · simp only [Except.ok.injEq, Prod.mk.injEq] at found
      have numeral : isNumberChar c = true := by
        cases s with
        | nil => simp_all [startsNumber, isNumberChar]
        | cons d s =>
          unfold startsNumber at starts
          split at starts <;> simp_all [isNumberChar]
      rw [← found.2, List.dropWhile_cons_of_pos numeral]
      exact dropped isNumberChar
    · simp at found
  · split at found
    · split at found
      · rename_i split
        simp only [Except.ok.injEq, Prod.mk.injEq] at found
        rw [← found.2]
        exact Nat.le_of_lt (length_splitFirst? split)
      · simp at found
    · split at found
      · simp only [Except.ok.injEq, Prod.mk.injEq] at found
        rw [← found.2]
        exact dropped isNameChar
      · split at found
        · rename_i sign
          obtain rfl := Except.ok.inj found
          have shorter := length_sign? sign
          rw [List.length_cons] at shorter
          omega
        · simp at found

/-- The tokens of a text. -/
def read (s : List Char) : Except Error (List Token) :=
  match s with
  | [] => .ok []
  | c :: rest =>
    if isBlank c then read rest
    else
      match _found : next c rest with
      | .error e => .error e
      | .ok (token, rest) => (read rest).map (token :: ·)
termination_by s.length
decreasing_by
  · simp
  · have shorter := length_next _found
    rw [List.length_cons]; omega

end Token

end CosmeticRules.XPath
