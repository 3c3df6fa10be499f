import CosmeticRules.Text.Blank

/-!
Splitting a text into marks, which are single characters of a given class, and the words between
them, which are as long as possible.
-/

namespace CosmeticRules

inductive Token
  | mark (char : Char)
  | word (chars : List Char)
  deriving DecidableEq, Repr, Inhabited

namespace Token

def chars : Token → List Char
  | mark c => [c]
  | word cs => cs

def text (token : Token) : String := String.ofList token.chars

def isWord : Token → Bool
  | word _ => true
  | mark _ => false

/-- Puts a character that is no mark in front of the tokens: it joins a word that comes first. -/
def consWord (c : Char) : List Token → List Token
  | word cs :: rest => word (c :: cs) :: rest
  | tokens => word [c] :: tokens

/-- The marks of a text and the maximal words between them. -/
def split (isMark : Char → Bool) : List Char → List Token
  | [] => []
  | c :: rest => if isMark c then mark c :: split isMark rest else consWord c (split isMark rest)

theorem flatMap_chars_consWord (c : Char) (tokens : List Token) :
    (consWord c tokens).flatMap chars = c :: tokens.flatMap chars := by
  cases tokens with
  | nil => rfl
  | cons token rest => cases token <;> rfl

theorem flatMap_chars_split (isMark : Char → Bool) (s : List Char) :
    (split isMark s).flatMap chars = s := by
  induction s with
  | nil => rfl
  | cons c rest ih =>
    by_cases marked : isMark c
    · simp [split, marked, chars, ih]
    · simp [split, marked, flatMap_chars_consWord, ih]

end Token

def isCombinator (c : Char) : Bool := c == ' ' || c == '>' || c == '+' || c == '~'

/-- The marks of a selector. -/
def isSelectorMark (c : Char) : Bool :=
  Text.isAsciiBlank c ||
    ['[', ']', '(', ')', '\x7b', '\x7d', '/', '\\', ';', ':', ',', '\'', '"', '^', '$', '*', '#',
      '.', '>', '+', '~'].contains c

/-- The marks inside the brackets of an attribute condition. -/
def isAttributeMark (c : Char) : Bool := c == '=' || isSelectorMark c

/-- The marks of a block of declarations. -/
def isStyleMark (c : Char) : Bool :=
  Text.isAsciiBlank c || [':', ';', '\'', '"', '\\'].contains c

end CosmeticRules
