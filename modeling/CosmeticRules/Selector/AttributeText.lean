import CosmeticRules.Selector.Error
import CosmeticRules.Selector.Token
import CosmeticRules.Text.Case

/-!
The text between the brackets of an attribute condition, as far as it decides whether a closing
bracket ends the condition.
-/

namespace CosmeticRules.AttributeText

/-- The tokens of the text without its spaces. -/
def tokens (text : String) : List Token :=
  Token.split isAttributeMark (text.toList.filter (· != ' '))

def isQuote (token : Option Token) : Bool := token == some (.mark '"') || token == some (.mark '\'')

/-- The token after the first equals sign. -/
def afterEqual? : List Token → Option (Option Token)
  | [] => none
  | .mark '=' :: rest => some rest.head?
  | _ :: rest => afterEqual? rest

/-- Whether the last token is the flag for comparison without case. -/
def isCaseFlag : Option Token → Bool
  | some (.word cs) => Text.equalsIgnoringAsciiCase cs ['i']
  | _ => false

/-- Whether a bracket after the text closes the condition. A quoted value has to be closed, an
unquoted one has to end in a word. -/
def closes (text : String) : Except SelectorError Bool :=
  let tokens := tokens text
  let last := tokens.getLast?
  let beforeLast := tokens.dropLast.getLast?
  let lastIsWord := last.any (·.isWord)
  match tokens.head? with
  | some (.mark c) =>
    if c ≠ '\\' then .error (.attributeStart text (Token.mark c).text)
    else closesAfter last beforeLast lastIsWord tokens
  | _ => closesAfter last beforeLast lastIsWord tokens
where
  closesAfter (last beforeLast : Option Token) (lastIsWord : Bool) (tokens : List Token) :
      Except SelectorError Bool :=
    if last == some (.mark '=') then .error (.attributeEqual text)
    else
      match afterEqual? tokens with
      | none => .ok (lastIsWord || (beforeLast == some (.mark '\\') && isQuote last))
      | some opening =>
        if isQuote opening then
          .ok (if isCaseFlag last then beforeLast == opening else last == opening)
        else if lastIsWord then .ok true
        else .error (.attributeValue text)

end CosmeticRules.AttributeText
