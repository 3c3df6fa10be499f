import CosmeticRules.Rule.Error
import CosmeticRules.Rule.Style
import CosmeticRules.Selector.Token
import CosmeticRules.Text.Blank

/-!
The inside of a block of declarations: `property: value` separated by semicolons. Colons and
backslashes are allowed in a value only between quotes.
-/

namespace CosmeticRules.Block

open Text

structure State where
  /-- Whether the colon of the declaration at hand has been read. -/
  inValue : Bool := false
  done : List Declaration := []
  property : List Char := []
  value : List Char := []
  quote : Option Char := none
  deriving Repr, Inhabited

/-- Ends the declaration at hand. -/
def State.collect (s : State) : State :=
  { s with
    done := s.done ++ [⟨String.ofList (trim s.property), String.ofList (trim s.value)⟩]
    property := []
    value := [] }

def State.invalidValue (s : State) (block : String) : StyleError :=
  .invalidValue (String.ofList s.property) block

def readProperty (block : String) (s : State) : Token → Except StyleError State
  | .word chars =>
    if s.property.isEmpty then .ok { s with property := chars }
    else .error (.propertyOfTwoWords block)
  | .mark ':' =>
    let property := trim s.property
    if property.isEmpty then .error (.noPropertyBeforeColon block)
    else .ok { s with property, inValue := true }
  | .mark c => if Text.isAsciiBlank c then .ok s else .error (.strayMark block)

/-- The quote that is open after a quote character: another kind of quote, or one after a backslash,
changes nothing. -/
def quoteAfter (c : Char) (s : State) : Option Char :=
  match s.quote with
  | none => some c
  | some opened => if opened = c ∧ s.value.getLast? ≠ some '\\' then none else some opened

def readValue (block : String) (s : State) : Token → Except StyleError State
  | .word chars => .ok { s with value := s.value ++ chars }
  | .mark c =>
    if c = ':' ∨ c = '\\' then
      if s.quote.isNone then .error (s.invalidValue block)
      else .ok { s with value := s.value ++ [c] }
    else if c = ';' then
      if s.quote.isNone then .ok { s.collect with inValue := false }
      else .ok { s with value := s.value ++ [c] }
    else if c = '\'' ∨ c = '"' then
      .ok { s with quote := quoteAfter c s, value := s.value ++ [c] }
    else if s.value.isEmpty then .ok s
    else .ok { s with value := s.value ++ [c] }

def readToken (block : String) (s : State) (token : Token) : Except StyleError State :=
  if s.inValue then readValue block s token else readProperty block s token

/-- The declarations of a state after the last token. -/
def finish (block : String) (s : State) : Except StyleError (List Declaration) :=
  if s.quote.isSome then .error (.openQuote block)
  else if !s.property.isEmpty && s.value.isEmpty then
    .error (.propertyWithoutValue (String.ofList s.property) block)
  else
    let declarations := if s.property.isEmpty then s.done else s.collect.done
    if declarations.isEmpty then .error .emptyBlock else .ok declarations

/-- The declarations of a block, repeated ones included. -/
def declarations (block : String) : Except StyleError (List Declaration) := do
  let chars := trim block.toList
  let text := String.ofList chars
  finish text (← (Token.split isStyleMark chars).foldlM (readToken text) {})

end CosmeticRules.Block
