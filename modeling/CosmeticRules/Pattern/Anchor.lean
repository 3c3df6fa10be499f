import CosmeticRules.Text.CharacterSet

/-!
Conditions on a place between two characters.
-/

namespace CosmeticRules.Pattern

inductive Anchor
  | textStart
  | textEnd
  /-- The end of the text, or a place with only line feeds after it. -/
  | lastLineEnd
  | lineStart
  | lineEnd
  | wordBoundary
  | noWordBoundary
  | wordStart
  | wordEnd
  /-- A place with no word character before it. -/
  | noWordBefore
  /-- A place with no word character after it. -/
  | noWordAfter
  deriving DecidableEq, Repr, Inhabited

namespace Anchor

def wordAt (text : Array Char) (position : Nat) : Bool := (text[position]?).any Text.isWordChar

def wordBefore (text : Array Char) (position : Nat) : Bool :=
  0 < position && wordAt text (position - 1)

def lineFeedAt (text : Array Char) (position : Nat) : Bool := text[position]? == some '\n'

def holds (text : Array Char) (position : Nat) : Anchor → Bool
  | textStart => position == 0
  | textEnd => position == text.size
  | lastLineEnd => (text.toList.drop position).all (· == '\n')
  | lineStart => position == 0 || lineFeedAt text (position - 1)
  | lineEnd => position == text.size || lineFeedAt text position
  | wordBoundary => wordBefore text position != wordAt text position
  | noWordBoundary => wordBefore text position == wordAt text position
  | wordStart => !wordBefore text position && wordAt text position
  | wordEnd => wordBefore text position && !wordAt text position
  | noWordBefore => !wordBefore text position
  | noWordAfter => !wordAt text position

end Anchor

end CosmeticRules.Pattern
