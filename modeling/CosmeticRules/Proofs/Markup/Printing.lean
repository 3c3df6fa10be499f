import CosmeticRules.Markup.Graft
import CosmeticRules.Proofs.XPath.ElementPath

/-!
Forests of elements, comments and texts, the markup that they are written as, and the pieces of that markup.
-/

namespace CosmeticRules.Markup

open Text

/-- Nodes that stand side by side: the first with what is below it, and those after it. -/
inductive Forest
  | nil
  | element (e : Element) (inner rest : Forest)
  | comment (text : String) (rest : Forest)
  | text (text : String) (rest : Forest)
  deriving DecidableEq, Repr, Inhabited

/-- References stand for ampersands and for one more character, which has a name. -/
def escapeChar (special : Char) (name : List Char) (c : Char) : List Char :=
  if c = '&' then ['&', 'a', 'm', 'p', ';']
  else if c = special then '&' :: (name ++ [';'])
  else [c]

def escape (special : Char) (name s : List Char) : List Char := s.flatMap (escapeChar special name)

def escapeText (text : String) : List Char := escape '<' ['l', 't'] text.toList

def escapeValue (value : String) : List Char := escape '"' ['q', 'u', 'o', 't'] value.toList

def printAttribute (a : Attribute) : List Char :=
  ' ' :: (a.name.toList ++ '=' :: '"' :: (escapeValue a.value ++ ['"']))

def openTag (e : Element) : List Char :=
  '<' :: (e.tag.toList ++ (e.attributes.flatMap printAttribute ++ ['>']))

def closeTag (tag : String) : List Char := '<' :: '/' :: (tag.toList ++ ['>'])

def printComment (text : String) : List Char :=
  '<' :: '!' :: '-' :: '-' :: (text.toList ++ ['-', '-', '>'])

/-- Elements that can end before their end tag. -/
def endsEarly (tag : String) : Bool := ["p", "li", "dt", "dd", "option", "optgroup"].contains tag

/-- Lower-case letters, digits and the marks of attribute names. -/
def isMarkedChar (c : Char) : Bool := c.isLower || c.isDigit || ['_', ':', '.', '-'].contains c

/-- Such characters, a letter first. -/
def isMarkedName (name : String) : Bool :=
  match name.toList with
  | [] => false
  | c :: rest => c.isLower && rest.all isMarkedChar

/-- Elements that are written as a start tag, markup and an end tag. -/
def isPlainElement (e : Element) : Bool :=
  isTagName e.tag && !isVoidTag e.tag && !isRawTag e.tag && !endsEarly e.tag &&
    e.attributes.all (isMarkedName ·.name) && decide (e.attributes.map (·.name)).Nodup

theorem isPlainElement_iff {e : Element} : isPlainElement e = true ↔
    isTagName e.tag = true ∧ isVoidTag e.tag = false ∧ isRawTag e.tag = false ∧ endsEarly e.tag = false ∧
      e.attributes.all (isMarkedName ·.name) = true ∧ (e.attributes.map (·.name)).Nodup := by
  simp only [isPlainElement, Bool.and_eq_true, Bool.not_eq_true', decide_eq_true_eq, and_assoc]

namespace Forest

/-- The markup of a forest. -/
def print : Forest → List Char
  | nil => []
  | element e inner rest => openTag e ++ (inner.print ++ (closeTag e.tag ++ rest.print))
  | comment s rest => printComment s ++ rest.print
  | text s rest => escapeText s ++ rest.print

def startsWithText : Forest → Bool
  | text _ _ => true
  | _ => false

/-- Plain elements, comments without the end of a comment inside, and texts that are not empty and do not stand
next to each other. -/
def isLegible : Forest → Bool
  | nil => true
  | element e inner rest => isPlainElement e && inner.isLegible && rest.isLegible
  | comment s rest => !occursIn ['-', '-', '>'] s.toList && rest.isLegible
  | text s rest => !s.toList.isEmpty && !rest.startsWithText && rest.isLegible

/-- The pieces that the markup of a forest consists of. -/
def pieces : Forest → List Piece
  | nil => []
  | element e inner rest =>
    .startTag e.tag e.attributes false :: (inner.pieces ++ .endTag e.tag :: rest.pieces)
  | comment s rest => .comment s :: rest.pieces
  | text s rest => .text s :: rest.pieces

end Forest

end CosmeticRules.Markup
