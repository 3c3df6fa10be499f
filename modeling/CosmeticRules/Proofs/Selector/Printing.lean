import CosmeticRules.Selector.Tree

/-!
Printing selector trees, and the trees whose print can be read again: their regular parts are complex
selectors of plain names, and their pseudo-classes hold plain words or such selectors again.
-/

namespace CosmeticRules

namespace SelectorTree

mutual

/-- The text of a tree. -/
def print : SelectorTree → List Char
  | .node .selectorList selectors => printList false selectors
  | .node .selector parts => printParts false parts
  | .node (.regular value) _ => value.toList
  | .node .extended inner => printParts false inner
  | .node (.absolute pseudo argument) _ => ':' :: pseudo.name.toList ++ '(' :: argument.toList ++ [')']
  | .node (.relative pseudo) inner => ':' :: pseudo.name.toList ++ '(' :: printParts false inner ++ [')']

/-- The texts of selectors with a comma and a space between them, and before the first if something stands
before it. -/
def printList (continued : Bool) : List SelectorTree → List Char
  | [] => []
  | selector :: rest => (if continued then [',', ' '] else []) ++ print selector ++ printList true rest

/-- The texts of parts with a space before each regular one that is not the first. -/
def printParts (continued : Bool) : List SelectorTree → List Char
  | [] => []
  | part :: rest =>
    (if continued && part.isRegular then [' '] else []) ++ print part ++ printParts true rest

end

end SelectorTree

namespace PlainText

def isPlainChar (c : Char) : Bool := c.isAlphanum || c == '-' || c == '_'

/-- ASCII letters, digits, hyphens and underscores. -/
def IsWord (s : List Char) : Prop := s ≠ [] ∧ ∀ c ∈ s, isPlainChar c = true

/-- Any number of classes and ids. -/
inductive IsQualifiers : List Char → Prop
  | none : IsQualifiers []
  | more {mark word rest} (marked : mark = '.' ∨ mark = '#') (named : IsWord word)
      (qualifiers : IsQualifiers rest) : IsQualifiers (mark :: word ++ rest)

/-- A tag, a star or neither of them, and then classes and ids; not nothing at all. -/
inductive IsCompound : List Char → Prop
  | tag {word rest} (named : IsWord word) (qualifiers : IsQualifiers rest) : IsCompound (word ++ rest)
  | any {rest} (qualifiers : IsQualifiers rest) : IsCompound ('*' :: rest)
  | qualified {rest} (qualifiers : IsQualifiers rest) (filled : rest ≠ []) : IsCompound rest

def signs : List Char := ['>', '+', '~']

/-- Compounds with a space or another combinator between them. -/
inductive IsComplex : List Char → Prop
  | single {s} (compound : IsCompound s) : IsComplex s
  | descendant {s rest} (compound : IsCompound s) (complex : IsComplex rest) :
      IsComplex (s ++ ' ' :: rest)
  | combined {s sign rest} (compound : IsCompound s) (combinator : sign ∈ signs)
      (complex : IsComplex rest) : IsComplex (s ++ ' ' :: sign :: ' ' :: rest)

/-- A complex selector, with a combinator and a space before it where that is allowed. -/
inductive IsRegular : Bool → List Char → Prop
  | plain {led s} (complex : IsComplex s) : IsRegular led s
  | led {sign s} (combinator : sign ∈ signs) (complex : IsComplex s) :
      IsRegular true (sign :: ' ' :: s)

/-- Words, spaces and commas. -/
def IsArgument (s : List Char) : Prop := ∀ c ∈ s, isPlainChar c = true ∨ c = ' ' ∨ c = ','

end PlainText

namespace SelectorTree

open PlainText

/-- The pseudo-classes that may hold words. -/
def wordPseudos : List PseudoClass :=
  [.contains, .hasText, .abpContains, .matchesCss, .matchesAttr, .matchesProperty, .nthAncestor, .upward]

/-- Where trees stand in a row: as the selectors of a list, which may be the argument of a pseudo-class, or
as the parts of a selector that follow its first one. -/
inductive Row
  | selectors (isArgument : Bool)
  | parts (afterRegular : Bool)

/-- The rows of trees whose print can be read again. Two regular parts never follow one another. -/
inductive IsPlainRow : Row → List SelectorTree → Prop
  | last {isArgument value rest} (text : IsRegular isArgument value.toList)
      (parts : IsPlainRow (.parts true) rest) :
      IsPlainRow (.selectors isArgument) [.node .selector (.leaf (.regular value) :: rest)]
  | next {isArgument value rest others} (text : IsRegular isArgument value.toList)
      (parts : IsPlainRow (.parts true) rest) (selectors : IsPlainRow (.selectors isArgument) others) :
      IsPlainRow (.selectors isArgument) (.node .selector (.leaf (.regular value) :: rest) :: others)
  | nothing {afterRegular} : IsPlainRow (.parts afterRegular) []
  | regular {value rest} (text : IsRegular true value.toList) (parts : IsPlainRow (.parts true) rest) :
      IsPlainRow (.parts false) (.leaf (.regular value) :: rest)
  | absolute {afterRegular pseudo argument rest} (named : pseudo ∈ wordPseudos)
      (text : IsArgument argument.toList) (parts : IsPlainRow (.parts false) rest) :
      IsPlainRow (.parts afterRegular) (.node .extended [.leaf (.absolute pseudo argument)] :: rest)
  | relative {afterRegular pseudo selectors rest} (named : pseudo.isHas = true)
      (inside : IsPlainRow (.selectors true) selectors) (parts : IsPlainRow (.parts false) rest) :
      IsPlainRow (.parts afterRegular)
        (.node .extended [.node (.relative pseudo) [.node .selectorList selectors]] :: rest)

/-- The trees whose print can be read again. -/
inductive IsPlain : SelectorTree → Prop
  | list {selectors} (row : IsPlainRow (.selectors false) selectors) :
      IsPlain (.node .selectorList selectors)

end SelectorTree

end CosmeticRules
