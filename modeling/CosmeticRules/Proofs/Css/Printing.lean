import CosmeticRules.Css.Reader
import CosmeticRules.Proofs.Selector.Printing

/-!
Printing native selectors, and the selectors whose print can be read again. Values of attributes are quoted,
so that any text can stand there; names are plain words.
-/

namespace CosmeticRules.Css

open PlainText

/-- A text with a backslash before every backslash and double quote. -/
def escaped : List Char → List Char
  | [] => []
  | c :: rest => if c = '\\' ∨ c = '"' then '\\' :: c :: escaped rest else c :: escaped rest

def quoted (value rest : List Char) : List Char := '"' :: (escaped value ++ '"' :: rest)

def AttributeOperator.sign : AttributeOperator → List Char
  | equals => ['=']
  | startsWith => ['^', '=']
  | endsWith => ['$', '=']
  | contains => ['*', '=']
  | includes => ['~', '=']
  | dashMatch => ['|', '=']

def flag (ignoreCase : Bool) : List Char := if ignoreCase then [' ', 'i'] else []

/-- The text of an attribute test without its brackets. -/
def AttributeTest.inner : AttributeTest → List Char
  | has key => key.toList
  | compare key operator value ignoreCase =>
    key.toList ++ operator.sign ++ quoted value.toList (flag ignoreCase)

def signed (i : Int) : List Char :=
  if i < 0 then '-' :: Nat.toDigits 10 i.natAbs else Nat.toDigits 10 i.natAbs

/-- The formula with its factor and its summand, where it has them. -/
def Nth.print : Nth → List Char
  | exact position => Nat.toDigits 10 position
  | odd => ['o', 'd', 'd']
  | even => ['e', 'v', 'e', 'n']
  | linear a b =>
    signed a.toInt ++ 'n' :: (if b.toInt < 0 then '-' else '+') :: Nat.toDigits 10 b.toInt.natAbs

def Combinator.print : Combinator → List Char
  | .descendant => [' ']
  | .child => [' ', '>', ' ']
  | .nextSibling => [' ', '+', ' ']
  | .laterSibling => [' ', '~', ' ']

/-- A pseudo-class with an argument. -/
def applied (name : String) (argument : List Char) : List Char :=
  ':' :: (name.toList ++ '(' :: (argument ++ [')']))

mutual

def Simple.print : Simple → List Char
  | .universal => ['*']
  | .tag name => name.toList
  | .id name => '#' :: name.toList
  | .className name => '.' :: name.toList
  | .attribute test => '[' :: (test.inner ++ [']'])
  | .structural pseudo => ':' :: pseudo.name.toList
  | .nth counting formula => applied counting.name formula.print
  | .isAny alternatives => applied "is" (printList alternatives)
  | .whereAny alternatives => applied "where" (printList alternatives)
  | .notAny alternatives => applied "not" (printList alternatives)

def printCompound : List Simple → List Char
  | [] => []
  | simple :: rest => simple.print ++ printCompound rest

def Chain.print : Chain → List Char
  | .single compound => printCompound compound
  | .link before combinator compound => before.print ++ (combinator.print ++ printCompound compound)

/-- The chains with a comma and a space between them. -/
def printList : List Chain → List Char
  | [] => []
  | chain :: rest => chain.print ++ printMore rest

/-- Further chains, each after a comma and a space. -/
def printMore : List Chain → List Char
  | [] => []
  | chain :: rest => ',' :: ' ' :: (chain.print ++ printMore rest)

end

/-! The selectors that can be read again. -/

/-- A word that does not start with a digit. -/
def isIdentifier (name : String) : Bool :=
  match name.toList with
  | [] => false
  | c :: rest => !c.isDigit && (c :: rest).all isPlainChar

def isLowerKeyChar (c : Char) : Bool := c == ':' || (isPlainChar c && !c.isUpper)

def AttributeTest.isPrintable (test : AttributeTest) : Bool :=
  match test with
  | has key | compare key _ _ _ => !key.toList.isEmpty && key.toList.all isLowerKeyChar

/-- A position fits into 64 bits with a sign, and so does a summand with its sign taken away. -/
def Nth.isPrintable : Nth → Bool
  | exact position => 0 < position && decide ((position : Int) ≤ Int64.maxValue.toInt)
  | linear _ b => Int64.minValue < b
  | odd | even => true

/-- Simple selectors that only stand first. -/
def Simple.isLeading : Simple → Bool
  | .universal | .tag _ => true
  | _ => false

/-- A tag or the universal selector comes first only, and there is at most one id. -/
def isCompound (compound : List Simple) : Bool :=
  !compound.isEmpty && !(compound.drop 1).any Simple.isLeading && compound.countP isId ≤ 1

mutual

def Simple.isPrintable : Simple → Bool
  | .universal | .structural _ => true
  | .tag name => isIdentifier name && !name.toList.any Char.isUpper
  | .id name | .className name => isIdentifier name
  | .attribute test => test.isPrintable
  | .nth _ formula => formula.isPrintable
  | .isAny alternatives => !alternatives.isEmpty && areChainsPrintable alternatives
  | .whereAny alternatives => !alternatives.isEmpty && areChainsPrintable alternatives
  | .notAny alternatives => !alternatives.isEmpty && areChainsPrintable alternatives

def areSimplesPrintable : List Simple → Bool
  | [] => true
  | simple :: rest => simple.isPrintable && areSimplesPrintable rest

def Chain.isPrintable : Chain → Bool
  | .single compound => isCompound compound && areSimplesPrintable compound
  | .link before _ compound => before.isPrintable && (isCompound compound && areSimplesPrintable compound)

def areChainsPrintable : List Chain → Bool
  | [] => true
  | chain :: rest => chain.isPrintable && areChainsPrintable rest

end

/-- Chains are built up from their first compound selector. -/
theorem Chain.induct {P : Chain → Prop} (single : ∀ compound, P (.single compound))
    (link : ∀ before combinator compound, P before → P (.link before combinator compound)) (chain : Chain) :
    P chain :=
  match chain with
  | .single compound => single compound
  | .link before combinator compound => link before combinator compound (induct single link before)

theorem areChainsPrintable_eq_all (chains : List Chain) :
    areChainsPrintable chains = chains.all Chain.isPrintable := by
  induction chains with
  | nil => rfl
  | cons chain rest ih => rw [areChainsPrintable, ih, List.all_cons]

end CosmeticRules.Css
