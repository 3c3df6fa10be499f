import CosmeticRules.Pattern.Extended.Syntax

/-!
Writing extended patterns that are not hard as plain ones. Letter case, lines and line feeds are written with
flags of their own, so that the text means the same under any flags that do not switch these on.
-/

namespace CosmeticRules.Pattern.Extended

/-- The signs with a meaning in plain patterns. -/
def plainSigns : List Char := "\\.+*?()|[]\x7b\x7d^$#".toList

def quoted (c : Char) : List Char := if plainSigns.contains c then ['\\', c] else [c]

/-- A text with flags for it alone. -/
def underFlag (on : Bool) (flag : Char) (text : List Char) : List Char :=
  if on then '(' :: '?' :: flag :: ':' :: text ++ [')'] else text

def bundled (needed : Bool) (text : List Char) : List Char :=
  if needed then '(' :: '?' :: ':' :: text ++ [')'] else text

def numeral (n : Nat) : List Char := (toString n).toList

/-- The mark of a repetition. -/
def repetitionMark (least : Nat) (most : Option Nat) (greedy : Bool) : List Char :=
  let mark : List Char :=
    match least, most with
    | 0, some 1 => ['?']
    | 0, none => ['*']
    | 1, none => ['+']
    | least, none => '\x7b' :: numeral least ++ [',', '\x7d']
    | least, some most =>
      if least = most then '\x7b' :: numeral least ++ ['\x7d']
      else '\x7b' :: numeral least ++ ',' :: numeral most ++ ['\x7d']
  if greedy then mark else mark ++ ['?']

/-- How tightly the surroundings of a pattern bind. -/
inductive Binding
  | whole
  | branch
  | part
  | repeated
  deriving DecidableEq, Repr, Inhabited

mutual

/-- The plain text of a pattern that is not hard. -/
def print (around : Binding) : Extended → List Char
  | any true => underFlag true 's' ['.']
  | any false => ['.']
  | literal c ignoreCase => underFlag ignoreCase 'i' (quoted c)
  | plain text ignoreCase => underFlag ignoreCase 'i' text
  | anchor .textStart => ['^']
  | anchor .textEnd => ['$']
  | anchor .lineStart => underFlag true 'm' ['^']
  | anchor .lineEnd => underFlag true 'm' ['$']
  | sequence parts => bundled (around == .part || around == .repeated) (printParts parts)
  | either choices => bundled (around != .whole) (printChoices choices)
  | repeated p least most greedy =>
    bundled (around == .repeated) (p.print .repeated ++ repetitionMark least most greedy)
  | group _ p => '(' :: p.print .whole ++ [')']
  | _ => []

def printParts : List Extended → List Char
  | [] => []
  | p :: rest => p.print .part ++ printParts rest

/-- Alternatives with bars between them. -/
def printChoices : List Extended → List Char
  | [] => []
  | [p] => p.print .branch
  | p :: rest => p.print .branch ++ '|' :: printChoices rest

end

end CosmeticRules.Pattern.Extended
