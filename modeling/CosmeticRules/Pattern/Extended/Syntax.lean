import CosmeticRules.Pattern.Anchor

/-!
Extended patterns: plain patterns together with look-around, references to groups, conditions, and
repetitions that do not give back.

An extended pattern is hard if a plain one cannot take its place. How many characters it takes, as far as
that is known before matching, decides how it may look back.
-/

namespace CosmeticRules.Pattern

/-- How many characters a pattern takes at least, and whether it always takes just so many. -/
structure Extent where
  least : Nat
  fixed : Bool
  deriving DecidableEq, Repr, Inhabited

namespace Extent

def zero : Extent := ⟨0, true⟩

def one : Extent := ⟨1, true⟩

/-- One pattern after another. -/
def plus (a b : Extent) : Extent := ⟨a.least + b.least, a.fixed && b.fixed⟩

/-- Either of two patterns. -/
def common (a b : Extent) : Extent :=
  ⟨min a.least b.least, a.fixed && b.fixed && a.least == b.least⟩

def times (a : Extent) (least : Nat) (most : Option Nat) : Extent :=
  ⟨a.least * least, a.fixed && most == some least⟩

end Extent

inductive Extended
  | empty
  /-- Any character, or any but a line feed. -/
  | any (lineFeed : Bool)
  | literal (c : Char) (ignoreCase : Bool)
  /-- A single character that a plain pattern describes. -/
  | plain (text : List Char) (ignoreCase : Bool)
  | anchor (a : Anchor)
  /-- Any line break; a carriage return takes the line feed after it along. -/
  | lineBreak
  | sequence (parts : List Extended)
  /-- One of several patterns, the preferred one first. -/
  | either (choices : List Extended)
  | repeated (p : Extended) (least : Nat) (most : Option Nat) (greedy : Bool)
  | group (index : Nat) (p : Extended)
  /-- Settles for the first way in which the pattern matches. -/
  | atomic (p : Extended)
  | look (behind negated : Bool) (p : Extended)
  /-- What a group has matched, once more. The extent is the one of the group, if it was known there. -/
  | reference (group : Nat) (ignoreCase : Bool) (extent : Extent)
  /-- Holds if a group has matched. -/
  | isMatched (group : Nat)
  | conditional (condition yes no : Extended)
  /-- Lets the match begin here. -/
  | matchStart
  /-- The place where the search began. -/
  | searchStart
  deriving Repr, Inhabited

namespace Extended

def isEmpty : Extended → Bool
  | empty => true
  | _ => false

/-- Whether a repetition mark may follow. -/
def isRepeatable : Extended → Bool
  | empty | look _ _ _ | isMatched _ | matchStart | searchStart => false
  | _ => true

/-- Patterns one after another. -/
def ofParts : List Extended → Extended
  | [] => empty
  | [p] => p
  | parts => sequence parts

mutual

def extent : Extended → Extent
  | any _ | literal _ _ | plain _ _ => .one
  | lineBreak => ⟨1, false⟩
  | sequence parts => sumExtent parts
  | either choices => commonExtent choices
  | repeated p least most _ => p.extent.times least most
  | group _ p | atomic p => p.extent
  | reference _ _ extent => extent
  | conditional condition yes no =>
    let found := condition.extent.plus yes.extent
    ⟨condition.extent.least + min yes.extent.least no.extent.least,
      found.fixed && no.extent.fixed && found.least == no.extent.least⟩
  | empty | anchor _ | look _ _ _ | isMatched _ | matchStart | searchStart => .zero

def sumExtent : List Extended → Extent
  | [] => .zero
  | p :: rest => p.extent.plus (sumExtent rest)

def commonExtent : List Extended → Extent
  | [] => .zero
  | [p] => p.extent
  | p :: rest => p.extent.common (commonExtent rest)

end

/-- The conditions that plain patterns do not know. -/
def anchorIsHard : Anchor → Bool
  | .textStart | .textEnd | .lineStart | .lineEnd => false
  | _ => true

mutual

/-- Whether no plain pattern can take the place of this one. A group that is referred to is hard, since what
it matches may have to change for the sake of the reference. -/
def isHard (referred : List Nat) : Extended → Bool
  | empty | any _ | literal _ _ | plain _ _ => false
  | anchor a => anchorIsHard a
  | sequence parts | either parts => anyHard referred parts
  | repeated p _ _ _ => p.isHard referred
  | group index p => p.isHard referred || referred.contains index
  | lineBreak | atomic _ | look _ _ _ | reference _ _ _ | isMatched _ | conditional _ _ _ | matchStart
  | searchStart => true

def anyHard (referred : List Nat) : List Extended → Bool
  | [] => false
  | p :: rest => p.isHard referred || anyHard referred rest

end

/-- A look-ahead at the very end may as well be matched itself. -/
def withoutLastLook : Extended → Extended
  | sequence parts =>
    match parts.getLast? with
    | some (look false false p) => sequence [group 0 (ofParts parts.dropLast), p]
    | _ => sequence parts
  | p => p

end Extended

end CosmeticRules.Pattern
