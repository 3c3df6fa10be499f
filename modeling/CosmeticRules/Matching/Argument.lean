import CosmeticRules.Log
import CosmeticRules.Matching.Error
import CosmeticRules.Pattern.Matching

/-!
The arguments of absolute pseudo-classes: patterns in slashes, names and values, and chains of property
names.
-/

namespace CosmeticRules.Matching

open Text

/-- The parts before and after the first separator, trimmed; without a separator all of it is the first
part, as it stands. -/
def splitArgument (separator : Char) (s : List Char) : List Char × Option (List Char) :=
  match splitFirst? separator s with
  | some (before, after) => (trim before, some (trim after))
  | none => (s, none)

/-- Takes one character off both ends of a text that has it there. -/
def strip (quote : Char) (s : List Char) : List Char :=
  if s.length > 1 && s.head? == some quote && s.getLast? == some quote then s.tail.dropLast else s

/-- Whether a text starts and ends with a slash, which may be the same one. -/
def isSlashed (s : List Char) : Bool := s.head? == some '/' && s.getLast? == some '/'

/-- The letters that are taken as flags after a pattern in slashes. -/
def patternFlags : List Char := "gmisuy".toList

/-- The pattern and the flags of an argument in slashes. A line feed makes it plain text. -/
def patternLiteral? (argument : List Char) : Option (List Char × List Char) :=
  match trimEnd argument with
  | '/' :: rest =>
    if rest.contains '\n' then none
    else
      let flags := rest.reverse.takeWhile (· != '/')
      match rest.reverse.dropWhile (· != '/') with
      | _ :: pattern =>
        if flags.all patternFlags.contains then some (pattern.reverse, flags.reverse) else none
      | [] => none
  | _ => none

/-- What a name or a value is compared with. -/
inductive Matcher
  | literal (text : List Char)
  | pattern (p : Pattern)
  deriving DecidableEq, Repr, Inhabited

namespace Matcher

/-- Whether a text is the literal one, or a pattern occurs in it. -/
def accepts (m : Matcher) (s : List Char) : Except MatchError Bool :=
  match m with
  | literal text => .ok (text == s)
  | pattern p => (p.occursIn s).mapError .pattern

def isPlain (s : List Char) : Bool := s.all fun c => c.isAlphanum || c == '_' || c == '-'

def readPattern (s : List Char) : Except MatchError Matcher :=
  ((Pattern.read {} s).map pattern).mapError .pattern

/-- Reads a pattern in slashes, a text in which stars stand for anything, or a plain name. Double quotes
around any of them are dropped. -/
def read (wildcardAllowed : Bool) (raw : List Char) : Except MatchError Matcher :=
  let raw := strip '"' raw
  let text := String.ofList raw
  if raw.isEmpty then .error .noMatcher
  else if isSlashed raw then
    if raw.length ≤ 2 then .error (.emptyPattern text) else readPattern (strip '/' raw)
  else if raw.contains '*' then
    if raw == ['*'] && !wildcardAllowed then .error (.tooGeneral text)
    else readPattern (replaceAll ['*'] ['.', '*'] raw)
  else if isPlain raw then .ok (literal raw)
  else .error (.badMatcher text)

end Matcher

/-- The links of a chain so far, and the part of a pattern in slashes that has been read; it is empty
outside patterns. -/
structure ChainDraft where
  links : List (List Char)
  opened : List Char
  deriving DecidableEq, Repr, Inhabited

namespace ChainDraft

/-- Adds what stands between two dots. Dots inside a pattern in slashes belong to it. -/
def add (draft : ChainDraft) (chunk : List Char) : ChainDraft :=
  if isSlashed chunk && chunk.length > 2 then { draft with links := draft.links ++ [chunk] }
  else if chunk.head? == some '/' then { draft with opened := draft.opened ++ chunk }
  else if draft.opened.isEmpty then { draft with links := draft.links ++ [chunk] }
  else if chunk.getLast? == some '/' then ⟨draft.links ++ [draft.opened ++ '.' :: chunk], []⟩
  else { draft with opened := draft.opened ++ '.' :: chunk }

end ChainDraft

/-- Splits a chain of property names at its dots; `none` if a pattern in it does not end. -/
def chainLinks? (chain : List Char) : Option (List (List Char)) :=
  let draft := (chain.splitOn '.').foldl ChainDraft.add ⟨[], []⟩
  if draft.opened.isEmpty then some draft.links else none

/-- Reads a chain of property names, each a matcher. -/
def readChain (raw : List Char) : Logged MatchError (List Matcher) :=
  let chain := strip '"' raw
  match chainLinks? chain with
  | none => throw (.openChain (String.ofList chain))
  | some links => links.mapM fun link =>
    if link.isEmpty then throw (.emptyLink (String.ofList chain))
    else
      (Logged.ofExcept (Matcher.read true link)).reportAs MatchError.message
        fun _ => .badLink (String.ofList link) (String.ofList chain)

end CosmeticRules.Matching
