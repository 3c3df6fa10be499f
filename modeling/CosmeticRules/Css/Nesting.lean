import CosmeticRules.Text.Blank

/-!
Brackets, parentheses, quotes and escapes in the text of a native selector, and the splits of such a
text at its top level.
-/

namespace CosmeticRules.Css

open Text

/-- What is open at a place of the text. -/
structure Nesting where
  brackets : Nat := 0
  parentheses : Nat := 0
  quote : Option Char := none
  escaped : Bool := false
  deriving DecidableEq, Repr, Inhabited

namespace Nesting

/-- Whether everything is closed. An escape at the very end does not count. -/
def isClosed (s : Nesting) : Bool := s.brackets == 0 && s.parentheses == 0 && s.quote.isNone

/-- Goes over one character; tells whether it is plain text at the top level. A bracket or parenthesis
that closes nothing is refused. -/
def feed (s : Nesting) (c : Char) : Option (Bool × Nesting) :=
  if s.escaped then some (false, { s with escaped := false })
  else if c = '\\' then some (false, { s with escaped := true })
  else
    match s.quote with
    | some opened => some (false, if c = opened then { s with quote := none } else s)
    | none =>
      if c = '"' ∨ c = '\'' then some (false, { s with quote := some c })
      else if c = '[' then some (false, { s with brackets := s.brackets + 1 })
      else if c = ']' then
        if s.brackets = 0 then none else some (false, { s with brackets := s.brackets - 1 })
      else if c = '(' then some (false, { s with parentheses := s.parentheses + 1 })
      else if c = ')' then
        if s.parentheses = 0 then none else some (false, { s with parentheses := s.parentheses - 1 })
      else some (s.brackets == 0 && s.parentheses == 0, s)

end Nesting

/-- The text up to the first comma at the top level, and the parts after it. -/
def groupsFrom (s : Nesting) : List Char → Option (List Char × List (List Char))
  | [] => if s.isClosed then some ([], []) else none
  | c :: rest =>
    match s.feed c with
    | none => none
    | some (top, s) =>
      (groupsFrom s rest).map fun (first, more) =>
        if top && c == ',' then ([], first :: more) else (c :: first, more)

/-- The parts between commas without blanks around them, none of which may be empty. -/
def groups? (text : List Char) : Option (List (List Char)) :=
  match groupsFrom {} text with
  | none => none
  | some (first, more) =>
    let parts := (first :: more).map trim
    if parts.any (·.isEmpty) then none else some parts

/-- A compound selector as text, or a combinator sign. -/
inductive ChainPart
  | compound (text : List Char)
  | sign (c : Char)
  deriving DecidableEq, Repr, Inhabited

def consCompound (text : List Char) (parts : List ChainPart) : List ChainPart :=
  if (trim text).isEmpty then parts else .compound (trim text) :: parts

/-- The text up to the first blank or sign at the top level, and the parts after it. -/
def partsFrom (s : Nesting) : List Char → Option (List Char × List ChainPart)
  | [] => if s.isClosed then some ([], []) else none
  | c :: rest =>
    match s.feed c with
    | none => none
    | some (top, s) =>
      (partsFrom s rest).map fun (first, more) =>
        if top && (c == '>' || c == '+' || c == '~') then ([], .sign c :: consCompound first more)
        else if top && isBlank c then ([], consCompound first more)
        else (c :: first, more)

/-- The compound selectors and signs of a chain. -/
def parts? (text : List Char) : Option (List ChainPart) :=
  (partsFrom {} text).map fun (first, more) => consCompound first more

/-- The text up to the parenthesis that closes one opened before it, and the text after it.
Parentheses inside brackets do not count. -/
def argumentFrom (s : Nesting) : List Char → Option (List Char × List Char)
  | [] => none
  | c :: rest =>
    let keep (s : Nesting) := (argumentFrom s rest).map fun (body, after) => (c :: body, after)
    if s.escaped then keep { s with escaped := false }
    else if c = '\\' then keep { s with escaped := true }
    else
      match s.quote with
      | some opened => keep (if c = opened then { s with quote := none } else s)
      | none =>
        if c = '"' ∨ c = '\'' then keep { s with quote := some c }
        else if c = '[' then keep { s with brackets := s.brackets + 1 }
        else if c = ']' then
          if s.brackets = 0 then none else keep { s with brackets := s.brackets - 1 }
        else if s.brackets ≠ 0 then keep s
        else if c = '(' then keep { s with parentheses := s.parentheses + 1 }
        else if c = ')' then
          if s.parentheses = 0 then some ([], rest)
          else keep { s with parentheses := s.parentheses - 1 }
        else keep s

end CosmeticRules.Css
