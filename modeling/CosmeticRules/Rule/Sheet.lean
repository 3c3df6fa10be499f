import CosmeticRules.Rule.Reader

/-!
Reading a style sheet, which is a sequence of rules. One rule that cannot be read spoils the sheet.
-/

namespace CosmeticRules.Sheet

open Text

/-- How a declaration value ended: its text, whether a closing brace ended it, and what follows. -/
structure ValueEnd where
  value : List Char
  closes : Bool
  rest : List Char
  deriving DecidableEq, Repr, Inhabited

/-- The quote that is open after a character: a quote opens, the same one closes, and a backslash keeps
the character after it from doing either. -/
def quoteAfter (quote : Option Char) (escaped : Bool) (c : Char) : Option Char :=
  if (c = '\'' ∨ c = '"') ∧ !escaped then
    match quote with
    | none => some c
    | some opened => if opened = c then none else some opened
  else quote

/-- Reads a value up to the semicolon or closing brace outside quotes. -/
def valueEnd? (quote : Option Char) (escaped : Bool) : List Char → Option ValueEnd
  | [] => none
  | c :: rest =>
    if (c = ';' ∨ c = '\x7d') ∧ quote = none then some ⟨[], c == '\x7d', rest⟩
    else
      (valueEnd? (quoteAfter quote escaped c) (c == '\\' && !escaped) rest).map fun e =>
        { e with value := c :: e.value }

theorem length_valueEnd? {quote : Option Char} {escaped : Bool} {s : List Char} {e : ValueEnd}
    (found : valueEnd? quote escaped s = some e) : e.rest.length < s.length := by
  induction s generalizing quote escaped e with
  | nil => simp [valueEnd?] at found
  | cons c rest ih =>
    unfold valueEnd? at found
    split at found
    · cases found
      simp
    · obtain ⟨inner, deeper, rfl⟩ := Option.map_eq_some_iff.mp found
      have shorter := ih deeper
      simp only [List.length_cons]; omega

def isDivider (c : Char) : Bool := c == ';' || c == ':' || c == '\x7d'

/-- Reads a declaration after its colon; tells whether the block ends with it. -/
def readDeclaration (s before rest : List Char) : Except StyleError (Declaration × ValueEnd) :=
  match valueEnd? none false rest with
  | none => .error (.unclosedDeclaration (String.ofList s))
  | some e =>
    let property := trim before
    let value := trim e.value
    if property.isEmpty then .error (.noProperty (String.ofList s))
    else if value.isEmpty then .error (.noValue (String.ofList s))
    else .ok (⟨String.ofList property, String.ofList value⟩, e)

theorem length_readDeclaration {s before rest : List Char} {d : Declaration} {e : ValueEnd}
    (read : readDeclaration s before rest = .ok (d, e)) : e.rest.length < rest.length := by
  unfold readDeclaration at read
  split at read
  · simp at read
  · rename_i ended
    have shorter := length_valueEnd? ended
    simp only [] at read
    split at read
    · simp at read
    · split at read
      · simp at read
      · obtain ⟨_, rfl⟩ := Prod.mk.inj (Except.ok.inj read)
        exact shorter

/-- Reads declarations up to the closing brace, and gives what follows without leading blanks. Text
before a semicolon without a colon is dropped. -/
def readBlock (done : List Declaration) (s : List Char) :
    Except StyleError (List Declaration × List Char) :=
  match _cut : splitWhere? isDivider s with
  | none => .error (.invalidDeclaration (String.ofList s))
  | some (before, divider, rest) =>
    if divider = ';' then readBlock done rest
    else if divider = ':' then
      match _read : readDeclaration s before rest with
      | .error e => .error e
      | .ok (d, e) =>
        if e.closes then .ok (done ++ [d], trimStart e.rest) else readBlock (done ++ [d]) e.rest
    else if !(trim before).isEmpty then .error (.invalidDeclaration (String.ofList s))
    else if done.isEmpty then .error (.noDeclaration (String.ofList s))
    else .ok (done, trimStart rest)
termination_by s.length
decreasing_by
  · exact length_splitWhere? _cut
  · exact Nat.lt_trans (length_readDeclaration _read) (length_splitWhere? _cut)

theorem length_readBlock {done declarations : List Declaration} {s rest : List Char}
    (read : readBlock done s = .ok (declarations, rest)) : rest.length ≤ s.length := by
  fun_induction readBlock done s with
  | case1 => simp at read
  | case2 done s before tail cut ih =>
    exact Nat.le_trans (ih read) (Nat.le_of_lt (length_splitWhere? cut))
  | case3 => simp at read
  | case4 done s before tail d e inner closes cut =>
    obtain ⟨_, rfl⟩ := Prod.mk.inj (Except.ok.inj read)
    have ends := Nat.lt_trans (length_readDeclaration inner) (length_splitWhere? cut)
    exact Nat.le_trans (length_trimStart_le _) (Nat.le_of_lt ends)
  | case5 done s before tail d e inner closes cut _ ih =>
    have ends := Nat.lt_trans (length_readDeclaration inner) (length_splitWhere? cut)
    exact Nat.le_trans (ih read) (Nat.le_of_lt ends)
  | case6 => simp at read
  | case7 => simp at read
  | case8 done s before divider tail cut =>
    obtain ⟨_, rfl⟩ := Prod.mk.inj (Except.ok.inj read)
    exact Nat.le_trans (length_trimStart_le _) (Nat.le_of_lt (length_splitWhere? cut))

/-- A last rule without block, which needs the marker. -/
def readLast (head rest : List Char) : Logged StyleError RawRule := do
  let part ← RuleHead.read (head ++ rest)
  if part.marked.isEmpty then throw (.nothingToApplyInSheet (String.ofList rest))
  else
    match part.tree with
    | none => throw (.invalidSelectorInSheet (String.ofList (trim (head ++ rest))))
    | some tree => return part.toRaw tree []

/-- Reads the rules of a text in turn. `head` is the selector text read so far, up to and including
braces that turned out to belong to it. -/
def readRules (rules : List RawRule) (head : List Char) (s : List Char) :
    Logged StyleError (List RawRule) :=
  if s.isEmpty then return rules
  else if head.isEmpty && s.head? == some '\x7b' then
    throw (.noSelectorInSheet (String.ofList s))
  else
    match _cut : splitFirst? '\x7b' s with
    | none => return RawRule.gather rules (← readLast head s)
    | some (before, rest) => do
      let part ← RuleHead.read (head ++ before)
      match part.tree with
      | none => readRules rules (head ++ before ++ ['\x7b']) rest
      | some tree =>
        match _read : readBlock [] rest with
        | .error e => throw e
        | .ok (declarations, remaining) =>
          readRules (RawRule.gather rules (part.toRaw tree declarations)) [] remaining
termination_by s.length
decreasing_by
  · exact length_splitFirst? _cut
  · exact Nat.lt_of_le_of_lt (length_readBlock _read) (length_splitFirst? _cut)

/-- Reads a style sheet. Rules with the same selector become one. -/
def read (text : String) : Logged StyleError (List Rule) := do
  let sheet := trim text.toList
  if Rule.hasComment sheet then throw (.commentInSheet (String.ofList sheet))
  else return (← readRules [] [] sheet).map Rule.ofRaw

end CosmeticRules.Sheet
