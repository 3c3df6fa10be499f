import CosmeticRules.Markup.Reference
import CosmeticRules.Page.Tree

/-!
Markup as a sequence of pieces: texts, comments and tags. Reading stops at the first error; the pieces
before it stay.
-/

namespace CosmeticRules.Markup

open Text

inductive Error
  | unclosedComment
  | unclosedElement (tag : String)
  | unclosedStartTag
  | noAttributeValue
  | unclosedAttributeValue
  | unclosedDeclaration
  | unclosedEndTag
  deriving DecidableEq, Repr, Inhabited

def Error.message : Error → String
  | unclosedComment => "unclosed HTML comment"
  | unclosedElement tag => s!"unclosed <{tag}>"
  | unclosedStartTag => "unclosed start tag"
  | noAttributeValue => "missing attribute value"
  | unclosedAttributeValue => "unclosed quoted attribute value"
  | unclosedDeclaration => "unclosed declaration tag"
  | unclosedEndTag => "unclosed end tag"

inductive Piece
  | text (text : String)
  | comment (text : String)
  | startTag (tag : String) (attributes : List Attribute) (selfClosing : Bool)
  /-- An element whose inside is not markup, with the text inside. -/
  | rawElement (tag : String) (attributes : List Attribute) (body : String)
  | endTag (tag : String)
  deriving DecidableEq, Repr, Inhabited

def isTagChar (c : Char) : Bool := c.isAlphanum || c == '-' || c == '_'

def isAttributeChar (c : Char) : Bool := isTagChar c || c == ':' || c == '.'

/-- Whether a `<` before this text opens a tag. -/
def opensTag : List Char → Bool
  | c :: _ => c.isAlpha || c == '/' || c == '!'
  | [] => false

/-- Elements whose inside is not markup. -/
def isRawTag (tag : String) : Bool :=
  ["script", "style", "title", "textarea", "noscript"].contains tag

/-- Raw elements in which character references count. -/
def decodesReferences (tag : String) : Bool := tag == "title" || tag == "textarea"

def lowerText (s : List Char) : String := String.ofList (asciiLower s)

/-- A value without quotes, up to a blank or the end of the tag. -/
def bareValue : List Char → List Char × List Char
  | [] => ([], [])
  | c :: rest =>
    if isAsciiBlank c || c == '>' || (c == '/' && rest.head? == some '>') then ([], c :: rest)
    else
      let (value, after) := bareValue rest
      (c :: value, after)

/-- The value after an equals sign and blanks, with its references decoded. -/
def attributeValue : List Char → Except Error (String × List Char)
  | [] => .error .noAttributeValue
  | c :: rest =>
    if c = '"' ∨ c = '\'' then
      match splitFirst? c rest with
      | some (value, after) => .ok (String.ofList (decode value), after)
      | none => .error .unclosedAttributeValue
    else
      .ok (String.ofList (decode (bareValue (c :: rest)).1), (bareValue (c :: rest)).2)

/-- Adds an attribute, unless there is one of that name already. -/
def addAttribute (done : List Attribute) (name value : String) : List Attribute :=
  if done.any (·.name == name) then done else done ++ [⟨name, value⟩]

theorem length_bareValue (s : List Char) : (bareValue s).2.length ≤ s.length := by
  induction s with
  | nil => simp [bareValue]
  | cons c rest ih =>
    unfold bareValue
    split
    · simp
    · simp only [List.length_cons]; omega

theorem length_attributeValue {s after : List Char} {value : String}
    (read : attributeValue s = .ok (value, after)) : after.length ≤ s.length := by
  unfold attributeValue at read
  split at read
  · simp at read
  · rename_i c rest
    split at read
    · split at read
      · rename_i found
        obtain ⟨_, rfl⟩ := Prod.mk.inj (Except.ok.inj read)
        have shorter := length_splitFirst? found
        simp only [List.length_cons]; omega
      · simp at read
    · obtain ⟨_, rfl⟩ := Prod.mk.inj (Except.ok.inj read)
      exact length_bareValue _

theorem length_dropWhile_le (p : Char → Bool) (s : List Char) :
    (s.dropWhile p).length ≤ s.length := (List.dropWhile_sublist p).length_le

/-- Reads attributes up to the end of a start tag; tells whether the tag closes itself. Characters that
belong to no attribute are skipped. -/
def attributes (done : List Attribute) (s : List Char) :
    Except Error (List Attribute × Bool × List Char) :=
  match s with
  | [] => .error .unclosedStartTag
  | c :: rest =>
    if c = '>' then .ok (done, false, rest)
    else if c = '/' ∧ rest.head? = some '>' then .ok (done, true, rest.drop 1)
    else if !isAttributeChar c then attributes done rest
    else
      let name := lowerText (c :: rest.takeWhile isAttributeChar)
      let after := (rest.dropWhile isAttributeChar).dropWhile isAsciiBlank
      match _equals : after with
      | '=' :: more =>
        match _read : attributeValue (more.dropWhile isAsciiBlank) with
        | .ok (value, tail) => attributes (addAttribute done name value) tail
        | .error e => .error e
      | _ => attributes (addAttribute done name "") after
termination_by s.length
decreasing_by
  · simp
  · have value := length_attributeValue _read
    have blanks := length_dropWhile_le isAsciiBlank more
    have blanks' := length_dropWhile_le isAsciiBlank (rest.dropWhile isAttributeChar)
    have chars := length_dropWhile_le isAttributeChar rest
    have whole := congrArg List.length _equals
    simp only [after, List.length_cons] at whole
    simp only [List.length_cons]; omega
  · have blanks := length_dropWhile_le isAsciiBlank (rest.dropWhile isAttributeChar)
    have chars := length_dropWhile_le isAttributeChar rest
    simp only [List.length_cons]; omega

/-- Whether the end tag of a raw element stands here. -/
def closesRaw (tag : List Char) : List Char → Bool
  | '<' :: '/' :: rest =>
    let rest := rest.dropWhile isAsciiBlank
    equalsIgnoringAsciiCase (rest.take tag.length) tag &&
      !(rest.drop tag.length).head?.any Char.isAlphanum
  | _ => false

/-- The inside of a raw element and the text from its end tag on. -/
def rawBody? (tag : List Char) : List Char → Option (List Char × List Char)
  | [] => none
  | c :: rest =>
    if closesRaw tag (c :: rest) then some ([], c :: rest)
    else (rawBody? tag rest).map fun (body, after) => (c :: body, after)

/-- Reads an end tag after its first two characters. -/
def endTag (s : List Char) : Except Error (String × List Char) :=
  let s := s.dropWhile isAsciiBlank
  match splitFirst? '>' (s.dropWhile isTagChar) with
  | some (_, after) => .ok (lowerText (s.takeWhile isTagChar), after)
  | none => .error .unclosedEndTag

/-- The text after a declaration, which ends at a `>` outside quotes. -/
def afterDeclaration? (quote : Option Char) : List Char → Option (List Char)
  | [] => none
  | c :: rest =>
    match quote with
    | some opened => afterDeclaration? (if c = opened then none else quote) rest
    | none =>
      if c = '>' then some rest
      else afterDeclaration? (if c = '\'' ∨ c = '"' then some c else none) rest

/-- A text up to the next tag. -/
def textRun : List Char → List Char × List Char
  | [] => ([], [])
  | c :: rest =>
    if c == '<' && opensTag rest then ([], c :: rest)
    else
      let (text, after) := textRun rest
      (c :: text, after)

/-- The pieces that one step of reading gives, and the text after them or the error. -/
structure Step where
  pieces : List Piece
  rest : Except Error (List Char)

/-- Reads the inside of a raw element and its end tag. -/
def rawElement (tag : String) (attributes : List Attribute) (s : List Char) : Step :=
  match rawBody? tag.toList s with
  | none => ⟨[.rawElement tag attributes ""], .error (.unclosedElement tag)⟩
  | some (body, after) =>
    let text := if decodesReferences tag then decode body else body
    ⟨[.rawElement tag attributes (String.ofList text)], (endTag (after.drop 2)).map (·.2)⟩

/-- Reads a start tag after its first character. -/
def startTag (s : List Char) : Step :=
  let tag := lowerText (s.takeWhile isTagChar)
  match attributes [] (s.dropWhile isTagChar) with
  | .error e => ⟨[], .error e⟩
  | .ok (attributes, selfClosing, rest) =>
    if isRawTag tag && !selfClosing then rawElement tag attributes rest
    else ⟨[.startTag tag attributes selfClosing], .ok rest⟩

/-- Reads a comment after its first four characters. -/
def comment (s : List Char) : Step :=
  match splitAround? ['-', '-', '>'] s with
  | some (text, rest) => ⟨[.comment (String.ofList text)], .ok rest⟩
  | none => ⟨[], .error .unclosedComment⟩

def closing (s : List Char) : Step :=
  match endTag s with
  | .ok (tag, rest) => ⟨[.endTag tag], .ok rest⟩
  | .error e => ⟨[], .error e⟩

def declaration (s : List Char) : Step :=
  match afterDeclaration? none s with
  | some rest => ⟨[], .ok rest⟩
  | none => ⟨[], .error .unclosedDeclaration⟩

/-- Reads what begins with the given character. -/
def step (c : Char) (rest : List Char) : Step :=
  if c == '<' && opensTag rest then
    match rest with
    | '!' :: '-' :: '-' :: s => comment s
    | '/' :: s => closing s
    | '!' :: s => declaration s
    | s => startTag s
  else
    let (text, after) := textRun rest
    ⟨[.text (String.ofList (decode (c :: text)))], .ok after⟩

/-! Each step reads at least one character. -/

theorem length_attributes {done found : List Attribute} {s rest : List Char} {selfClosing : Bool}
    (read : attributes done s = .ok (found, selfClosing, rest)) : rest.length ≤ s.length := by
  fun_induction attributes done s with
  | case1 => simp at read
  | case2 done tail =>
    simp only [Except.ok.injEq, Prod.mk.injEq] at read
    rw [← read.2.2, List.length_cons]; omega
  | case3 done c tail =>
    simp only [Except.ok.injEq, Prod.mk.injEq] at read
    rw [← read.2.2, List.length_cons, List.length_drop]; omega
  | case4 done c tail _ _ _ ih =>
    have shorter := ih read
    rw [List.length_cons]; omega
  | case5 done c tail _ _ _ name after more equals value remaining inner ih =>
    have shorter := ih read
    have value := length_attributeValue inner
    have blanks := length_dropWhile_le isAsciiBlank more
    have blanks' := length_dropWhile_le isAsciiBlank (tail.dropWhile isAttributeChar)
    have chars := length_dropWhile_le isAttributeChar tail
    have whole := congrArg List.length equals
    simp only [after, List.length_cons] at whole
    simp only [List.length_cons]; omega
  | case6 => simp at read
  | case7 done c tail _ _ _ name after _ ih =>
    have shorter := ih read
    have blanks := length_dropWhile_le isAsciiBlank (tail.dropWhile isAttributeChar)
    have chars := length_dropWhile_le isAttributeChar tail
    simp only [after] at shorter
    simp only [List.length_cons]; omega

theorem length_rawBody? {tag s body after : List Char} (found : rawBody? tag s = some (body, after)) :
    after.length ≤ s.length := by
  induction s generalizing body with
  | nil => simp [rawBody?] at found
  | cons c rest ih =>
    unfold rawBody? at found
    split at found
    · simp only [Option.some.injEq, Prod.mk.injEq] at found
      exact Nat.le_of_eq (congrArg List.length found.2.symm)
    · obtain ⟨⟨_, _⟩, inner, pair⟩ := Option.map_eq_some_iff.mp found
      obtain ⟨_, rfl⟩ := Prod.mk.inj pair
      have shorter := ih inner
      rw [List.length_cons]; omega

theorem length_endTag {s rest : List Char} {tag : String} (read : endTag s = .ok (tag, rest)) :
    rest.length ≤ s.length := by
  unfold endTag at read
  simp only [] at read
  split at read
  · rename_i found
    obtain ⟨_, rfl⟩ := Prod.mk.inj (Except.ok.inj read)
    have shorter := length_splitFirst? found
    have chars := length_dropWhile_le isTagChar (s.dropWhile isAsciiBlank)
    have blanks := length_dropWhile_le isAsciiBlank s
    omega
  · simp at read

theorem length_afterDeclaration? {quote : Option Char} {s rest : List Char}
    (found : afterDeclaration? quote s = some rest) : rest.length ≤ s.length := by
  induction s generalizing quote with
  | nil => simp [afterDeclaration?] at found
  | cons c tail ih =>
    unfold afterDeclaration? at found
    split at found
    · have shorter := ih found
      rw [List.length_cons]; omega
    · split at found
      · obtain rfl := Option.some.inj found
        simp
      · have shorter := ih found
        rw [List.length_cons]; omega

theorem length_textRun (s : List Char) : (textRun s).2.length ≤ s.length := by
  induction s with
  | nil => simp [textRun]
  | cons c rest ih =>
    unfold textRun
    split
    · simp
    · simp only [List.length_cons]; omega

theorem length_splitAround? {needle s before after : List Char}
    (found : splitAround? needle s = some (before, after)) : after.length ≤ s.length := by
  induction s generalizing before with
  | nil =>
    unfold splitAround? at found
    split at found
    · obtain ⟨_, rfl⟩ := Prod.mk.inj (Option.some.inj found)
      simp
    · simp at found
  | cons c rest ih =>
    unfold splitAround? at found
    split at found
    · rename_i start
      obtain ⟨_, rfl⟩ := Prod.mk.inj (Option.some.inj found)
      rw [afterStart?_eq_some_iff.mp start, List.length_append]; omega
    · obtain ⟨⟨_, _⟩, inner, pair⟩ := Option.map_eq_some_iff.mp found
      obtain ⟨_, rfl⟩ := Prod.mk.inj pair
      have shorter := ih inner
      rw [List.length_cons]; omega

theorem length_rawElement {tag : String} {found : List Attribute} {s rest : List Char}
    (read : (rawElement tag found s).rest = .ok rest) : rest.length ≤ s.length := by
  unfold rawElement at read
  split at read
  · simp at read
  · rename_i body after start
    have inner := length_rawBody? start
    cases ended : endTag (after.drop 2) with
    | error e => simp [ended, Except.map] at read
    | ok pair =>
      obtain ⟨name, tail⟩ := pair
      simp only [ended, Except.map, Except.ok.injEq] at read
      have shorter := length_endTag ended
      rw [List.length_drop, read] at shorter
      omega

theorem length_startTag {s rest : List Char} (read : (startTag s).rest = .ok rest) :
    rest.length ≤ s.length := by
  unfold startTag at read
  simp only [] at read
  split at read
  · simp at read
  · rename_i inner
    have chars := length_dropWhile_le isTagChar s
    have shorter := length_attributes inner
    split at read
    · have raw := length_rawElement read
      omega
    · obtain rfl := Except.ok.inj read
      omega

theorem length_step {c : Char} {s rest : List Char} (read : (step c s).rest = .ok rest) :
    rest.length ≤ s.length := by
  unfold step at read
  split at read
  · split at read
    · unfold comment at read
      split at read
      · rename_i found
        obtain rfl := Except.ok.inj read
        have shorter := length_splitAround? found
        simp only [List.length_cons]; omega
      · simp at read
    · unfold closing at read
      split at read
      · rename_i found
        obtain rfl := Except.ok.inj read
        have shorter := length_endTag found
        rw [List.length_cons]; omega
      · simp at read
    · unfold declaration at read
      split at read
      · rename_i found
        obtain rfl := Except.ok.inj read
        have shorter := length_afterDeclaration? found
        rw [List.length_cons]; omega
      · simp at read
    · exact length_startTag read
  · obtain rfl := Except.ok.inj read
    exact length_textRun _

/-- The pieces of a text up to its end or to the first error, and that error. -/
def pieces (s : List Char) : List Piece × Option Error :=
  match s with
  | [] => ([], none)
  | c :: tail =>
    match _read : (step c tail).rest with
    | .error e => ((step c tail).pieces, some e)
    | .ok rest => ((step c tail).pieces ++ (pieces rest).1, (pieces rest).2)
termination_by s.length
decreasing_by
  all_goals
    have shorter := length_step _read
    rw [List.length_cons]; omega

end CosmeticRules.Markup
