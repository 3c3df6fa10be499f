import CosmeticRules.Pattern.Error
import CosmeticRules.Pattern.Plain.Matching
import CosmeticRules.Pattern.Step
import CosmeticRules.Text.Case
import CosmeticRules.Text.Search

/-!
The search for a hard pattern. It takes one step after another, keeps the alternatives to the steps it has
taken, and goes back to the latest one when a step fails.
-/

namespace CosmeticRules.Pattern

/-- Where a search stands: the steps to take, its place in the text, the slots, and how many alternatives
there were when each atomic pattern began. -/
structure Course where
  steps : List Step
  position : Nat
  slots : Array (Option Nat)
  levels : List Nat
  deriving Inhabited

namespace Course

def slot? (c : Course) (slot : Nat) : Option Nat := (c.slots[slot]?).join

def setSlot (c : Course) (slot value : Nat) : Course :=
  { c with slots := c.slots.setIfInBounds slot (some value) }

def goTo (c : Course) (position : Nat) : Course := { c with position }

/-- Puts a step in front of the others. -/
def first (c : Course) (s : Step) : Course := { c with steps := s :: c.steps }

end Course

/-- What taking a step comes to. -/
inductive Outcome
  | goOn (c : Course)
  /-- Goes on and keeps an alternative, which may bear the mark of a step. -/
  | keep (c : Course) (mark : Option Nat) (alternative : Course)
  /-- Goes on with the oldest alternatives only, so many of them. -/
  | cut (c : Course) (kept : Nat)
  | fail
  /-- Fails together with the step that has this mark. -/
  | refuse (mark : Nat)

def Outcome.ofPosition? (c : Course) : Option Nat → Outcome
  | some position => .goOn (c.goTo position)
  | none => .fail

/-- Goes on if a condition holds. -/
def Outcome.when (holds : Bool) (c : Course) : Outcome := if holds then .goOn c else .fail

/-- Repeats something or goes on after it, whatever is preferred. -/
def Outcome.repeatOr (greedy : Bool) (again after : Course) : Outcome :=
  if greedy then .keep again none after else .keep after none again

/-- The characters at the start of a text that take just so many bytes. -/
def ofBytes? : Nat → List Char → Option (List Char)
  | 0, _ => some []
  | _ + 1, [] => none
  | size + 1, c :: rest =>
    if c.utf8Size ≤ size + 1 then (ofBytes? (size + 1 - c.utf8Size) rest).map (c :: ·) else none

/-- Whether one text repeats another without regard to case, given that they take the same number of bytes.
Outside ASCII it is enough that the other text occurs in it. -/
def repeatsIgnoringCase (expected actual : List Char) : Bool :=
  actual == expected ||
    if actual.all (·.toNat < 128) then Text.equalsIgnoringAsciiCase actual expected
    else Text.occursIn (expected.map Text.foldCase) (actual.map Text.foldCase)

/-- The place after one more occurrence of what a group has matched. Inside the group itself, that is the
text from its new start to its old end. -/
def afterReference? (text : Array Char) (group : Nat) (ignoreCase : Bool) (c : Course) : Option Nat := do
  let start ← c.slot? (2 * group)
  let stop ← c.slot? (2 * group + 1)
  if stop < start then none
  else
    let expected := (text.extract start stop).toList
    let size := (String.ofList expected).utf8ByteSize
    let actual ← ofBytes? size (text.extract c.position (c.position + size)).toList
    let same := if ignoreCase then repeatsIgnoringCase expected actual else actual == expected
    if same then some (c.position + actual.length) else none

/-- The place after a line break. -/
def afterLineBreak? (text : Array Char) (position : Nat) : Option Nat :=
  if text[position]? == some '\r' && text[position + 1]? == some '\n' then some (position + 2)
  else if (text[position]?).any "\n\x0b\x0c\r\u0085\u2028\u2029".toList.contains then
    some (position + 1)
  else none

/-- The place after a character that passes a test. -/
def afterChar? (text : Array Char) (position : Nat) (test : Char → Bool) : Option Nat :=
  if (text[position]?).any test then some (position + 1) else none

/-- Takes a step; the course holds the steps after it. The number of alternatives is given. -/
def Step.take (text : Array Char) (alternatives : Nat) (s : Step) (c : Course) : Outcome :=
  match s with
  | nothing => .goOn c
  | literal a => .ofPosition? c (afterChar? text c.position (· == a))
  | any lineFeed => .ofPosition? c (afterChar? text c.position fun a => lineFeed || a != '\n')
  | anchor a => .when (a.holds text c.position) c
  | lineBreak => .ofPosition? c (afterLineBreak? text c.position)
  | plain a => .ofPosition? c (a.preferredEnd? text c.position)
  | endOf p => .when (p.endsAt text c.position) c
  | back count => if count ≤ c.position then .goOn (c.goTo (c.position - count)) else .fail
  | sequence first second => .goOn ((c.first second).first first)
  | either first second => .keep (c.first first) none (c.first second)
  | loop greedy body => .repeatOr greedy ((c.first s).first body) c
  | counted least most greedy counter body =>
    let count := (c.slot? counter).getD 0
    if most = some count then .goOn c
    else
      let after := c.setSlot counter (count + 1)
      let again := (after.first s).first body
      if count < least then .goOn again else .repeatOr greedy again after
  | guarded least greedy counter place body =>
    let count := (c.slot? counter).getD 0
    if 0 < count && c.slot? place == some c.position then .goOn c
    else
      let after := c.setSlot counter (count + 1)
      if count < least then .goOn ((after.first s).first body)
      else
        let after := after.setSlot place c.position
        .repeatOr greedy ((after.first s).first body) after
  | clear slot => .goOn (c.setSlot slot 0)
  | save slot => .goOn (c.setSlot slot c.position)
  | restore slot => .ofPosition? c (c.slot? slot)
  | forbid mark body => .keep (c.first body) (some mark) c
  | refuse mark => .refuse mark
  | beginAtomic => .goOn { c with levels := alternatives :: c.levels }
  | endAtomic =>
    match c.levels with
    | kept :: levels => .cut { c with levels } kept
    | [] => .goOn c
  | reference group ignoreCase => .ofPosition? c (afterReference? text group ignoreCase c)
  | isMatched group => .when (c.slot? (2 * group)).isSome c

/-- An alternative that has been kept. -/
structure Alternative where
  mark : Option Nat
  course : Course
  deriving Inhabited

/-- Drops the alternatives after the latest one with a mark, and that one. The count bounds their number. -/
def dropThrough (mark : Nat) : Nat → Array Alternative → Array Alternative
  | 0, kept => kept
  | count + 1, kept =>
    match kept.back? with
    | none => kept
    | some a => if a.mark = some mark then kept.pop else dropThrough mark count kept.pop

/-- The number of times that a search may go back, and the number of alternatives it may keep. -/
def searchLimit : Nat := 1000000

/-- The number of steps that a search may take. -/
def stepLimit : Nat := 2000000000

/-- Whether a search comes to its end. It may take and go back so many times. -/
def search (text : Array Char) :
    Nat → Nat → Array Alternative → Course → Except Error Bool
  | 0, _, _, _ => .error .tooManySteps
  | count + 1, returns, kept, course =>
    match course.steps with
    | [] => .ok true
    | s :: steps =>
      let goBack (kept : Array Alternative) : Except Error Bool :=
        match kept.back? with
        | none => .ok false
        | some a =>
          if returns = 0 then .error .tooManySteps
          else search text count (returns - 1) kept.pop a.course
      match s.take text kept.size { course with steps } with
      | .goOn course => search text count returns kept course
      | .keep course mark alternative =>
        if searchLimit ≤ kept.size then .error .tooManySteps
        else search text count returns (kept.push ⟨mark, alternative⟩) course
      | .cut course size => search text count returns (kept.shrink size) course
      | .fail => goBack kept
      | .refuse mark => goBack (dropThrough mark kept.size kept)

/-- Whether a step can be taken to its end from some place in a text. -/
def Step.occursIn (s : Step) (slots : Nat) (text : Array Char) : Except Error Bool :=
  search text stepLimit searchLimit #[]
    ⟨[.loop false (.any true), s], 0, Array.replicate slots none, []⟩

end CosmeticRules.Pattern
