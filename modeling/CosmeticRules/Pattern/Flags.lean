import CosmeticRules.Pattern.Error

/-!
The switches that change what a pattern means.
-/

namespace CosmeticRules.Pattern

structure Flags where
  ignoreCase : Bool := false
  multiLine : Bool := false
  dotAll : Bool := false
  /-- Makes repetitions lazy where they would be greedy, and the other way round. -/
  lazy : Bool := false
  /-- Blanks and comments from a number sign to the end of the line do not count. -/
  spaced : Bool := false
  deriving DecidableEq, Repr, Inhabited

/-- Switches the flag of a letter on or off. -/
def Flags.set? (flags : Flags) (on : Bool) : Char → Option Flags
  | 'i' => some { flags with ignoreCase := on }
  | 'm' => some { flags with multiLine := on }
  | 's' => some { flags with dotAll := on }
  | 'U' => some { flags with lazy := on }
  | 'x' => some { flags with spaced := on }
  | 'u' => if on then some flags else none
  | _ => none

/-- The flags after a pattern in slashes, each at most once. Some make no difference to whether a pattern
matches. -/
def readFlags (s : List Char) : Except Error Flags :=
  if s.Nodup then s.foldlM addFlag {} else .error .badFlag
where
  addFlag (flags : Flags) : Char → Except Error Flags
    | 'i' => .ok { flags with ignoreCase := true }
    | 'm' => .ok { flags with multiLine := true }
    | 's' => .ok { flags with dotAll := true }
    | 'g' | 'y' | 'u' => .ok flags
    | _ => .error .badFlag

end CosmeticRules.Pattern
