import CosmeticRules.Rule.Style
import CosmeticRules.Selector.Error
import CosmeticRules.Text.Search

/-!
The marker `:remove()`, which ends the selector of a rule that deletes elements.
-/

namespace CosmeticRules

/-- A selector without its marker. -/
structure MarkedSelector where
  selector : String
  removes : Bool
  deriving DecidableEq, Repr, Inhabited

namespace MarkedSelector

open Text

def marker : List Char := ":remove()".toList

def markerStart : List Char := ":remove(".toList

/-- What the marker declares. -/
def declarations (marked : MarkedSelector) : List Declaration :=
  if marked.removes then [⟨Style.removeProperty, Style.removeValue⟩] else []

/-- Takes the marker off. It has to stand once, after something, and at the very end. -/
def read (selector : String) : Except SelectorError MarkedSelector :=
  match splitAround? marker selector.toList with
  | none =>
    if occursIn markerStart selector.toList then .error (.removePseudo selector)
    else .ok ⟨selector, false⟩
  | some (before, after) =>
    if before.isEmpty then .error (.nothingToRemove selector)
    else if occursIn marker after then .error (.removeTwice selector)
    else if !after.isEmpty then .error (.removeNotLast selector)
    else .ok ⟨String.ofList before, true⟩

end MarkedSelector

end CosmeticRules
