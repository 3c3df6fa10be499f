import CosmeticRules.Text.Digit

/-!
Sets of code points that go by names, as the standard tables of character properties list them.
-/

namespace CosmeticRules.Text

/-- A set of code points and its names. The rows hold, in hexadecimal, how much further each edge of the set
is than the one before. -/
structure NamedSet where
  names : List String
  rows : List String
  deriving DecidableEq, Repr, Inhabited

/-- The edges from the distances between them, after the last edge so far. -/
def edgesAfter (last : Nat) : List (List Char) → List Nat
  | [] => []
  | distance :: rest =>
    let edge := last + digitsValue 16 distance
    edge :: edgesAfter edge rest

/-- The edges of the set: its first member, the first non-member after it, and so on in turn. -/
def NamedSet.edges (s : NamedSet) : List Nat :=
  edgesAfter 0 (s.rows.flatMap fun row => row.toList.splitOn ' ')

def NamedSet.find? (key : String) (sets : List NamedSet) : Option NamedSet :=
  List.find? (·.names.contains key) sets

theorem length_edgesAfter (last : Nat) (distances : List (List Char)) :
    (edgesAfter last distances).length = distances.length := by
  induction distances generalizing last with
  | nil => rfl
  | cons distance rest ih => simp [edgesAfter, ih]

end CosmeticRules.Text
