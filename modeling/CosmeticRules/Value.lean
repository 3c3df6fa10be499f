import CosmeticRules.Decimal.Numeral

/-!
Values that a page script can attach to an element: numbers, texts, lists and records.
-/

namespace CosmeticRules

inductive Value
  | null
  | bool (b : Bool)
  | int (i : Int)
  | real (x : Float)
  | text (s : String)
  | list (items : List Value)
  /-- Fields in increasing order of their keys. -/
  | record (fields : List (String × Value))
  deriving Inhabited

namespace Value

/-- Puts a field into its place among fields in increasing order; a field with the same key is
replaced. -/
def putField (key : String) (value : Value) : List (String × Value) → List (String × Value)
  | [] => [(key, value)]
  | (k, v) :: rest =>
    if key = k then (key, value) :: rest
    else if key < k then (key, value) :: (k, v) :: rest
    else (k, v) :: putField key value rest

/-- The record of a list of fields, in which a later one with the same key counts. -/
def ofFields (fields : List (String × Value)) : Value :=
  record (fields.foldl (fun sorted (key, value) => putField key value sorted) [])

def field? (value : Value) (key : String) : Option Value :=
  match value with
  | record fields => (fields.find? (·.1 == key)).map (·.2)
  | _ => none

end Value

end CosmeticRules
