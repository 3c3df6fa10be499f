/-!
Finding and replacing one text inside another.
-/

namespace CosmeticRules.Text

/-- What follows a given start, if the text begins with it. -/
def afterStart? : List Char → List Char → Option (List Char)
  | [], s => some s
  | _ :: _, [] => none
  | a :: start, c :: s => if a = c then afterStart? start s else none

theorem afterStart?_eq_some_iff {start s rest : List Char} :
    afterStart? start s = some rest ↔ s = start ++ rest := by
  induction start generalizing s with
  | nil => simp [afterStart?, eq_comm]
  | cons a start ih =>
    cases s with
    | nil => simp [afterStart?]
    | cons c s =>
      by_cases same : a = c
      · simp [afterStart?, same, ih]
      · simp [afterStart?, same, Ne.symm same]

/-- Whether the needle occurs somewhere in the text. -/
def occursIn (needle : List Char) : List Char → Bool
  | [] => needle.isEmpty
  | c :: rest => needle.isPrefixOf (c :: rest) || occursIn needle rest

/-- The parts before and after the first occurrence of a text. -/
def splitAround? (needle : List Char) : List Char → Option (List Char × List Char)
  | [] => if needle.isEmpty then some ([], []) else none
  | c :: rest =>
    match afterStart? needle (c :: rest) with
    | some after => some ([], after)
    | none => (splitAround? needle rest).map fun (before, after) => (c :: before, after)

/-- Replaces occurrences from left to right without overlaps; the count says how many characters of
the occurrence at hand are still to be dropped. -/
def replaceFrom (needle replacement : List Char) : Nat → List Char → List Char
  | _, [] => []
  | pending + 1, _ :: rest => replaceFrom needle replacement pending rest
  | 0, c :: rest =>
    if needle.isPrefixOf (c :: rest) then
      replacement ++ replaceFrom needle replacement (needle.length - 1) rest
    else c :: replaceFrom needle replacement 0 rest

/-- Replaces every occurrence of a non-empty needle, leftmost first. -/
def replaceAll (needle replacement s : List Char) : List Char :=
  replaceFrom needle replacement 0 s

/-- Drops the backslash in front of each of the listed characters. -/
def unescape (escaped : List Char) : List Char → List Char
  | '\\' :: c :: rest =>
    if escaped.contains c then c :: unescape escaped rest
    else '\\' :: unescape escaped (c :: rest)
  | c :: rest => c :: unescape escaped rest
  | [] => []

def joinWith (separator : List Char) (parts : List (List Char)) : List Char :=
  List.intercalate separator parts

end CosmeticRules.Text
