import CosmeticRules.Pattern.CharSet
import CosmeticRules.Text.Property.Age
import CosmeticRules.Text.Property.Binary
import CosmeticRules.Text.Property.Break
import CosmeticRules.Text.Property.Category
import CosmeticRules.Text.Property.Script
import CosmeticRules.Text.Property.ScriptExtension

/-!
The sets of characters that properties describe, found by the names of the properties. Letter case, spaces,
hyphens and underscores do not count in a name, and it may start with `is`.
-/

namespace CosmeticRules.CharSet

open Text

/-- A name as it is looked up. Characters outside ASCII do not count either. -/
def propertyKey (name : List Char) : String :=
  let letters (s : List Char) :=
    (s.filter fun c => c != ' ' && c != '_' && c != '-' && c.toNat < 128).map Char.toLower
  match name with
  | a :: b :: rest =>
    if a.toLower == 'i' && b.toLower == 's' then
      let found := letters rest
      String.ofList (if found == ['c'] then ['i', 's', 'c'] else found)
    else String.ofList (letters name)
  | _ => String.ofList (letters name)

/-- The general categories that hold others. -/
def categoryGroups : List (List String × List String) :=
  [(["c", "other"], ["cc", "cf", "cn", "co"]), (["l", "letter"], ["ll", "lm", "lo", "lt", "lu"]),
    (["lc", "casedletter"], ["ll", "lt", "lu"]),
    (["m", "mark", "combiningmark"], ["mc", "me", "mn"]), (["n", "number"], ["nd", "nl", "no"]),
    (["p", "punctuation", "punct"], ["pc", "pd", "pe", "pf", "pi", "po", "ps"]),
    (["s", "symbol"], ["sc", "sk", "sm", "so"]), (["z", "separator"], ["zl", "zp", "zs"])]

def named? (sets : List NamedSet) (key : String) : Option CharSet :=
  (NamedSet.find? key sets).map fun s => edges s.edges

/-- A general category, a group of them, or one of the sets that are named along with them. -/
def category? (key : String) : Option CharSet :=
  if key == "any" then some all
  else if key == "ascii" then some (range '\x00' '\x7f')
  else if key == "assigned" then (named? generalCategories "cn").map complement
  else
    match categoryGroups.find? (·.1.contains key) with
    | some (_, members) => some (ofList (members.filterMap (named? generalCategories)))
    | none => named? generalCategories key

/-- The characters that a version of the character set knows: those that it or an older one brought in. -/
def knownSince? (key : String) : Option CharSet :=
  match ages.findIdx? (·.names.contains key) with
  | some index => some (ofList ((ages.take (index + 1)).map fun s => edges s.edges))
  | none => none

/-- The set that a single name stands for: a property, a general category or a script. -/
def ofName? (name : List Char) : Option CharSet :=
  let key := propertyKey name
  named? binaryProperties key <|> category? key <|> named? scripts key

/-- The set of the characters for which a property has a value. -/
def ofValue? (name value : List Char) : Option CharSet :=
  let key := propertyKey value
  match propertyKey name with
  | "gc" | "generalcategory" => category? key
  | "sc" | "script" => named? scripts key
  | "scx" | "scriptextensions" => named? scriptExtensions key
  | "age" => knownSince? key
  | "gcb" | "graphemeclusterbreak" => named? graphemeBreaks key
  | "wb" | "wordbreak" => named? wordBreaks key
  | "sb" | "sentencebreak" => named? sentenceBreaks key
  | _ => none

end CosmeticRules.CharSet
