/-!
Declarations and the style they make up: one value for each property, in the order in which the
properties were first declared.
-/

namespace CosmeticRules

structure Declaration where
  property : String
  value : String
  deriving DecidableEq, Repr, Inhabited

namespace Declaration

/-- Gives a property a value: in its place if it is declared already, and at the end if not. -/
def put (property value : String) : List Declaration → List Declaration
  | [] => [⟨property, value⟩]
  | d :: rest =>
    if d.property = property then ⟨property, value⟩ :: rest else d :: put property value rest

theorem map_property_put (property value : String) (declarations : List Declaration) :
    (put property value declarations).map (·.property) =
      if property ∈ declarations.map (·.property) then declarations.map (·.property)
      else declarations.map (·.property) ++ [property] := by
  induction declarations with
  | nil => rfl
  | cons d rest ih =>
    by_cases same : d.property = property
    · simp [put, same]
    · simp only [put, same, if_false, List.map_cons, ih, List.mem_cons, Ne.symm same, false_or]
      split <;> simp

end Declaration

structure Style where
  declarations : List Declaration := []
  distinct : (declarations.map (·.property)).Nodup := by exact List.nodup_nil
  deriving DecidableEq, Repr

namespace Style

instance : Inhabited Style := ⟨{}⟩

/-- The value declared for a property. -/
def get? (style : Style) (property : String) : Option String :=
  (style.declarations.find? (·.property == property)).map (·.value)

/-- Declares a property; one that is declared already keeps its place. -/
def insert (style : Style) (property value : String) : Style where
  declarations := Declaration.put property value style.declarations
  distinct := by
    rw [Declaration.map_property_put]
    split
    · exact style.distinct
    · rename_i fresh
      exact List.nodup_append.mpr ⟨style.distinct, by simp, by
        intro a member b single equal
        rw [List.mem_singleton.mp single] at equal
        exact fresh (equal ▸ member)⟩

/-- The style of a list of declarations, in which a later one for the same property counts. -/
def ofList (declarations : List Declaration) : Style :=
  declarations.foldl (fun style d => style.insert d.property d.value) {}

def size (style : Style) : Nat := style.declarations.length

def isEmpty (style : Style) : Bool := style.declarations.isEmpty

/-- The property that stands for deleting the element. -/
def removeProperty : String := "remove"

def removeValue : String := "true"

/-- The property that is handed on to hooks. -/
def contentProperty : String := "content"

/-- Whether matched elements are to be deleted instead of styled. -/
def isRemove (style : Style) : Bool := style.get? removeProperty == some removeValue

end Style

end CosmeticRules
