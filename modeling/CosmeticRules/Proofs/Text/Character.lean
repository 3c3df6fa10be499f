/-!
Statements about the characters of a text are decided by going over the text, not over all characters
there are.
-/

namespace CosmeticRules.Text

instance decidableForallMem (s : List Char) (p : Char → Prop) [DecidablePred p] :
    Decidable (∀ c ∈ s, p c) := List.decidableBAll p s

instance decidableForallSome (o : Option Char) (p : Char → Prop) [DecidablePred p] :
    Decidable (∀ c, o = some c → p c) :=
  match o with
  | none => isTrue fun _ none => nomatch none
  | some c => decidable_of_iff (p c) ⟨fun holds _ same => Option.some.inj same ▸ holds, fun all => all c rfl⟩

end CosmeticRules.Text
