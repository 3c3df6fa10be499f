import Mathlib.Data.List.Nodup

/-!
Lists without repetitions: looking an entry up by its key, and the first occurrences in a list.
-/

namespace CosmeticRules

variable {α β : Type} [BEq β]

/-- Where no key occurs twice, an entry is found by its key. -/
theorem find?_of_nodup_map [LawfulBEq β] {key : α → β} {items : List α} (distinct : (items.map key).Nodup)
    {item : α} (member : item ∈ items) : items.find? (key · == key item) = some item := by
  induction items with
  | nil => simp at member
  | cons first rest ih =>
    obtain ⟨fresh, distinct⟩ := List.nodup_cons.mp distinct
    rcases List.mem_cons.mp member with rfl | later
    · simp
    · have other : key first ≠ key item := fun same => fresh (List.mem_map.mpr ⟨item, later, same.symm⟩)
      rw [List.find?_cons_of_neg (by simpa using other)]
      exact ih distinct later

theorem map_eraseDupsBy (f : α → β) :
    ∀ items : List α, (items.eraseDupsBy fun a b => f a == f b).map f = (items.map f).eraseDups
  | [] => rfl
  | first :: rest => by
    rw [List.eraseDupsBy_cons, List.map_cons, List.map_cons, List.eraseDups_cons,
      map_eraseDupsBy f (rest.filter _), List.filter_map]
    simp [Function.comp_def]
termination_by items => items.length
decreasing_by exact Nat.lt_succ_of_le (List.length_filter_le _ _)

variable [LawfulBEq β]

theorem nodup_eraseDups : ∀ items : List β, items.eraseDups.Nodup
  | [] => by simp
  | first :: rest => by
    rw [List.eraseDups_cons]
    refine List.nodup_cons.mpr ⟨?_, nodup_eraseDups _⟩
    rw [List.mem_eraseDups, List.mem_filter]
    simp
termination_by items => items.length
decreasing_by exact Nat.lt_succ_of_le (List.length_filter_le _ _)

theorem eraseDups_of_nodup {items : List β} (distinct : items.Nodup) : items.eraseDups = items := by
  induction items with
  | nil => rfl
  | cons first rest ih =>
    obtain ⟨fresh, distinct⟩ := List.nodup_cons.mp distinct
    have apart : rest.filter (fun item => !item == first) = rest := by
      refine List.filter_eq_self.mpr fun item member => ?_
      simpa using fun same : item = first => fresh (same ▸ member)
    rw [List.eraseDups_cons, apart, ih distinct]

end CosmeticRules
