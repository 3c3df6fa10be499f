import CosmeticRules.Proofs.Page.DocumentOrder

/-!
The nodes that are connected to the document: with a node, what is above it and what is below it.
-/

namespace CosmeticRules.PageTree.WellFormed

variable {t : PageTree} (wf : t.WellFormed) {n m parent : NodeId}

include wf

theorem isConnected_iff : t.isConnected n = true ↔ t.IsWithin n root := by
  rw [PageTree.isConnected, Bool.or_eq_true, beq_iff_eq, wf.isDescendantOf_iff, eq_comm]
  exact Relation.reflTransGen_iff_eq_or_transGen.symm

/-- Nothing is above the document, so what is around a connected node is connected. -/
theorem isWithin_root_of_isWithin (connected : t.IsWithin n root) (within : t.IsWithin n m) : t.IsWithin m root := by
  rcases isWithin_total within connected with inside | above
  · exact inside
  · rcases Relation.ReflTransGen.cases_head above with rfl | ⟨parent, is, _⟩
    · exact .refl
    · exact absurd (Eq.trans wf.parent?_root.symm is) (by simp)

theorem isWithin_root_of_parent? (connected : t.IsWithin n root) (is : t.parent? n = some parent) :
    t.IsWithin parent root :=
  wf.isWithin_root_of_isWithin connected (.single is)

theorem isWithin_root_of_mem_children (connected : t.IsWithin parent root) (member : n ∈ t.children parent) :
    t.IsWithin n root :=
  .head ((wf.mem_children parent n).mp member) connected

end CosmeticRules.PageTree.WellFormed
