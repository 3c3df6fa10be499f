import CosmeticRules.Proofs.Engine.RulesInForce
import CosmeticRules.Proofs.Matching.Elements
import CosmeticRules.Proofs.Page.Recorded

/-!
How far the work of an engine reaches in a page. It takes nodes out and writes the styles of the elements that
it visits or has visited; whatever it has visited is an element and stays one.
-/

namespace CosmeticRules

open PageTree (Confined)

namespace Engine

variable {σ : Type}

/-! Visits are made to elements. -/

theorem page_selectNodes (engine : Engine σ) (rule : Rule) :
    (engine.selectNodes rule).1.page = engine.page := by
  unfold selectNodes
  simp only []
  split
  · rfl
  · split <;> rfl

theorem isElement_of_mem_selectNodes {engine : Engine σ} {rule : Rule} {n : NodeId}
    (member : n ∈ (engine.selectNodes rule).2) : engine.page.tree.isElement n = true := by
  unfold selectNodes at member
  simp only [] at member
  split at member
  · rename_i nodes selected
    exact Matching.select_gives ⟨engine.page, engine.source⟩ rule.tree nodes selected n member
  · simp at member

theorem isElement_of_mem_visitsTo {engine : Engine σ} {rule : Rule} {nodes : List NodeId}
    (elements : ∀ n ∈ nodes, engine.page.tree.isElement n = true) {visit : Visit σ}
    (member : visit ∈ engine.visitsTo rule nodes) :
    visit.engine.page.tree.isElement visit.node = true := by
  induction nodes generalizing engine with
  | nil => simp [visitsTo] at member
  | cons n rest ih =>
    obtain ⟨first, others⟩ := List.forall_mem_cons.mp elements
    have keeps := isElement_visit engine rule n
    rw [visitsTo] at member
    rcases List.mem_cons.mp member with rfl | member
    · exact first
    · split at member
      · rename_i later same
        rw [same] at keeps
        exact ih (fun m inRest => (keeps m).trans (others m inRest)) member
      · simp at member

theorem isElement_of_mem_visitsOf {engine : Engine σ} {states : List RuleState} {visit : Visit σ}
    (member : visit ∈ engine.visitsOf states) : visit.engine.page.tree.isElement visit.node = true := by
  induction states generalizing engine with
  | nil => simp [visitsOf] at member
  | cons state rest ih =>
    rw [visitsOf_cons] at member
    rcases List.mem_append.mp member with first | second
    · refine isElement_of_mem_visitsTo (fun n selected => ?_) first
      rw [page_selectNodes]
      exact isElement_of_mem_selectNodes selected
    · split at second
      · exact ih second
      · simp at second

theorem isElement_of_mem_visits {engine : Engine σ} {visit : Visit σ} (member : visit ∈ engine.visits) :
    visit.engine.page.tree.isElement visit.node = true := isElement_of_mem_visitsOf member

/-! Settling, protection and disposal. -/

theorem confined_settleAll (engine : Engine σ) (selected : List NodeId) :
    Confined (fun m => m ∈ Affected.nodes engine.affected ∧ m ∉ selected) engine.page.tree
      (engine.settleAll selected).page.tree := by
  unfold settleAll
  generalize engine.affected = entries
  induction entries with
  | nil => exact .refl _ _
  | cons a rest ih =>
    have ih := ih.mono (Q := fun m => m ∈ Affected.nodes (a :: rest) ∧ m ∉ selected)
      fun m holds => ⟨List.mem_cons_of_mem _ holds.1, holds.2⟩
    rw [List.foldr_cons, settle]
    split
    · rename_i left
      refine ih.trans ((Page.confined_writeStyle _ a.node a.initialStyle).mono ?_)
      rintro m rfl
      exact ⟨List.mem_cons_self, by simpa using left⟩
    · split <;> exact ih

theorem confined_protectNode (engine : Engine σ) (n : NodeId) :
    Confined (· = n) engine.page.tree (engine.protectNode n).page.tree := by
  unfold protectNode
  split
  · exact .refl _ _
  · rename_i p _
    split
    · exact .refl _ _
    · exact engine.page.confined_applyStyles n p.styles

theorem confined_foldl_revert (entries : List Affected) (page : Page) :
    Confined (· ∈ Affected.nodes entries) page.tree (entries.foldl revert page).tree := by
  induction entries generalizing page with
  | nil => exact .refl _ _
  | cons a rest ih =>
    have first : Confined (· = a.node) page.tree (revert page a).tree :=
      page.confined_writeStyle a.node a.initialStyle
    refine (first.mono ?_).trans ((ih _).mono fun m member => List.mem_cons_of_mem _ member)
    rintro m rfl
    exact List.mem_cons_self

theorem Passing.confined {engine later : Engine σ} {visits : List (Visit σ)}
    (passing : Passing engine visits later) :
    Confined (fun _ => True) engine.page.tree later.page.tree := by
  induction passing with
  | done => exact .refl _ _
  | noted entries _ ih => exact ih
  | @visited engine later visits rule n _ ih =>
    obtain ⟨_, confined, _⟩ := confined_visit engine rule n
    exact (confined.mono fun _ _ => trivial).trans ih

theorem confined_pass (engine : Engine σ) :
    Confined (fun _ => True) engine.page.tree engine.pass.1.page.tree :=
  pass_induction (P := fun later => Confined (fun _ => True) engine.page.tree later.page.tree)
    (fun passing => passing.confined)
    (fun confined => confined.trans ((confined_settleAll _ _).mono fun _ _ => trivial))
    fun ended confined => ended.tree ▸ confined

/-- Nodes are never taken out of a page. -/
theorem keptByEngine_contains (n : NodeId) :
    KeptByEngine fun engine : Engine σ => engine.page.tree.contains n = true where
  throttle := fun inside _ => inside
  awaitsReady := fun inside _ => inside
  log := fun inside _ => inside
  taken := fun inside => inside
  pass := fun inside => ((confined_pass _).contains n).trans inside
  protectNode := fun inside m => ((confined_protectNode _ m).contains n).trans inside
  dispose := fun inside => ((confined_foldl_revert _ _).contains n).trans inside

theorem contains_after {engine : Engine σ} {n : NodeId} (inside : engine.page.tree.contains n = true)
    (event : Event) : (engine.after event).page.tree.contains n = true := by
  cases event with
  | script step =>
    obtain ⟨_, recorded, _⟩ := Page.told_script engine.page step
    exact recorded.contains n inside
  | advance | useNativeText => exact inside
  | apply => exact (keptByEngine_contains n).apply inside
  | pump => exact (keptByEngine_contains n).pump inside
  | dispose => exact (keptByEngine_contains n).dispose inside

theorem nodes_protectNode (engine : Engine σ) (n : NodeId) :
    Affected.nodes (engine.protectNode n).affected = Affected.nodes engine.affected := by
  unfold protectNode
  split
  · rfl
  · split
    · rfl
    · exact Affected.nodes_update fun _ => rfl

/-- The affected nodes are elements. -/
def AffectedElements (engine : Engine σ) : Prop :=
  ∀ n ∈ Affected.nodes engine.affected, engine.page.tree.isElement n = true

theorem Passing.affectedElements {engine later : Engine σ} {visits : List (Visit σ)}
    (passing : Passing engine visits later)
    (elements : ∀ visit ∈ visits, visit.engine.page.tree.isElement visit.node = true)
    (holds : engine.AffectedElements) : later.AffectedElements := by
  induction passing with
  | done => exact holds
  | noted entries _ ih => exact ih elements holds
  | @visited engine later visits rule n _ ih =>
    obtain ⟨here, rest⟩ := List.forall_mem_cons.mp elements
    refine ih rest fun m member => ?_
    rw [isElement_visit]
    rcases mem_nodes_visit.mp member with old | rfl
    · exact holds m old
    · exact here

theorem AffectedElements.settleAll {engine : Engine σ} (holds : engine.AffectedElements)
    (selected : List NodeId) : (engine.settleAll selected).AffectedElements := by
  intro n member
  rw [(settled_settleAll [] engine selected).nodes] at member
  rw [(confined_settleAll engine selected).isElement]
  exact holds n (List.mem_filter.mp member).1

theorem AffectedElements.ended {engine later : Engine σ} (ended : Ended engine later)
    (holds : engine.AffectedElements) : later.AffectedElements := by
  intro n member
  rw [ended.affected] at member
  rw [ended.tree]
  exact holds n member

theorem AffectedElements.pass {engine : Engine σ} (holds : engine.AffectedElements) :
    engine.pass.1.AffectedElements :=
  pass_induction (fun passing => passing.affectedElements (fun _ => isElement_of_mem_visits) holds)
    (fun holds => holds.settleAll _) .ended

theorem keptByEngine_affectedElements : KeptByEngine (AffectedElements : Engine σ → Prop) where
  throttle := fun holds _ => holds
  awaitsReady := fun holds _ => holds
  log := fun holds _ => holds
  taken := fun holds => holds
  pass := fun holds => holds.pass
  protectNode := by
    intro engine holds n m member
    rw [nodes_protectNode] at member
    rw [(confined_protectNode engine n).isElement]
    exact holds m member
  dispose := by
    intro engine _ m member
    simp [Engine.dispose, dropOwnMutations, write, Affected.nodes] at member

theorem AffectedElements.after {engine : Engine σ} (holds : engine.AffectedElements) (event : Event) :
    (engine.after event).AffectedElements := by
  cases event with
  | script step =>
    obtain ⟨_, recorded, _⟩ := Page.told_script engine.page step
    intro n member
    have element := holds n member
    exact (recorded.isElement n (PageTree.contains_of_isElement element)).trans element
  | advance | useNativeText => exact holds
  | apply => exact keptByEngine_affectedElements.apply holds
  | pump => exact keptByEngine_affectedElements.pump holds
  | dispose => exact keptByEngine_affectedElements.dispose holds

theorem affectedElements_of_made {page : Page} {configuration : Configuration σ} {hookState : σ}
    {engine : Engine σ} (made : (ofPage page configuration hookState).result = .ok engine) :
    engine.AffectedElements := by
  obtain ⟨rules, _, rfl⟩ := engine_of_made made
  intro n member
  simp [Affected.nodes] at member

/-- In every state of every run the affected nodes are elements. -/
theorem Reachable.affectedElements {page : Page} {configuration : Configuration σ} {hookState : σ}
    {engine : Engine σ} (reach : Reachable page configuration hookState engine) :
    engine.AffectedElements := by
  induction reach with
  | new made => exact affectedElements_of_made made
  | next _ event ih => exact ih.after event

end Engine

end CosmeticRules
