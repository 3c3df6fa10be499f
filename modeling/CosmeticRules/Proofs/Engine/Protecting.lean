import CosmeticRules.Proofs.Distinct
import CosmeticRules.Proofs.Engine.Confined

/-!
When a script changes the style of a protected element, the next delivery of changes puts the protected styles
back and counts it, unless a pass in between has dropped the records of changes.
-/

namespace CosmeticRules

/-! What is written to an element depends on this element alone. -/

namespace Page

variable {page other : Page} {n : NodeId}

theorem element?_applyDeclaration_congr (same : other.tree.element? n = page.tree.element? n)
    (d : Declaration) :
    (other.applyDeclaration n d).tree.element? n = (page.applyDeclaration n d).tree.element? n := by
  have accepts : other.accepts n d = page.accepts n d := by
    rw [Page.accepts, Page.accepts, supportsProperty, supportsProperty, PageTree.isElement, same,
      PageTree.isElement]
  cases accepted : page.accepts n d with
  | false =>
    rw [applyDeclaration_of_not_accepts accepted, applyDeclaration_of_not_accepts (accepts.trans accepted),
      same]
  | true =>
    rw [applyDeclaration_of_accepts accepted, applyDeclaration_of_accepts (accepts.trans accepted),
      element?_writeStyle, element?_writeStyle, if_pos rfl, if_pos rfl, same, styleText_congr same]

theorem element?_applyStyle_congr (same : other.tree.element? n = page.tree.element? n) (style : Style) :
    (other.applyStyle n style).tree.element? n = (page.applyStyle n style).tree.element? n := by
  unfold applyStyle
  generalize style.declarations = declarations
  induction declarations generalizing page other with
  | nil => exact same
  | cons d rest ih => exact ih (element?_applyDeclaration_congr same d)

theorem element?_applyStyles_congr (same : other.tree.element? n = page.tree.element? n)
    (styles : List Style) : (styles.foldl (·.applyStyle n) other).tree.element? n =
      (styles.foldl (·.applyStyle n) page).tree.element? n := by
  induction styles generalizing page other with
  | nil => exact same
  | cons style rest ih => exact ih (element?_applyStyle_congr same style)

end Page

namespace Engine

variable {σ : Type} {engine : Engine σ} {n : NodeId} {a : Affected} {p : Protection}

/-! The delivery of changes. -/

theorem protectNode_of_ne (engine : Engine σ) {m : NodeId} (other : n ≠ m) :
    Affected.find? n (engine.protectNode m).affected = Affected.find? n engine.affected ∧
      (engine.protectNode m).page.tree.element? n = engine.page.tree.element? n := by
  refine ⟨?_, (confined_protectNode engine m).element? n other⟩
  unfold protectNode
  split
  · rfl
  · rename_i p _
    split
    · rfl
    · exact (Affected.find?_update (f := fun a => { a with protection := some p.next })
        (fun _ => rfl) n).trans (if_neg other)

theorem protectNode_of_find? (found : Affected.find? n engine.affected = some a)
    (guarded : a.protection = some p) (works : p.connected = true) :
    Affected.find? n (engine.protectNode n).affected = some { a with protection := some p.next } ∧
      (engine.protectNode n).page = p.styles.foldl (·.applyStyle n) engine.page := by
  unfold protectNode
  rw [found, Option.bind_some, guarded]
  simp only [works, Bool.not_true, Bool.false_eq_true, if_false]
  refine ⟨?_, rfl⟩
  refine (Affected.find?_update (f := fun a => { a with protection := some p.next })
    (fun _ => rfl) n).trans ((if_pos rfl).trans ?_)
  rw [found, Option.map_some]

theorem foldl_protectNode_of_not_mem (engine : Engine σ) {targets : List NodeId} (absent : n ∉ targets) :
    Affected.find? n (targets.foldl protectNode engine).affected = Affected.find? n engine.affected ∧
      (targets.foldl protectNode engine).page.tree.element? n = engine.page.tree.element? n := by
  induction targets generalizing engine with
  | nil => exact ⟨rfl, rfl⟩
  | cons m rest ih =>
    rw [List.mem_cons, not_or] at absent
    obtain ⟨entry, element⟩ := engine.protectNode_of_ne absent.1
    obtain ⟨entries, elements⟩ := ih (engine.protectNode m) absent.2
    exact ⟨entries.trans entry, elements.trans element⟩

/-- Each target has its turn once, and no other turn touches it. -/
theorem foldl_protectNode_of_mem {targets : List NodeId} (distinct : targets.Nodup) (member : n ∈ targets)
    (found : Affected.find? n engine.affected = some a) (guarded : a.protection = some p)
    (works : p.connected = true) :
    Affected.find? n (targets.foldl protectNode engine).affected =
        some { a with protection := some p.next } ∧
      (targets.foldl protectNode engine).page.tree.element? n =
        (p.styles.foldl (·.applyStyle n) engine.page).tree.element? n := by
  obtain ⟨before, after, rfl⟩ := List.append_of_mem member
  have apart := (List.nodup_append.mp distinct).2.2
  have first : n ∉ before := fun again => apart n again n List.mem_cons_self rfl
  have last : n ∉ after := (List.nodup_cons.mp (List.nodup_append.mp distinct).2.1).1
  rw [List.foldl_append, List.foldl_cons]
  obtain ⟨entry, element⟩ := engine.foldl_protectNode_of_not_mem first
  obtain ⟨renewed, page⟩ := protectNode_of_find? (entry.trans found) guarded works
  obtain ⟨entries, elements⟩ :=
    ((before.foldl protectNode engine).protectNode n).foldl_protectNode_of_not_mem last
  refine ⟨entries.trans renewed, elements.trans ?_⟩
  rw [page]
  exact Page.element?_applyStyles_congr element p.styles

theorem noteChanges_fields (engine : Engine σ) (records : List Mutation) :
    (engine.noteChanges records).affected = engine.affected ∧
      (engine.noteChanges records).page = engine.page := by
  unfold noteChanges
  simp only []
  split
  · exact ⟨rfl, rfl⟩
  · split <;> exact ⟨rfl, rfl⟩

/-- A record of a change of the style attribute makes the delivery put the protected styles back. -/
theorem takeChanges_of_told (told : ⟨n, .attribute "style"⟩ ∈ engine.page.mutations)
    (found : Affected.find? n engine.affected = some a) (guarded : a.protection = some p)
    (works : p.connected = true) :
    Affected.find? n engine.takeChanges.affected = some { a with protection := some p.next } ∧
      engine.takeChanges.page.tree.element? n =
        (p.styles.foldl (·.applyStyle n) engine.page).tree.element? n := by
  have target : n ∈ ((engine.page.mutations.filter (·.isStyleChange)).map (·.target)).eraseDups :=
    List.mem_eraseDups.mpr (List.mem_map.mpr ⟨_, List.mem_filter.mpr ⟨told, rfl⟩, rfl⟩)
  obtain ⟨renewed, restored⟩ := @foldl_protectNode_of_mem _
    { engine with page := engine.page.takeMutations.1 } n a p _ (nodup_eraseDups _) target found guarded
    works
  unfold takeChanges
  simp only []
  rw [if_neg (by simpa [Page.takeMutations] using List.ne_nil_of_mem told), (noteChanges_fields _ _).1,
    (noteChanges_fields _ _).2]
  refine ⟨renewed, restored.trans ?_⟩
  have same : engine.page.takeMutations.1.tree.element? n = engine.page.tree.element? n := rfl
  exact Page.element?_applyStyles_congr same p.styles

/-! Events outside the engine. -/

/-- They leave the entries alone, and records of changes wait. -/
theorem afterAll_of_outside {events : List Event} (outside : ∀ event ∈ events, event.isOutside = true) :
    (engine.afterAll events).affected = engine.affected ∧
      engine.page.mutations ⊆ (engine.afterAll events).page.mutations := by
  induction events generalizing engine with
  | nil => exact ⟨rfl, List.Subset.refl _⟩
  | cons event rest ih =>
    obtain ⟨here, others⟩ := List.forall_mem_cons.mp outside
    obtain ⟨entries, waiting⟩ := @ih (engine.after event) others
    have first : (engine.after event).affected = engine.affected ∧
        engine.page.mutations ⊆ (engine.after event).page.mutations := by
      cases event with
      | script step =>
        obtain ⟨records, recorded, _⟩ := Page.told_script engine.page step
        refine ⟨rfl, ?_⟩
        show _ ⊆ (engine.page.script step).mutations
        rw [recorded.mutations]
        exact List.subset_append_left _ _
      | advance | useNativeText => exact ⟨rfl, List.Subset.refl _⟩
      | apply | pump | dispose => exact absurd here Bool.false_ne_true
    exact ⟨entries.trans first.1, List.Subset.trans first.2 waiting⟩

/-! Passes. -/

/-- Any entry of a node that is still under this protection has counted once more. -/
structure Renewed (n : NodeId) (p : Protection) (engine : Engine σ) : Prop where
  old : p.id < engine.nextProtection
  entry : ∀ b ∈ engine.affected, b.node = n → ∀ q, b.protection = some q → q.id = p.id → q = p.next

theorem Renewed.visit (renewed : engine.Renewed n p) (rule : Rule) (m : NodeId) :
    (engine.visit rule m).1.Renewed n p where
  old := (steady_visit engine rule m).nextProtection ▸ renewed.old
  entry := by
    have touched : ∀ b ∈ Affected.touch m rule (engine.page.styleText m) engine.affected,
        b.node = n → ∀ q, b.protection = some q → q.id = p.id → q = p.next :=
      Affected.forall_touch renewed.entry (fun _ _ q guarded => by simp at guarded)
        fun b holds => by simpa using holds
    rcases affected_visit engine rule m with recorded | ⟨_, marked⟩
    · rw [recorded]
      exact touched
    · rw [marked]
      exact Affected.forall_update touched fun b found => touched b (Affected.mem_of_find? found)

theorem Passing.renewed {later : Engine σ} {visits : List (Visit σ)}
    (passing : Passing engine visits later) (renewed : engine.Renewed n p) : later.Renewed n p := by
  induction passing with
  | done => exact renewed
  | noted entries _ ih => exact ih ⟨renewed.old, renewed.entry⟩
  | visited rule m _ ih => exact ih (renewed.visit rule m)

/-- New protections have new numbers. -/
theorem Renewed.settleAll (renewed : engine.Renewed n p) (selected : List NodeId) :
    (engine.settleAll selected).Renewed n p := by
  obtain ⟨old, entry⟩ := renewed
  unfold Engine.settleAll
  revert entry
  generalize engine.affected = entries
  intro entry
  induction entries with
  | nil => exact ⟨old, by simp⟩
  | cons b rest ih =>
    obtain ⟨here, others⟩ := List.forall_mem_cons.mp entry
    obtain ⟨later, known⟩ := ih others
    rw [List.foldr_cons, settle]
    split
    · exact ⟨later, known⟩
    · split
      · refine ⟨Nat.lt_succ_of_lt later, List.forall_mem_cons.mpr ⟨?_, known⟩⟩
        intro _ q new same
        obtain rfl := Option.some.inj new
        exact absurd same (Nat.ne_of_gt later)
      · exact ⟨later, List.forall_mem_cons.mpr ⟨here, known⟩⟩

theorem keptByPasses_renewed (n : NodeId) (p : Protection) :
    KeptByPasses fun engine : Engine σ => engine.Renewed n p where
  throttle := fun renewed _ => ⟨renewed.old, renewed.entry⟩
  awaitsReady := fun renewed _ => ⟨renewed.old, renewed.entry⟩
  log := fun renewed _ => ⟨renewed.old, renewed.entry⟩
  pass := fun renewed =>
    pass_induction (fun passing => passing.renewed ⟨renewed.old, renewed.entry⟩)
      (fun renewed => renewed.settleAll _)
      fun ended renewed => ⟨ended.nextProtection ▸ renewed.old, ended.affected ▸ renewed.entry⟩

/-- When a script changes the style of an element whose protection works, the next delivery of changes writes
the protected styles again and counts that, whatever happens outside the engine before it. The count stays
with the protection in the passes that the delivery runs. -/
theorem protection_restores {page : Page} {configuration : Configuration σ} {hookState : σ}
    (reach : Reachable page configuration hookState engine) (affected : a ∈ engine.affected)
    (guarded : a.protection = some p) (works : p.connected = true) {step : Page.ScriptStep}
    (changed : (engine.page.script step).tree.attribute? a.node "style" ≠
      engine.page.tree.attribute? a.node "style")
    {events : List Event} (outside : ∀ event ∈ events, event.isOutside = true) :
    Affected.find? a.node (engine.afterAll (.script step :: events)).takeChanges.affected =
        some { a with protection := some p.next } ∧
      (engine.afterAll (.script step :: events)).takeChanges.page.tree.element? a.node =
        (p.styles.foldl (·.applyStyle a.node)
          (engine.afterAll (.script step :: events)).page).tree.element? a.node ∧
      ∀ b ∈ (engine.afterAll (.script step :: events)).pump.1.affected, b.node = a.node →
        ∀ q, b.protection = some q → q.id = p.id → q = p.next := by
  have sound := kept_affectedSound.reachable affectedSound_ofPage reach
  have laterSound :=
    kept_affectedSound.reachable affectedSound_ofPage (reach.afterAll (.script step :: events))
  have takenSound := kept_affectedSound.takeChanges laterSound
  have inside := PageTree.contains_of_isElement (reach.affectedElements a.node (List.mem_map_of_mem affected))
  -- The style attribute is not what it was, so the step has left a record, which waits for the delivery.
  obtain ⟨records, recorded, _⟩ := Page.told_script engine.page step
  obtain ⟨same, waiting⟩ := @afterAll_of_outside σ (engine.after (.script step)) events outside
  have told : ⟨a.node, .attribute "style"⟩ ∈ (engine.afterAll (.script step :: events)).page.mutations := by
    refine waiting ?_
    show _ ∈ (engine.page.script step).mutations
    rw [recorded.mutations]
    exact List.mem_append_right _ ((recorded.style a.node inside).resolve_left changed)
  have found : Affected.find? a.node (engine.afterAll (.script step :: events)).affected = some a := by
    refine Eq.trans ?_ (Affected.find?_of_mem sound.nodes_nodup affected)
    exact congrArg (Affected.find? a.node) same
  obtain ⟨renewed, restored⟩ := takeChanges_of_told told found guarded works
  refine ⟨renewed, restored, ?_⟩
  -- A pass in the delivery may protect the element anew, but then under a number that is not in use.
  have number := takenSound.ids_lt p.id
    (List.mem_filterMap.mpr ⟨_, Affected.mem_of_find? renewed, rfl⟩)
  refine ((keptByPasses_renewed a.node p).pump_of_takeChanges ⟨number, ?_⟩).entry
  intro b member node q is _
  have known := Affected.find?_of_mem takenSound.nodes_nodup member
  rw [node, renewed] at known
  obtain rfl := Option.some.inj known
  exact (Option.some.inj is).symm

/-- A run in which a banner is hidden at first. -/
def bannerHidden (events : List Event) : Engine Unit :=
  ranOn "<div class=banner></div>" { rules := some [".banner { display: none }"] } (.apply :: events)

/-- A script shows the banner. -/
def showBanner : Event := .script (.setStyleText ⟨1⟩ "display: block")

/-- The entry of the hidden banner. -/
def hiddenBanner : Affected := (bannerHidden []).affected.headD default

def bannerProtection : Protection := hiddenBanner.protection.getD default

theorem protection_restores_bannerHidden :
    hiddenBanner ∈ (bannerHidden []).affected ∧ hiddenBanner.protection = some bannerProtection ∧
      bannerProtection.connected = true ∧
      Affected.find? hiddenBanner.node (bannerHidden [showBanner, .advance 5]).takeChanges.affected =
        some { hiddenBanner with protection := some bannerProtection.next } ∧
      (bannerHidden [showBanner, .advance 5]).takeChanges.page.styleText ⟨1⟩ =
        "display: none !important;" := by
  have reach : Reachable _ _ () (bannerHidden []) := (reachable_started (by decide +kernel)).afterAll [.apply]
  have affected : hiddenBanner ∈ (bannerHidden []).affected := by decide +kernel
  have guarded : hiddenBanner.protection = some bannerProtection := by decide +kernel
  have works : bannerProtection.connected = true := by decide +kernel
  have changed : ((bannerHidden []).page.script (.setStyleText ⟨1⟩ "display: block")).tree.attribute?
      hiddenBanner.node "style" ≠ (bannerHidden []).page.tree.attribute? hiddenBanner.node "style" := by
    decide +kernel
  have outside : ∀ event ∈ [Event.advance 5], event.isOutside = true := by decide
  obtain ⟨renewed, _, _⟩ := protection_restores reach affected guarded works changed outside
  exact ⟨affected, guarded, works, renewed, by decide +kernel⟩

/-- A pass between the change and the delivery drops the record of the change with those of its own: the
banner stays visible under a protection that has not counted. -/
theorem protection_lost :
    hiddenBanner ∈ (bannerHidden []).affected ∧ hiddenBanner.isProtected = true ∧
      (bannerHidden [showBanner]).apply.2 = .ok () ∧
      (bannerHidden [showBanner, .apply]).pump.2 = .ok 0 ∧
      hiddenBanner ∈ (bannerHidden [showBanner, .apply, .pump]).affected ∧
      (bannerHidden [showBanner, .apply, .pump]).page.styleText ⟨1⟩ = "display: block" := by
  decide +kernel

end Engine

end CosmeticRules
