import CosmeticRules.Proofs.Engine.Passes

/-!
Elements that an engine takes out of the page. Each of them is taken out by a visit of a rule, and counted under
the path that it has then; so the counts are those of the run, and none goes over its limit.
-/

namespace CosmeticRules

theorem lookup_pair {α : Type} (key : String) (value : α) (rest : List (String × α)) (other : String) :
    ((key, value) :: rest).lookup other = if other = key then some value else rest.lookup other := by
  by_cases same : other = key
  · rw [List.lookup_cons, beq_iff_eq.mpr same, if_pos same]
  · rw [List.lookup_cons, beq_eq_false_iff_ne.mpr same, if_neg same]

theorem lookup_putPair {α : Type} (key : String) (value : α) (pairs : List (String × α)) (other : String) :
    (putPair key value pairs).lookup other = if other = key then some value else pairs.lookup other := by
  induction pairs with
  | nil => exact lookup_pair key value [] other
  | cons pair rest ih =>
    obtain ⟨k, v⟩ := pair
    rw [putPair, lookup_pair k]
    split
    · rename_i here
      rw [lookup_pair, here]
      split <;> rfl
    · rename_i here
      rw [lookup_pair, ih]
      by_cases same : other = key
      · rw [if_pos same, if_pos same, if_neg fun other => here (other.symm.trans same)]
      · rw [if_neg same, if_neg same]

namespace Engine

variable {σ : Type} {engine between later : Engine σ}

/-- The path of the element that a visit takes out of its parent, if it does. -/
def Visit.removedPath? (visit : Visit σ) : Option String :=
  if (visit.engine.page.tree.parent? visit.node).isSome &&
      ((visit.engine.visit visit.rule visit.node).1.page.tree.parent? visit.node).isNone then
    some (Page.elementPath visit.engine.page.tree visit.node)
  else none

/-- The paths of the elements that some visits take out, one for each time. -/
def removedIn (visits : List (Visit σ)) : List String := visits.filterMap (·.removedPath?)

/-- The paths of the elements that an engine takes out in some events, one for each time. -/
def removedPaths (engine : Engine σ) (events : List Event) : List String :=
  removedIn ((engine.passes events).flatMap (·.engine.visits))

/-- No node has another parent than before, and nothing has been counted. -/
structure Spares (engine later : Engine σ) : Prop where
  removals : later.removals = engine.removals
  parent? : ∀ m, later.page.tree.parent? m = engine.page.tree.parent? m

theorem Spares.refl (engine : Engine σ) : Spares engine engine := ⟨rfl, fun _ => rfl⟩

theorem Spares.trans (first : Spares engine between) (second : Spares between later) :
    Spares engine later :=
  ⟨second.removals.trans first.removals, fun m => (second.parent? m).trans (first.parent? m)⟩

/-- What a visit to a node may do: it leaves every parent, or takes the node out of its parent and counts
that under its path. -/
inductive Detaches (n : NodeId) (engine later : Engine σ) : Prop
  | spares (spares : Spares engine later)
  | takesOut (attached : (engine.page.tree.parent? n).isSome = true)
      (within : engine.removalCount (Page.elementPath engine.page.tree n) ≤ Protection.limit)
      (removals : later.removals = putPair (Page.elementPath engine.page.tree n)
        (engine.removalCount (Page.elementPath engine.page.tree n) + 1) engine.removals)
      (parent? : ∀ m, later.page.tree.parent? m = if m = n then none else engine.page.tree.parent? m)

/-- The path does not depend on what has been written to styles before. -/
theorem Detaches.of_sameShape {n : NodeId} (detaches : Detaches n between later)
    (same : PageTree.SameShape engine.page.tree between.page.tree)
    (removals : between.removals = engine.removals) : Detaches n engine later := by
  cases detaches with
  | spares spares => exact .spares (.trans ⟨removals, same.parent?⟩ spares)
  | takesOut attached within counted parent? =>
    have count : between.removalCount = engine.removalCount := by
      funext path
      rw [removalCount, removals, removalCount]
    rw [same.elementPath, count] at within counted
    rw [same.parent?] at attached
    rw [removals] at counted
    exact .takesOut attached within counted fun m => by rw [parent?, same.parent?]

theorem detaches_removeAffected (engine : Engine σ) (n : NodeId) :
    Detaches n engine (engine.removeAffected n) := by
  unfold removeAffected
  simp only []
  split
  · exact .spares ⟨rfl, fun _ => rfl⟩
  · rename_i within
    split
    · rename_i below
      refine .takesOut ?_ (Nat.not_lt.mp within) rfl (Page.parent?_removeElement engine.page n)
      cases parent : engine.page.tree.parent? n with
      | none => simp [PageTree.parentElement?, parent] at below
      | some _ => rfl
    · exact .spares ⟨rfl, fun _ => rfl⟩

theorem detaches_applyRules (engine : Engine σ) (n target : NodeId) (rules : List Rule) :
    Detaches n engine (engine.applyRules n target rules).1 := by
  induction rules generalizing engine with
  | nil => exact .spares (.refl engine)
  | cons rule rest ih =>
    unfold applyRules
    split
    · rename_i style _
      split
      · exact detaches_removeAffected engine n
      · have styled := ih { engine with page := engine.page.applyStyle target style }
        exact styled.of_sameShape (Page.sameShape_applyDeclarations style.declarations) rfl
    · split
      · exact .spares (.refl engine)
      · exact ih engine

theorem detaches_visit (engine : Engine σ) (rule : Rule) (n : NodeId) :
    Detaches n engine (engine.visit rule n).1 := by
  have recorded : Spares engine (engine.recorded rule n) := ⟨rfl, fun _ => rfl⟩
  show Detaches n engine ((engine.recorded rule n).styleAffected n).1
  unfold styleAffected
  split
  · exact .spares recorded
  · rename_i a _
    split
    · exact .spares recorded
    · obtain ⟨hookState, called⟩ := callHook_fields (engine.recorded rule n) ⟨n, a.rules⟩
      split <;> rename_i same <;> rw [same] at called <;> obtain rfl := called
      · exact .spares ⟨rfl, fun _ => rfl⟩
      · exact (detaches_applyRules _ n _ _).of_sameShape (.refl _) rfl

/-- What some visits take out of the page, and how it is counted. -/
structure Accounts (engine : Engine σ) (visits : List (Visit σ)) (later : Engine σ) : Prop where
  count : ∀ path, later.removalCount path = engine.removalCount path + (removedIn visits).count path
  limited : ∀ path, engine.removalCount path ≤ Protection.limit + 1 →
    later.removalCount path ≤ Protection.limit + 1
  lost : ∀ n, (engine.page.tree.parent? n).isSome = true → later.page.tree.parent? n = none →
    ∃ visit ∈ visits, visit.node = n ∧ visit.removedPath?.isSome = true

theorem Spares.accounts (spares : Spares engine later) : Accounts engine [] later where
  count := by
    intro path
    rw [removalCount, spares.removals]
    rfl
  limited := by
    intro path within
    rwa [removalCount, spares.removals]
  lost := by
    intro n attached gone
    rw [← spares.parent? n, gone] at attached
    simp at attached

theorem Accounts.trans {visits more : List (Visit σ)} (first : Accounts engine visits between)
    (second : Accounts between more later) : Accounts engine (visits ++ more) later where
  count := by
    intro path
    rw [second.count, first.count, removedIn, removedIn, removedIn, List.filterMap_append,
      List.count_append, Nat.add_assoc]
  limited := fun path within => second.limited path (first.limited path within)
  lost := by
    intro n attached gone
    cases parent : between.page.tree.parent? n with
    | none =>
      obtain ⟨visit, member, takes⟩ := first.lost n attached parent
      exact ⟨visit, List.mem_append_left _ member, takes⟩
    | some p =>
      obtain ⟨visit, member, takes⟩ := second.lost n (by rw [parent]; rfl) gone
      exact ⟨visit, List.mem_append_right _ member, takes⟩

theorem removedPath?_of_spares {visit : Visit σ}
    (spares : Spares visit.engine (visit.engine.visit visit.rule visit.node).1) :
    visit.removedPath? = none := by
  unfold Visit.removedPath?
  rw [spares.parent?]
  cases visit.engine.page.tree.parent? visit.node <;> rfl

theorem accounts_visit (engine : Engine σ) (rule : Rule) (n : NodeId) :
    Accounts engine [⟨engine, rule, n⟩] (engine.visit rule n).1 := by
  cases detaches_visit engine rule n with
  | spares spares =>
    have accounts := spares.accounts
    have nothing : removedIn [(⟨engine, rule, n⟩ : Visit σ)] = [] := by
      rw [removedIn, List.filterMap_cons, removedPath?_of_spares spares]
      rfl
    refine ⟨?_, accounts.limited, ?_⟩
    · rw [nothing]
      exact accounts.count
    · intro m attached gone
      obtain ⟨visit, member, _⟩ := accounts.lost m attached gone
      simp at member
  | takesOut attached within removals parent? =>
    have gone : (engine.visit rule n).1.page.tree.parent? n = none := by rw [parent?, if_pos rfl]
    have removed : (⟨engine, rule, n⟩ : Visit σ).removedPath? =
        some (Page.elementPath engine.page.tree n) := by
      unfold Visit.removedPath?
      rw [gone, attached]
      rfl
    have count : ∀ path, (engine.visit rule n).1.removalCount path =
        if path = Page.elementPath engine.page.tree n then
          engine.removalCount (Page.elementPath engine.page.tree n) + 1
        else engine.removalCount path := by
      intro path
      rw [removalCount, removals, lookup_putPair]
      split <;> rfl
    refine ⟨?_, ?_, ?_⟩
    · intro path
      rw [count, removedIn, List.filterMap_cons, removed]
      split
      · rename_i same
        rw [same]
        simp
      · rename_i other
        simp [Ne.symm other]
    · intro path below
      rw [count]
      split
      · exact Nat.succ_le_succ within
      · exact below
    · intro m here lost
      rw [parent?] at lost
      split at lost
      · rename_i same
        exact ⟨_, List.mem_singleton_self _, same.symm, by rw [removed]; rfl⟩
      · rw [lost] at here
        simp at here

theorem Passing.accounts {visits : List (Visit σ)} (passing : Passing engine visits later) :
    Accounts engine visits later := by
  induction passing with
  | done => exact (Spares.refl _).accounts
  | @noted engine _ _ entries _ ih =>
    have logged : Spares engine (engine.write entries) := ⟨rfl, fun _ => rfl⟩
    exact logged.accounts.trans ih
  | visited rule n _ ih => exact (accounts_visit _ rule n).trans ih

/-! Apart from visits nothing is taken out. -/

theorem spares_settleAll (engine : Engine σ) (selected : List NodeId) :
    Spares engine (engine.settleAll selected) := by
  unfold settleAll
  generalize engine.affected = entries
  induction entries with
  | nil => exact ⟨rfl, fun _ => rfl⟩
  | cons a rest ih =>
    rw [List.foldr_cons, settle]
    split
    · exact ih.trans ⟨rfl, (Page.sameShape_writeStyle _ a.node a.initialStyle).parent?⟩
    · split <;> exact ih.trans ⟨rfl, fun _ => rfl⟩

theorem sameShape_applyStyles (page : Page) (n : NodeId) (styles : List Style) :
    PageTree.SameShape page.tree (styles.foldl (·.applyStyle n) page).tree :=
  Page.applyStyles_induction (P := fun later => PageTree.SameShape page.tree later.tree)
    (fun same text => same.trans (Page.sameShape_writeStyle _ n text)) (.refl _) styles

theorem spares_protectStyles (engine : Engine σ) (records : List Mutation) :
    Spares engine (engine.protectStyles records) := by
  unfold protectStyles
  generalize ((records.filter (·.isStyleChange)).map (·.target)).eraseDups = targets
  induction targets generalizing engine with
  | nil => exact .refl engine
  | cons n rest ih =>
    have first : Spares engine (engine.protectNode n) := by
      unfold protectNode
      split
      · exact .refl engine
      · rename_i p _
        split
        · exact .refl engine
        · exact ⟨rfl, (sameShape_applyStyles engine.page n p.styles).parent?⟩
    exact first.trans (ih (engine.protectNode n))

theorem spares_takeChanges (engine : Engine σ) : Spares engine engine.takeChanges := by
  have taken : Spares engine { engine with page := engine.page.takeMutations.1 } := ⟨rfl, fun _ => rfl⟩
  unfold takeChanges
  simp only []
  split
  · exact taken
  · have put := taken.trans (spares_protectStyles _ engine.page.takeMutations.2)
    unfold noteChanges
    simp only []
    split
    · exact put.trans ⟨rfl, fun _ => rfl⟩
    · split <;> exact put.trans ⟨rfl, fun _ => rfl⟩

theorem spares_dispose (engine : Engine σ) : Spares engine engine.dispose := by
  have reverted : ∀ (entries : List Affected) (page : Page),
      PageTree.SameShape page.tree (entries.foldl revert page).tree := by
    intro entries
    induction entries with
    | nil => exact fun page => .refl _
    | cons a rest ih =>
      exact fun page => (Page.sameShape_writeStyle page a.node a.initialStyle).trans (ih _)
  exact ⟨rfl, (reverted engine.affected engine.page).parent?⟩

theorem accounts_pass (engine : Engine σ) : Accounts engine engine.visits engine.pass.1 := by
  have begun : Spares engine engine.stopObserving := ⟨rfl, fun _ => rfl⟩
  have ended : ∀ {later : Engine σ}, Passing engine.stopObserving engine.visits later →
      Spares later engine.pass.1 → Accounts engine engine.visits engine.pass.1 := by
    intro later passing spares
    have accounts := begun.accounts.trans (passing.accounts.trans spares.accounts)
    rwa [List.append_nil, List.nil_append] at accounts
  cases ran : engine.pass with
  | mk done result =>
    rw [ran] at ended
    cases result with
    | error e =>
      obtain ⟨later, passing, rfl⟩ := pass_eq_of_error ran
      exact ended passing ⟨rfl, fun _ => rfl⟩
    | ok =>
      obtain ⟨later, passing, _, rfl⟩ := pass_eq_of_ok ran
      refine ended passing ?_
      have applied : Spares later
          { later with rules := (engine.stopObserving.applyEach engine.rules).2.1 } := ⟨rfl, fun _ => rfl⟩
      refine (applied.trans (spares_settleAll _ (engine.visits.map (·.node)))).trans ?_
      unfold reportTimings
      split <;> exact ⟨rfl, fun _ => rfl⟩

theorem Running.accounts {starts : List (PassStart σ)} (running : Running engine starts later) :
    Accounts engine (starts.flatMap (·.engine.visits)) later := by
  induction running with
  | done => exact (Spares.refl _).accounts
  | @started engine start _ _ begins _ ih =>
    have begun : Spares engine start.engine := by
      rcases begins with first | second
      · obtain ⟨_, rfl⟩ := duePass_eq_some.mp first
        exact ⟨rfl, fun _ => rfl⟩
      · obtain ⟨_, rfl⟩ := readyPass_eq_some.mp second
        exact ⟨rfl, fun _ => rfl⟩
    exact begun.accounts.trans ((accounts_pass _).trans ih)

/-- What an event of the engine itself takes out is taken out by the visits of its passes. -/
theorem accounts_after {event : Event} (inside : event.isOutside = false) :
    Accounts engine ((engine.passesIn event).flatMap (·.engine.visits)) (engine.after event) := by
  cases event with
  | script | advance | useNativeText => exact absurd inside (by simp [Event.isOutside])
  | apply =>
    have done : Spares engine.pass.1 engine.apply.1 := by
      obtain ⟨_, same⟩ := apply_eq engine
      rw [same]
      exact ⟨rfl, fun _ => rfl⟩
    exact (accounts_pass engine).trans done.accounts
  | pump => exact (spares_takeChanges engine).accounts.trans (running_pump engine).accounts
  | dispose => exact (spares_dispose engine).accounts

/-- The counts are those of the run, whatever scripts do. -/
theorem removalCount_afterAll (engine : Engine σ) (events : List Event) (path : String) :
    (engine.afterAll events).removalCount path =
        engine.removalCount path + (removedPaths engine events).count path ∧
      (engine.removalCount path ≤ Protection.limit + 1 →
        (engine.afterAll events).removalCount path ≤ Protection.limit + 1) := by
  induction events generalizing engine with
  | nil => exact ⟨rfl, id⟩
  | cons event rest ih =>
    have here : (engine.after event).removalCount path = engine.removalCount path +
          (removedIn ((engine.passesIn event).flatMap (·.engine.visits))).count path ∧
        (engine.removalCount path ≤ Protection.limit + 1 →
          (engine.after event).removalCount path ≤ Protection.limit + 1) := by
      cases outside : event.isOutside with
      | true =>
        cases event with
        | script | advance | useNativeText => exact ⟨rfl, id⟩
        | apply | pump | dispose => exact absurd outside Bool.false_ne_true
      | false => exact ⟨(accounts_after outside).count path, (accounts_after outside).limited path⟩
    obtain ⟨count, limited⟩ := ih (engine.after event)
    refine ⟨?_, fun within => limited (here.2 within)⟩
    have split : removedPaths engine (event :: rest) =
        removedIn ((engine.passesIn event).flatMap (·.engine.visits)) ++
          removedPaths (engine.after event) rest := by
      rw [removedPaths, passes, List.flatMap_append, removedIn, List.filterMap_append]
      rfl
    rw [split, List.count_append, ← Nat.add_assoc, ← here.1]
    exact count

end Engine

end CosmeticRules
