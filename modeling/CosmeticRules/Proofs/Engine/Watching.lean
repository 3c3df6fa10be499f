import CosmeticRules.Proofs.Engine.RulesInForce

/-!
From a pass that succeeds on, as long as no pass fails, an engine watches its page: a change that may alter
which elements are selected starts a pass when it is delivered, or leaves one pending.
-/

namespace CosmeticRules

namespace Page

/-- The same time and the same last input. -/
structure SameClock (page later : Page) : Prop where
  now : later.now = page.now
  lastInput : later.lastInput = page.lastInput

theorem SameClock.trans {page between later : Page} (first : SameClock page between)
    (second : SameClock between later) : SameClock page later :=
  ⟨second.now.trans first.now, second.lastInput.trans first.lastInput⟩

theorem sameClock_writeStyle (page : Page) (n : NodeId) (text : String) :
    SameClock page (page.writeStyle n text) := by
  unfold writeStyle
  split <;> exact ⟨rfl, rfl⟩

theorem sameClock_applyStyles (page : Page) (n : NodeId) (styles : List Style) :
    SameClock page (styles.foldl (·.applyStyle n) page) :=
  applyStyles_induction (fun same text => same.trans (sameClock_writeStyle _ n text)) ⟨rfl, rfl⟩ styles

end Page

namespace Engine

variable {σ : Type} {engine : Engine σ}

/-! The delivery of changes. -/

/-- What decides whether changes are noted. -/
structure SameWatch (engine later : Engine σ) : Prop where
  observedSince : later.observedSince = engine.observedSince
  clock : Page.SameClock engine.page later.page

theorem SameWatch.trans {between later : Engine σ} (first : SameWatch engine between)
    (second : SameWatch between later) : SameWatch engine later :=
  ⟨second.observedSince.trans first.observedSince, first.clock.trans second.clock⟩

theorem sameWatch_protectNode (engine : Engine σ) (n : NodeId) :
    SameWatch engine (engine.protectNode n) := by
  unfold protectNode
  split
  · exact ⟨rfl, rfl, rfl⟩
  · rename_i p _
    split
    · exact ⟨rfl, rfl, rfl⟩
    · exact ⟨rfl, engine.page.sameClock_applyStyles n p.styles⟩

theorem sameWatch_protectStyles (engine : Engine σ) (records : List Mutation) :
    SameWatch engine (engine.protectStyles records) := by
  unfold protectStyles
  generalize ((records.filter (·.isStyleChange)).map (·.target)).eraseDups = targets
  induction targets generalizing engine with
  | nil => exact ⟨rfl, rfl, rfl⟩
  | cons n rest ih => exact (sameWatch_protectNode engine n).trans (ih _)

theorem SameWatch.isHoverChange {later : Engine σ} (same : SameWatch engine later)
    (records : List Mutation) : later.isHoverChange records = engine.isHoverChange records := by
  rw [Engine.isHoverChange, Engine.isHoverChange, same.observedSince, same.clock.lastInput, same.clock.now]

theorem observedSince_noteChanges (engine : Engine σ) (records : List Mutation) :
    (engine.noteChanges records).observedSince = engine.observedSince := by
  unfold noteChanges
  simp only []
  split
  · rfl
  · split <;> rfl

theorem isObserving_takeChanges (engine : Engine σ) :
    engine.takeChanges.isObserving = engine.isObserving := by
  unfold takeChanges isObserving
  simp only []
  split
  · rfl
  · rw [observedSince_noteChanges]
    exact congrArg Option.isSome (sameWatch_protectStyles _ _).observedSince

theorem isSome_request (t : Throttle) (now : Nat) : (t.request now).due.isSome = true := by
  unfold Throttle.request
  split
  · rename_i same
    rw [same]
    rfl
  · rfl

/-- An observed change that is not due to a hover event leaves a pass pending. -/
theorem due_of_noteChanges {records : List Mutation} (observing : engine.isObserving = true)
    {record : Mutation} (member : record ∈ records) (observed : record.isObserved = true)
    (plain : engine.isHoverChange (records.filter (·.isObserved)) = false) :
    (engine.noteChanges records).throttle.due.isSome = true := by
  have some : (records.filter (·.isObserved)).isEmpty = false := by
    rw [List.isEmpty_eq_false_iff_exists_mem]
    exact ⟨record, List.mem_filter.mpr ⟨member, observed⟩⟩
  unfold noteChanges
  simp only [observing, some, plain, Bool.not_true, Bool.or_self, Bool.false_eq_true, if_false]
  exact isSome_request _ _

theorem due_of_takeChanges (observing : engine.isObserving = true) {record : Mutation}
    (waiting : record ∈ engine.page.mutations) (observed : record.isObserved = true)
    (plain : engine.isHoverChange (engine.page.mutations.filter (·.isObserved)) = false) :
    engine.takeChanges.throttle.due.isSome = true := by
  -- The hover rule is applied after protection has written styles, which changes nothing that it looks at.
  have taken : SameWatch engine { engine with page := engine.page.takeMutations.1 } := ⟨rfl, rfl, rfl⟩
  have put := taken.trans (sameWatch_protectStyles _ engine.page.mutations)
  have same : SameWatch engine ((({ engine with page := engine.page.takeMutations.1 } : Engine
      σ).protectStyles engine.page.mutations).dropOwnMutations) :=
    put.trans ⟨rfl, rfl, rfl⟩
  unfold takeChanges
  simp only []
  rw [if_neg (by simpa [Page.takeMutations] using List.ne_nil_of_mem waiting)]
  refine due_of_noteChanges ?_ waiting observed ((same.isHoverChange _).trans plain)
  exact (congrArg Option.isSome same.observedSince).trans observing

/-! Passes. -/

theorem throttle_settleAll (engine : Engine σ) (selected : List NodeId) :
    (engine.settleAll selected).throttle = engine.throttle := by
  unfold settleAll
  generalize engine.affected = entries
  induction entries with
  | nil => rfl
  | cons a rest ih =>
    rw [List.foldr_cons, settle]
    split
    · exact ih
    · split <;> exact ih

theorem throttle_pass (engine : Engine σ) : engine.pass.1.throttle = engine.throttle :=
  pass_induction (P := fun later => later.throttle = engine.throttle) (fun passing => passing.steady.throttle)
    (fun same => (throttle_settleAll _ _).trans same) fun ended same => ended.throttle.trans same

/-- A pass that succeeds ends with observation. -/
theorem isObserving_of_passed {done : Engine σ} (passed : engine.pass = (done, .ok ())) :
    done.isObserving = true := by
  obtain ⟨later, _, _, rfl⟩ := pass_eq_of_ok passed
  have observes : ∀ e : Engine σ, e.observe.isObserving = true := by
    intro e
    unfold observe isObserving
    cases e.observedSince <;> rfl
  unfold reportTimings
  split <;> exact observes _

theorem isObserving_apply (succeeds : engine.apply.2 = .ok ()) : engine.apply.1.isObserving = true := by
  obtain ⟨_, same⟩ := apply_eq engine
  rw [same] at succeeds ⊢
  have observing := isObserving_of_passed (Prod.ext rfl succeeds : engine.pass = (engine.pass.1, .ok ()))
  exact observing

/-- The requested pass is the only one that can run here. -/
theorem runDue_of_ok {later : Engine σ} {count : Nat} (ran : engine.runDue = (later, .ok count)) :
    count = 0 ∧ later = engine ∧ engine.isDue = false ∨
      later.isObserving = true ∧ engine.isDue = true ∧ count = 1 := by
  unfold runDue at ran
  split at ran
  · rename_i due
    split at ran
    · simp at ran
    · rename_i passed
      obtain ⟨rfl, same⟩ := Prod.mk.inj ran
      exact Or.inr ⟨isObserving_of_passed passed, due, (Except.ok.inj same).symm⟩
  · rename_i undue
    obtain ⟨rfl, same⟩ := Prod.mk.inj ran
    exact Or.inl ⟨(Except.ok.inj same).symm, rfl, by simpa using undue⟩

theorem runReady_of_ok {later : Engine σ} {count : Nat} (ran : engine.runReady = (later, .ok count)) :
    count = 0 ∧ later = engine ∨ later.isObserving = true := by
  unfold runReady at ran
  split at ran
  · split at ran
    · simp at ran
    · rename_i passed
      obtain ⟨rfl, _⟩ := Prod.mk.inj ran
      exact Or.inr (isObserving_of_passed passed)
  · obtain ⟨rfl, same⟩ := Prod.mk.inj ran
    exact Or.inl ⟨(Except.ok.inj same).symm, rfl⟩

theorem throttle_runReady (engine : Engine σ) : engine.runReady.1.throttle = engine.throttle := by
  have same := throttle_pass engine.startReady
  unfold runReady
  split
  · split <;> rename_i ran <;> rw [ran] at same <;> exact same
  · rfl

/-- A delivery that succeeds ends with observation if a pass ran in it or there was observation before. -/
theorem isObserving_pump {count : Nat} (succeeds : engine.pump.2 = .ok count)
    (before : count = 0 → engine.isObserving = true) : engine.pump.1.isObserving = true := by
  unfold pump at succeeds ⊢
  cases ran : engine.takeChanges.runDue with
  | mk later result =>
    cases result with
    | error e => simp [ran] at succeeds
    | ok due =>
      rw [ran] at succeeds
      cases next : later.runReady with
      | mk last result =>
        cases result with
        | error e => simp [next] at succeeds
        | ok ready =>
          simp only [next, Except.ok.injEq] at succeeds
          simp only [next]
          rcases runReady_of_ok next with ⟨rfl, rfl⟩ | observing
          · rcases runDue_of_ok ran with ⟨rfl, rfl, _⟩ | ⟨observing, _⟩
            · rw [isObserving_takeChanges]
              exact before succeeds.symm
            · exact observing
          · exact observing

/-- If no requested pass is due, then what is pending stays so through the delivery. -/
theorem throttle_pump (undue : engine.takeChanges.isDue = false) :
    engine.pump.1.throttle = engine.takeChanges.throttle := by
  have ran : engine.takeChanges.runDue = (engine.takeChanges, .ok 0) := by
    unfold runDue
    rw [undue]
    rfl
  have same := throttle_runReady engine.takeChanges
  unfold pump
  simp only [ran]
  split <;> rename_i next <;> rw [next] at same <;> exact same

theorem pump_ne_of_isDue (due : engine.takeChanges.isDue = true) : engine.pump.2 ≠ .ok 0 := by
  unfold pump
  cases ran : engine.takeChanges.runDue with
  | mk later result =>
    cases result with
    | error e => simp
    | ok count =>
      rcases runDue_of_ok ran with ⟨_, _, undue⟩ | ⟨_, _, rfl⟩
      · exact absurd (due.symm.trans undue) (by simp)
      · simp only []
        split <;> simp

/-- The states from a pass that succeeds on, until a pass fails or the engine is disposed. -/
inductive Watching : Engine σ → Prop
  | applied {engine : Engine σ} (succeeds : engine.apply.2 = .ok ()) : Watching engine.apply.1
  | passed {engine : Engine σ} {count : Nat} (succeeds : engine.pump.2 = .ok (count + 1)) :
      Watching engine.pump.1
  | outside {engine : Engine σ} (watching : Watching engine) (event : Event)
      (is : event.isOutside = true) : Watching (engine.after event)
  | delivered {engine : Engine σ} (watching : Watching engine) (succeeds : engine.pump.2 = .ok 0) :
      Watching engine.pump.1

theorem Watching.isObserving (watching : engine.Watching) : engine.isObserving = true := by
  induction watching with
  | applied succeeds => exact isObserving_apply succeeds
  | passed succeeds => exact isObserving_pump succeeds fun none => absurd none (Nat.succ_ne_zero _)
  | @outside engine _ event is ih =>
    cases event with
    | script | advance | useNativeText => exact ih
    | apply | pump | dispose => exact absurd is Bool.false_ne_true
  | delivered _ succeeds ih => exact isObserving_pump succeeds fun _ => ih

/-- While no pass fails, the delivery of a change that may alter which elements are selected runs a pass,
which may fail then, or leaves one pending, unless the change may be due to a hover event. -/
theorem changes_noticed (watching : engine.Watching) {record : Mutation}
    (waiting : record ∈ engine.page.mutations) (observed : record.isObserved = true)
    (plain : engine.isHoverChange (engine.page.mutations.filter (·.isObserved)) = false) :
    engine.pump.2 ≠ .ok 0 ∨ engine.pump.1.throttle.due.isSome = true := by
  have pending := due_of_takeChanges watching.isObserving waiting observed plain
  cases due : engine.takeChanges.isDue with
  | true => exact Or.inl (pump_ne_of_isDue due)
  | false => exact Or.inr (throttle_pump due ▸ pending)

/-- A run on a page with one paragraph to style, which has been styled at first; the hook gives nothing for
any other element. -/
def onlyFirst (events : List Event) : Engine Unit :=
  ranOn "<div><p class=a></p></div>"
    { rules := some [".a { color: red }"]
      hook := some fun _ target => (if target.node = ⟨2⟩ then some target else none, ()) }
    (.apply :: events)

/-- A script adds another paragraph to style. -/
def addParagraph : Event := .script (.appendHtml ⟨1⟩ "<p class=a></p>")

theorem changes_noticed_onlyFirst :
    (onlyFirst [addParagraph]).page.mutations = [⟨⟨1⟩, .childList⟩] ∧
      ((onlyFirst [addParagraph]).pump.2 ≠ .ok 0 ∨
        (onlyFirst [addParagraph]).pump.1.throttle.due.isSome = true) ∧
      (onlyFirst [addParagraph]).pump.2 = .error .hookGaveNothing := by
  have first : (ranOn "<div><p class=a></p></div>"
      { rules := some [".a { color: red }"]
        hook := some fun _ target => (if target.node = ⟨2⟩ then some target else none, ()) }
      []).apply.2 = .ok () := by decide +kernel
  have watching : (onlyFirst [addParagraph]).Watching :=
    .outside (.applied first) addParagraph rfl
  have waits : (onlyFirst [addParagraph]).page.mutations = [⟨⟨1⟩, .childList⟩] := by decide +kernel
  have member : (⟨⟨1⟩, .childList⟩ : Mutation) ∈ (onlyFirst [addParagraph]).page.mutations := by
    rw [waits]
    exact List.mem_cons_self
  exact ⟨waits, changes_noticed watching member rfl (by decide +kernel), by decide +kernel⟩

/-- A pass that fails leaves the page unobserved: the change that was to be noticed is taken, and nothing
comes of it. -/
theorem changes_unnoticed :
    (onlyFirst []).isObserving = true ∧
      (onlyFirst [addParagraph]).apply.2 = .error .hookGaveNothing ∧
      ⟨⟨1⟩, .childList⟩ ∈ (onlyFirst [addParagraph, .apply]).page.mutations ∧
      (onlyFirst [addParagraph, .apply]).page.lastInput = none ∧
      (onlyFirst [addParagraph, .apply]).pump.2 = .ok 0 ∧
      (onlyFirst [addParagraph, .apply, .pump]).page.mutations = [] ∧
      (onlyFirst [addParagraph, .apply, .pump]).throttle.due = none := by
  decide +kernel

end Engine

end CosmeticRules
