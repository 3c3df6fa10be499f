import CosmeticRules.Proofs.Engine.Protecting
import CosmeticRules.Proofs.Engine.Watching

/-!
The passes of a run, each with the engine as it begins. Whatever a pass does, it leaves the clock and the passes
that are still to come alone, it keeps protections with their counts, and it gives new ones numbers that have not
been in use.
-/

namespace CosmeticRules

namespace Engine

variable {σ : Type}

/-- What all the work of an engine keeps: writing a style, taking an element out, taking the records of
changes, and noting down anything that is no request for a pass. -/
structure KeptByWork (P : Engine σ → Prop) : Prop where
  written : ∀ {engine}, P engine → ∀ n text, P { engine with page := engine.page.writeStyle n text }
  removed : ∀ {engine}, P engine → ∀ n, P { engine with page := (engine.page.removeElement n).1 }
  taken : ∀ {engine}, P engine → P { engine with page := engine.page.takeMutations.1 }
  noted : ∀ {engine}, P engine →
    ∀ rules hookState affected removals observedSince timingsReported nextProtection log,
      P { engine with
          rules, hookState, affected, removals, observedSince, timingsReported, nextProtection, log }

namespace KeptByWork

variable {P : Engine σ → Prop} (kept : KeptByWork P)

include kept

theorem write {engine : Engine σ} (holds : P engine) (entries : List LogEntry) : P (engine.write entries) :=
  kept.noted holds _ _ _ _ _ _ _ _

theorem applyStyle {engine : Engine σ} (holds : P engine) (n : NodeId) (style : Style) :
    P { engine with page := engine.page.applyStyle n style } :=
  Page.applyStyle_induction (P := fun page => P { engine with page })
    (fun holds text => kept.written holds n text) holds style

theorem applyStyles {engine : Engine σ} (holds : P engine) (n : NodeId) (styles : List Style) :
    P { engine with page := styles.foldl (·.applyStyle n) engine.page } :=
  Page.applyStyles_induction (P := fun page => P { engine with page })
    (fun holds text => kept.written holds n text) holds styles

theorem removeAffected {engine : Engine σ} (holds : P engine) (n : NodeId) : P (engine.removeAffected n) := by
  unfold Engine.removeAffected
  simp only []
  split
  · exact kept.noted holds _ _ _ _ _ _ _ _
  · split
    · exact kept.noted (kept.removed holds n) _ _ _ _ _ _ _ _
    · exact kept.noted holds _ _ _ _ _ _ _ _

theorem applyRules {engine : Engine σ} (holds : P engine) (n target : NodeId) (rules : List Rule) :
    P (engine.applyRules n target rules).1 := by
  induction rules generalizing engine with
  | nil => exact holds
  | cons rule rest ih =>
    unfold Engine.applyRules
    split
    · rename_i style _
      split
      · exact kept.removeAffected holds n
      · exact ih (kept.applyStyle holds target style)
    · split
      · exact holds
      · exact ih holds

theorem visit {engine : Engine σ} (holds : P engine) (rule : Rule) (n : NodeId) :
    P (engine.visit rule n).1 := by
  have recorded : P (engine.recorded rule n) := kept.noted holds _ _ _ _ _ _ _ _
  show P ((engine.recorded rule n).styleAffected n).1
  unfold styleAffected
  split
  · exact recorded
  · rename_i a _
    split
    · exact recorded
    · obtain ⟨hookState, called⟩ := callHook_fields (engine.recorded rule n) ⟨n, a.rules⟩
      split <;> rename_i same <;> rw [same] at called <;> obtain rfl := called
      · exact kept.noted recorded _ _ _ _ _ _ _ _
      · exact kept.applyRules (kept.noted recorded _ _ _ _ _ _ _ _) n _ _

theorem passing {engine later : Engine σ} {visits : List (Visit σ)} (passing : Passing engine visits later)
    (holds : P engine) : P later := by
  induction passing with
  | done => exact holds
  | noted entries _ ih => exact ih (kept.write holds entries)
  | visited rule n _ ih => exact ih (kept.visit holds rule n)

theorem settleAll {engine : Engine σ} (holds : P engine) (selected : List NodeId) :
    P (engine.settleAll selected) := by
  unfold Engine.settleAll
  generalize engine.affected = entries
  induction entries with
  | nil => exact kept.noted holds _ _ _ _ _ _ _ _
  | cons a rest ih =>
    rw [List.foldr_cons, settle]
    split
    · exact kept.written ih a.node a.initialStyle
    · split
      · exact kept.noted ih _ _ _ _ _ _ _ _
      · exact kept.noted ih _ _ _ _ _ _ _ _

theorem pass {engine : Engine σ} (holds : P engine) : P engine.pass.1 := by
  have begun : P engine.stopObserving := kept.noted holds _ _ _ _ _ _ _ _
  cases ran : engine.pass with
  | mk done result =>
    cases result with
    | error e =>
      obtain ⟨later, passing, rfl⟩ := pass_eq_of_error ran
      exact kept.noted (kept.passing passing begun) _ _ _ _ _ _ _ _
    | ok =>
      obtain ⟨later, passing, _, rfl⟩ := pass_eq_of_ok ran
      have applied : P { later with rules := (engine.stopObserving.applyEach engine.rules).2.1 } :=
        kept.noted (kept.passing passing begun) _ _ _ _ _ _ _ _
      have settled := kept.taken (kept.settleAll applied (engine.visits.map (·.node)))
      unfold reportTimings
      split <;> exact kept.noted settled _ _ _ _ _ _ _ _

theorem protectNode {engine : Engine σ} (holds : P engine) (n : NodeId) : P (engine.protectNode n) := by
  unfold Engine.protectNode
  split
  · exact holds
  · rename_i p _
    split
    · exact holds
    · exact kept.noted (kept.applyStyles holds n p.styles) _ _ _ _ _ _ _ _

theorem protectStyles {engine : Engine σ} (holds : P engine) (records : List Mutation) :
    P (engine.protectStyles records) := by
  unfold Engine.protectStyles
  generalize ((records.filter (·.isStyleChange)).map (·.target)).eraseDups = targets
  induction targets generalizing engine with
  | nil => exact holds
  | cons n rest ih => exact ih (kept.protectNode holds n)

theorem revertAll {engine : Engine σ} (holds : P engine) (entries : List Affected) :
    P { engine with page := entries.foldl revert engine.page } := by
  induction entries generalizing engine with
  | nil => exact holds
  | cons a rest ih => exact ih (kept.written holds a.node a.initialStyle)

end KeptByWork

/-! The schedule: the clock, and the passes that are to come. -/

structure SameSchedule (engine later : Engine σ) : Prop where
  now : later.page.now = engine.page.now
  ready : later.page.ready = engine.page.ready
  throttle : later.throttle = engine.throttle
  awaitsReady : later.awaitsReady = engine.awaitsReady

theorem SameSchedule.refl (engine : Engine σ) : SameSchedule engine engine := ⟨rfl, rfl, rfl, rfl⟩

theorem keptByWork_sameSchedule (engine : Engine σ) : KeptByWork (SameSchedule engine) where
  written := by
    intro later same n text
    obtain ⟨now, ready, throttle, awaitsReady⟩ := same
    unfold Page.writeStyle
    split <;> exact ⟨now, ready, throttle, awaitsReady⟩
  removed := by
    intro later same n
    obtain ⟨now, ready, throttle, awaitsReady⟩ := same
    unfold Page.removeElement
    split <;> exact ⟨now, ready, throttle, awaitsReady⟩
  taken := fun same => ⟨same.now, same.ready, same.throttle, same.awaitsReady⟩
  noted := fun same _ _ _ _ _ _ _ _ => ⟨same.now, same.ready, same.throttle, same.awaitsReady⟩

theorem sameSchedule_pass (engine : Engine σ) : SameSchedule engine engine.pass.1 :=
  (keptByWork_sameSchedule engine).pass (.refl engine)

theorem isReady_pass (engine : Engine σ) : engine.pass.1.isReady = engine.isReady := by
  have same := sameSchedule_pass engine
  rw [isReady, isReady, same.awaitsReady, same.ready]

/-- An engine does not move the clock, and does not make the page ready. -/
theorem keptByEngine_clock (now : Nat) (ready : Bool) :
    KeptByEngine fun engine : Engine σ => engine.page.now = now ∧ engine.page.ready = ready where
  throttle := fun holds _ => holds
  awaitsReady := fun holds _ => holds
  log := fun holds _ => holds
  taken := fun holds => holds
  pass := by
    intro engine holds
    have same := sameSchedule_pass engine
    exact ⟨same.now.trans holds.1, same.ready.trans holds.2⟩
  protectNode := by
    intro engine holds n
    have same := (keptByWork_sameSchedule engine).protectNode (.refl engine) n
    exact ⟨same.now.trans holds.1, same.ready.trans holds.2⟩
  dispose := by
    intro engine holds
    have same := (keptByWork_sameSchedule engine).revertAll (.refl engine) engine.affected
    exact ⟨same.now.trans holds.1, same.ready.trans holds.2⟩

/-! Protections. -/

/-- Every protection is an old one that has counted nothing more, or is new and has counted nothing yet. -/
structure KeepsProtections (engine later : Engine σ) : Prop where
  next_le : engine.nextProtection ≤ later.nextProtection
  entry : ∀ b ∈ later.affected, ∀ q, b.protection = some q →
    (∃ a ∈ engine.affected, a.node = b.node ∧ a.protection = some q) ∨
      engine.nextProtection ≤ q.id ∧ q.count = 0

namespace KeepsProtections

variable {engine between later : Engine σ}

theorem refl (engine : Engine σ) : KeepsProtections engine engine :=
  ⟨Nat.le_refl _, fun b member _ guarded => Or.inl ⟨b, member, rfl, guarded⟩⟩

theorem trans (first : KeepsProtections engine between) (second : KeepsProtections between later) :
    KeepsProtections engine later where
  next_le := first.next_le.trans second.next_le
  entry := by
    intro c member q guarded
    rcases second.entry c member q guarded with ⟨b, old, node, same⟩ | ⟨fresh, none⟩
    · rw [← node]
      exact first.entry b old q same
    · exact Or.inr ⟨first.next_le.trans fresh, none⟩

theorem visit (keeps : KeepsProtections engine later) (rule : Rule) (n : NodeId) :
    KeepsProtections engine (later.visit rule n).1 where
  next_le := (steady_visit later rule n).nextProtection ▸ keeps.next_le
  entry := by
    have touched : ∀ b ∈ Affected.touch n rule (later.page.styleText n) later.affected,
        ∀ q, b.protection = some q →
          (∃ a ∈ engine.affected, a.node = b.node ∧ a.protection = some q) ∨
            engine.nextProtection ≤ q.id ∧ q.count = 0 :=
      Affected.forall_touch keeps.entry (fun _ q guarded => by simp at guarded)
        fun b holds => by simpa using holds
    rcases affected_visit later rule n with recorded | ⟨_, marked⟩
    · rw [recorded]
      exact touched
    · rw [marked]
      exact Affected.forall_update touched fun b found => touched b (Affected.mem_of_find? found)

theorem passing {visits : List (Visit σ)} (passing : Passing between visits later)
    (keeps : KeepsProtections engine between) : KeepsProtections engine later := by
  induction passing with
  | done => exact keeps
  | noted entries _ ih => exact ih ⟨keeps.next_le, keeps.entry⟩
  | visited rule n _ ih => exact ih (keeps.visit rule n)

theorem settleAll (keeps : KeepsProtections engine later) (selected : List NodeId) :
    KeepsProtections engine (later.settleAll selected) := by
  obtain ⟨next_le, entry⟩ := keeps
  unfold Engine.settleAll
  revert entry
  generalize later.affected = entries
  intro entry
  induction entries with
  | nil => exact ⟨next_le, by simp⟩
  | cons b rest ih =>
    obtain ⟨here, others⟩ := List.forall_mem_cons.mp entry
    obtain ⟨bound, known⟩ := ih others
    rw [List.foldr_cons, settle]
    split
    · exact ⟨bound, known⟩
    · split
      · refine ⟨Nat.le_succ_of_le bound, List.forall_mem_cons.mpr ⟨?_, known⟩⟩
        intro q new
        obtain rfl := Option.some.inj new
        exact Or.inr ⟨bound, rfl⟩
      · exact ⟨bound, List.forall_mem_cons.mpr ⟨here, known⟩⟩

end KeepsProtections

theorem keptByPasses_keepsProtections (engine : Engine σ) : KeptByPasses (KeepsProtections engine) where
  throttle := fun keeps _ => ⟨keeps.next_le, keeps.entry⟩
  awaitsReady := fun keeps _ => ⟨keeps.next_le, keeps.entry⟩
  log := fun keeps _ => ⟨keeps.next_le, keeps.entry⟩
  pass := fun keeps =>
    pass_induction (fun passing => .passing passing ⟨keeps.next_le, keeps.entry⟩)
      (fun keeps => keeps.settleAll _)
      fun ended keeps => ⟨ended.nextProtection ▸ keeps.next_le, ended.affected ▸ keeps.entry⟩

/-! The passes of a run. -/

/-- Why a pass runs. -/
inductive Cause
  | applied
  | requested
  | awaited
  deriving DecidableEq

/-- A pass that begins: why it runs, and the engine as it begins. -/
structure PassStart (σ : Type) where
  cause : Cause
  engine : Engine σ

/-- Whether the pass succeeds. -/
def PassStart.Succeeds (start : PassStart σ) : Prop := start.engine.pass.2 = .ok ()

instance (start : PassStart σ) : Decidable start.Succeeds :=
  inferInstanceAs (Decidable (start.engine.pass.2 = .ok ()))

/-- The requested pass, if it is due. -/
def duePass (engine : Engine σ) : Option (PassStart σ) :=
  if engine.isDue then some ⟨.requested, engine.startDue⟩ else none

/-- The pass that waits for the page, if it can run. -/
def readyPass (engine : Engine σ) : Option (PassStart σ) :=
  if engine.isReady then some ⟨.awaited, engine.startReady⟩ else none

/-- The pass that waits for the page has its turn when the requested one has run and has not failed. -/
def passAfter : Engine σ × Except EngineError Nat → Option (PassStart σ)
  | (later, .ok _) => later.readyPass
  | (_, .error _) => none

/-- The passes that a delivery of changes runs. -/
def deliveredPasses (engine : Engine σ) : List (PassStart σ) :=
  engine.takeChanges.duePass.toList ++ (passAfter engine.takeChanges.runDue).toList

/-- The passes that run in an event. -/
def passesIn (engine : Engine σ) : Event → List (PassStart σ)
  | .apply => [⟨.applied, engine⟩]
  | .pump => engine.deliveredPasses
  | .script _ | .advance _ | .useNativeText | .dispose => []

/-- The passes that run in some events in turn. -/
def passes (engine : Engine σ) : List Event → List (PassStart σ)
  | [] => []
  | event :: rest => engine.passesIn event ++ (engine.after event).passes rest

theorem passes_append (engine : Engine σ) (events more : List Event) :
    engine.passes (events ++ more) = engine.passes events ++ (engine.afterAll events).passes more := by
  induction events generalizing engine with
  | nil => rfl
  | cons event rest ih =>
    show engine.passesIn event ++ (engine.after event).passes (rest ++ more) = _
    rw [ih, ← List.append_assoc]
    rfl

theorem isDue_iff {engine : Engine σ} :
    engine.isDue = true ↔ ∃ due, engine.throttle.due = some due ∧ due ≤ engine.page.now := by
  rw [isDue, Throttle.isDue]
  cases engine.throttle.due <;> simp

theorem duePass_eq_some {engine : Engine σ} {start : PassStart σ} :
    engine.duePass = some start ↔ engine.isDue = true ∧ ⟨.requested, engine.startDue⟩ = start := by
  simp [duePass]

theorem readyPass_eq_some {engine : Engine σ} {start : PassStart σ} :
    engine.readyPass = some start ↔ engine.isReady = true ∧ ⟨.awaited, engine.startReady⟩ = start := by
  simp [readyPass]

theorem PassBegins.of_mem {page : Page} {configuration : Configuration σ} {hookState : σ} {engine : Engine σ}
    (reach : Reachable page configuration hookState engine) {event : Event} {start : PassStart σ}
    (member : start ∈ engine.passesIn event) : PassBegins page configuration hookState start.engine := by
  cases event with
  | script | advance | useNativeText | dispose => exact absurd member List.not_mem_nil
  | apply =>
    obtain rfl := List.mem_singleton.mp member
    exact .applied reach
  | pump =>
    rcases List.mem_append.mp member with first | second
    · obtain ⟨due, rfl⟩ := duePass_eq_some.mp (Option.mem_toList.mp first)
      exact .requested reach due
    · cases ran : engine.takeChanges.runDue with
      | mk later result =>
        rw [ran] at second
        cases result with
        | error e => exact absurd second List.not_mem_nil
        | ok count =>
          obtain ⟨ready, rfl⟩ := readyPass_eq_some.mp (Option.mem_toList.mp second)
          exact .awaited reach ran ready

/-! A delivery runs at most two passes, both in the same way. -/

/-- Runs a pass if there is one, and tells how many ran. -/
def runPass (engine : Engine σ) : Option (PassStart σ) → Engine σ × Except EngineError Nat
  | none => (engine, .ok 0)
  | some start => (start.engine.pass.1, start.engine.pass.2.map fun _ => 1)

theorem runDue_eq (engine : Engine σ) : engine.runDue = engine.runPass engine.duePass := by
  unfold runDue duePass
  split
  · show _ = (engine.startDue.pass.1, engine.startDue.pass.2.map fun _ => 1)
    split <;> rename_i ran <;> rw [ran] <;> rfl
  · rfl

theorem runReady_eq (engine : Engine σ) : engine.runReady = engine.runPass engine.readyPass := by
  unfold runReady readyPass
  split
  · show _ = (engine.startReady.pass.1, engine.startReady.pass.2.map fun _ => 1)
    split <;> rename_i ran <;> rw [ran] <;> rfl
  · rfl

/-- Passes that run one after another in a delivery of changes. -/
inductive Running : Engine σ → List (PassStart σ) → Engine σ → Prop
  | done {engine} : Running engine [] engine
  | started {engine start starts later}
      (begins : engine.duePass = some start ∨ engine.readyPass = some start)
      (rest : Running start.engine.pass.1 starts later) : Running engine (start :: starts) later

theorem Running.trans {engine between later : Engine σ} {starts more : List (PassStart σ)}
    (first : Running engine starts between) (second : Running between more later) :
    Running engine (starts ++ more) later := by
  induction first with
  | done => exact second
  | started begins _ ih => exact .started begins (ih second)

theorem running_runPass {engine : Engine σ} {next : Option (PassStart σ)}
    (begins : ∀ start, next = some start → engine.duePass = some start ∨ engine.readyPass = some start) :
    Running engine next.toList (engine.runPass next).1 := by
  cases next with
  | none => exact .done
  | some start => exact .started (begins start rfl) .done

/-- A delivery of changes runs its passes from the state in which the changes have been taken. -/
theorem running_pump (engine : Engine σ) :
    Running engine.takeChanges (engine.passesIn .pump) engine.pump.1 := by
  have first : Running engine.takeChanges engine.takeChanges.duePass.toList engine.takeChanges.runDue.1 := by
    rw [runDue_eq]
    exact running_runPass fun _ => Or.inl
  show Running engine.takeChanges engine.deliveredPasses engine.pump.1
  unfold deliveredPasses pump
  cases ran : engine.takeChanges.runDue with
  | mk later result =>
    rw [ran] at first
    cases result with
    | error e => exact first.trans .done
    | ok count =>
      have second : Running later later.readyPass.toList later.runReady.1 := by
        rw [runReady_eq]
        exact running_runPass fun _ => Or.inr
      simp only []
      split <;> rename_i next <;> rw [next] at second <;> exact first.trans second

/-! A delivery succeeds if its passes do, and tells how many they are. -/

theorem runPass_ok_iff {engine : Engine σ} {next : Option (PassStart σ)} {count : Nat} :
    (engine.runPass next).2 = .ok count ↔
      (∀ start ∈ next.toList, start.Succeeds) ∧ next.toList.length = count := by
  cases next with
  | none => simp [runPass]
  | some start =>
    rw [Option.toList_some, List.forall_mem_singleton]
    show start.engine.pass.2.map _ = _ ↔ start.engine.pass.2 = .ok () ∧ _
    cases start.engine.pass.2 <;> simp [Except.map]

theorem pump_ok_iff {engine : Engine σ} {count : Nat} :
    engine.pump.2 = .ok count ↔
      (∀ start ∈ engine.passesIn .pump, start.Succeeds) ∧ (engine.passesIn .pump).length = count := by
  have due := @runPass_ok_iff σ engine.takeChanges engine.takeChanges.duePass
  rw [← runDue_eq] at due
  show _ ↔ (∀ start ∈ engine.deliveredPasses, _) ∧ engine.deliveredPasses.length = _
  unfold deliveredPasses pump
  cases ran : engine.takeChanges.runDue with
  | mk later result =>
    rw [ran] at due
    rw [List.forall_mem_append, List.length_append]
    cases result with
    | error e =>
      have failed : ¬∀ start ∈ engine.takeChanges.duePass.toList, start.Succeeds := fun succeed =>
        absurd (due.mpr ⟨succeed, rfl⟩) (by simp)
      simp only [failed, false_and, reduceCtorEq]
    | ok first =>
      obtain ⟨succeed, rfl⟩ := due.mp rfl
      have ready := @runPass_ok_iff σ later later.readyPass
      rw [← runReady_eq] at ready
      simp only []
      split <;> rename_i next <;> rw [next] at ready
      · have failed : ¬∀ start ∈ later.readyPass.toList, start.Succeeds := fun succeed =>
          absurd (ready.mpr ⟨succeed, rfl⟩) (by simp)
        simp only [passAfter, failed, and_false, false_and, reduceCtorEq]
      · obtain ⟨more, rfl⟩ := ready.mp rfl
        simp only [Except.ok.injEq]
        exact ⟨fun same => ⟨⟨succeed, more⟩, same⟩, fun same => same.2⟩

end Engine

end CosmeticRules
