import CosmeticRules.Proofs.Engine.Passes

/-!
An engine does not listen to itself. What it writes to the page leaves no record behind, so while nothing else
happens to the page only those passes run that were to run anyway, and then nothing happens any more.
-/

namespace CosmeticRules.Engine

variable {σ : Type} {engine later : Engine σ}

/-- Whether an event is time that passes or a delivery of changes. -/
def Event.isWaiting : Event → Bool
  | .advance _ | .pump => true
  | .script _ | .useNativeText | .apply | .dispose => false

/-! No record is left behind. -/

theorem quiet_of_passed {done : Engine σ} (passed : engine.pass = (done, .ok ())) :
    done.page.mutations = [] := by
  obtain ⟨later, _, _, rfl⟩ := pass_eq_of_ok passed
  unfold reportTimings
  split <;> rfl

theorem quiet_apply (succeeds : engine.apply.2 = .ok ()) : engine.apply.1.page.mutations = [] := by
  obtain ⟨_, same⟩ := apply_eq engine
  rw [same] at succeeds ⊢
  have quiet := quiet_of_passed (Prod.ext rfl succeeds : engine.pass = (engine.pass.1, .ok ()))
  exact quiet

/-- Those of the protected styles that a delivery puts back are dropped as well. -/
theorem quiet_takeChanges (engine : Engine σ) : engine.takeChanges.page.mutations = [] := by
  unfold takeChanges
  simp only []
  split
  · rfl
  · rw [(noteChanges_fields _ _).2]
    rfl

theorem Running.quiet {starts : List (PassStart σ)} (running : Running engine starts later)
    (succeed : ∀ start ∈ starts, start.Succeeds) (quiet : engine.page.mutations = []) :
    later.page.mutations = [] := by
  induction running with
  | done => exact quiet
  | started _ _ ih =>
    obtain ⟨first, others⟩ := List.forall_mem_cons.mp succeed
    exact ih others (quiet_of_passed (Prod.ext rfl first))

theorem quiet_pump (succeed : ∀ start ∈ engine.passesIn .pump, start.Succeeds) :
    engine.pump.1.page.mutations = [] :=
  (running_pump engine).quiet succeed (quiet_takeChanges engine)

theorem takeChanges_of_quiet (quiet : engine.page.mutations = []) : engine.takeChanges = engine := by
  have same : engine.page.takeMutations.1 = engine.page := by
    unfold Page.takeMutations
    rw [← quiet]
  unfold takeChanges
  simp only [same]
  rw [if_pos (by simp [Page.takeMutations, quiet])]

/-- Nothing is left to do. -/
theorem pump_of_quiet (quiet : engine.page.mutations = []) (due : engine.throttle.due = none)
    (unready : engine.isReady = false) : engine.pump = (engine, .ok 0) := by
  have noneDue : engine.runDue = (engine, .ok 0) := by simp [runDue, isDue, Throttle.isDue, due]
  have noneReady : engine.runReady = (engine, .ok 0) := by simp [runReady, unready]
  unfold pump
  rw [takeChanges_of_quiet quiet, noneDue]
  simp only [noneReady]

/-! Only those passes run that were to come. -/

theorem Running.schedule {starts : List (PassStart σ)} (running : Running engine starts later) :
    (starts.map (·.cause)).count .requested + later.throttle.due.isSome.toNat =
        engine.throttle.due.isSome.toNat ∧
      (starts.map (·.cause)).count .awaited + later.isReady.toNat = engine.isReady.toNat := by
  induction running with
  | done => simp
  | @started engine _ starts later begins _ ih =>
    obtain ⟨requested, awaited⟩ := ih
    rcases begins with first | second
    · obtain ⟨due, rfl⟩ := duePass_eq_some.mp first
      have pending : engine.throttle.due.isSome = true := by
        obtain ⟨_, pending, _⟩ := isDue_iff.mp due
        rw [pending]
        rfl
      -- The request is spent when its pass begins.
      have spent : engine.startDue.pass.1.throttle.due = none := by
        rw [(sameSchedule_pass engine.startDue).throttle]
        rfl
      have same : engine.startDue.pass.1.isReady = engine.isReady := isReady_pass engine.startDue
      rw [spent] at requested
      rw [same] at awaited
      rw [pending, List.map_cons, List.count_cons_self, List.count_cons_of_ne (by simp)]
      exact ⟨by rw [Nat.add_right_comm, requested]; rfl, awaited⟩
    · obtain ⟨ready, rfl⟩ := readyPass_eq_some.mp second
      have spent : engine.startReady.pass.1.isReady = false := (isReady_pass engine.startReady).trans rfl
      have same : engine.startReady.pass.1.throttle = engine.throttle :=
        (sameSchedule_pass engine.startReady).throttle
      rw [spent] at awaited
      rw [same] at requested
      rw [ready, List.map_cons, List.count_cons_self, List.count_cons_of_ne (by simp)]
      exact ⟨requested, by rw [Nat.add_right_comm, awaited]; rfl⟩

/-- What waiting does to an engine whose own writes have left no record, with the passes that run meanwhile. -/
structure Waited (engine : Engine σ) (starts : List (PassStart σ)) (later : Engine σ) : Prop where
  quiet : later.page.mutations = []
  requested : (starts.map (·.cause)).count .requested + later.throttle.due.isSome.toNat =
    engine.throttle.due.isSome.toNat
  awaited : (starts.map (·.cause)).count .awaited + later.isReady.toNat = engine.isReady.toNat
  protections : KeepsProtections engine later

theorem Waited.trans {between : Engine σ} {starts more : List (PassStart σ)}
    (first : Waited engine starts between) (second : Waited between more later) :
    Waited engine (starts ++ more) later where
  quiet := second.quiet
  requested := by
    have before := first.requested
    have after := second.requested
    rw [List.map_append, List.count_append]
    omega
  awaited := by
    have before := first.awaited
    have after := second.awaited
    rw [List.map_append, List.count_append]
    omega
  protections := first.protections.trans second.protections

theorem waited_after (quiet : engine.page.mutations = []) {event : Event} (waits : event.isWaiting = true)
    (succeed : ∀ start ∈ engine.passesIn event, start.Succeeds) :
    Waited engine (engine.passesIn event) (engine.after event) := by
  cases event with
  | script | useNativeText | apply | dispose => exact absurd waits Bool.false_ne_true
  | advance milliseconds =>
    exact ⟨quiet, Nat.zero_add _, Nat.zero_add _, Nat.le_refl _, (KeepsProtections.refl engine).entry⟩
  | pump =>
    have running := running_pump engine
    rw [takeChanges_of_quiet quiet] at running
    obtain ⟨requested, awaited⟩ := running.schedule
    refine ⟨quiet_pump succeed, requested, awaited, ?_⟩
    refine (keptByPasses_keepsProtections engine).pump_of_takeChanges ?_
    rw [takeChanges_of_quiet quiet]
    exact .refl engine

theorem waited_afterAll (quiet : engine.page.mutations = []) {events : List Event}
    (waits : ∀ event ∈ events, event.isWaiting = true)
    (succeed : ∀ start ∈ engine.passes events, start.Succeeds) :
    Waited engine (engine.passes events) (engine.afterAll events) := by
  induction events generalizing engine with
  | nil => exact ⟨quiet, Nat.zero_add _, Nat.zero_add _, .refl engine⟩
  | cons event rest ih =>
    obtain ⟨here, others⟩ := List.forall_mem_cons.mp waits
    obtain ⟨first, second⟩ := List.forall_mem_append.mp succeed
    have waited := waited_after quiet here first
    exact waited.trans (ih waited.quiet others second)

/-- When nothing is left to do, waiting changes nothing but the time. -/
theorem pump_of_settled (quiet : engine.page.mutations = []) (due : engine.throttle.due = none)
    (unready : engine.isReady = false) {events : List Event}
    (waits : ∀ event ∈ events, event.isWaiting = true) :
    (engine.afterAll events).pump = (engine.afterAll events, .ok 0) := by
  induction events generalizing engine with
  | nil => exact pump_of_quiet quiet due unready
  | cons event rest ih =>
    obtain ⟨here, others⟩ := List.forall_mem_cons.mp waits
    cases event with
    | script | useNativeText | apply | dispose => exact absurd here Bool.false_ne_true
    | advance milliseconds => exact ih quiet due unready others
    | pump =>
      have same : engine.after .pump = engine := congrArg Prod.fst (pump_of_quiet quiet due unready)
      show ((engine.after .pump).afterAll rest).pump = ((engine.after .pump).afterAll rest, .ok 0)
      rw [same]
      exact ih quiet due unready others

/-- After `apply` or `pump` has succeeded, while time passes and changes are delivered and no pass fails, a
requested pass runs only if one was pending, a pass that waited for the page only if one could run, each once
and no other; every delivery succeeds; and no protection puts styles back. As soon as neither of those passes
is left, every further delivery leaves the engine and its page exactly as they are. -/
theorem own_writes_unnoticed {before engine : Engine σ}
    (ended : before.apply = (engine, .ok ()) ∨ ∃ count, before.pump = (engine, .ok count))
    {events : List Event} (waits : ∀ event ∈ events, event.isWaiting = true)
    (succeed : ∀ start ∈ engine.passes events, start.Succeeds) :
    ((engine.passes events).map (·.cause)).count .requested +
          (engine.afterAll events).throttle.due.isSome.toNat = engine.throttle.due.isSome.toNat ∧
      ((engine.passes events).map (·.cause)).count .awaited + (engine.afterAll events).isReady.toNat =
        engine.isReady.toNat ∧
      (∀ earlier rest, events = earlier ++ .pump :: rest → (engine.afterAll earlier).pump.2 =
        .ok ((engine.afterAll earlier).passesIn .pump).length) ∧
      KeepsProtections engine (engine.afterAll events) ∧
      ((engine.afterAll events).throttle.due = none → (engine.afterAll events).isReady = false →
        ∀ more : List Event, (∀ event ∈ more, event.isWaiting = true) →
          (engine.afterAll (events ++ more)).pump = (engine.afterAll (events ++ more), .ok 0)) := by
  have quiet : engine.page.mutations = [] := by
    rcases ended with applied | ⟨count, pumped⟩
    · have quiet := @quiet_apply σ before (by rw [applied])
      rwa [applied] at quiet
    · have quiet := quiet_pump (pump_ok_iff.mp (congrArg Prod.snd pumped)).1
      rwa [pumped] at quiet
  have waited := waited_afterAll quiet waits succeed
  refine ⟨waited.requested, waited.awaited, ?_, waited.protections, ?_⟩
  · rintro earlier rest rfl
    rw [passes_append] at succeed
    have delivered := (List.forall_mem_append.mp succeed).2
    exact pump_ok_iff.mpr ⟨(List.forall_mem_append.mp delivered).1, rfl⟩
  · intro due unready more others
    have split : engine.afterAll (events ++ more) = (engine.afterAll events).afterAll more :=
      List.foldl_append
    rw [split]
    exact pump_of_settled waited.quiet due unready others

/-- A run on a page that becomes ready only after the rules have been applied. Meanwhile a script has changed the
page twice, so that one requested pass has run and another is pending. -/
def slowPage : Engine Unit :=
  ranOn "<p class=a></p>" { rules := some [".a { color: red }"] }
    [.script (.setReady false), .apply, .script (.setAttribute ⟨1⟩ "id" "first"), .pump,
      .script (.setAttribute ⟨1⟩ "id" "second"), .pump, .script (.setReady true)]

/-- Time passes, so that both passes that are to come run. -/
def waitedOut : List Event := [.advance 10, .pump, .advance 200, .pump]

theorem own_writes_unnoticed_slowPage :
    slowPage.apply.2 = .ok () ∧ slowPage.apply.1.throttle.due = some 150 ∧
      slowPage.apply.1.isReady = true ∧
      ((slowPage.apply.1.passes waitedOut).map (·.cause)) = [.awaited, .requested] ∧
      KeepsProtections slowPage.apply.1 (slowPage.apply.1.afterAll waitedOut) ∧
      (slowPage.apply.1.afterAll (waitedOut ++ [.advance 500])).pump =
        (slowPage.apply.1.afterAll (waitedOut ++ [.advance 500]), .ok 0) := by
  have applied : slowPage.apply.2 = .ok () := by decide +kernel
  have ended : slowPage.apply = (slowPage.apply.1, .ok ()) := Prod.ext rfl applied
  have waits : ∀ event ∈ waitedOut, event.isWaiting = true := by decide
  have succeed : ∀ start ∈ slowPage.apply.1.passes waitedOut, start.Succeeds := by decide +kernel
  obtain ⟨_, _, _, protections, settled⟩ := own_writes_unnoticed (Or.inl ended) waits succeed
  refine ⟨applied, by decide +kernel, by decide +kernel, by decide +kernel, protections, ?_⟩
  exact settled (by decide +kernel) (by decide +kernel) [.advance 500] (by decide)

end CosmeticRules.Engine
