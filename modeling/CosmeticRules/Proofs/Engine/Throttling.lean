import CosmeticRules.Proofs.Engine.Passes

/-!
Requested passes are throttled. They are an interval apart, however late they run; each runs in the first
delivery of changes at or after its deadline; and the deadline, which is at most an interval after the request,
stands once it is given.
-/

namespace CosmeticRules

namespace Throttle

variable {t : Throttle} {now : Nat}

/-- The last requested pass has run by now, and the next one is not due before the interval since is over. -/
structure OnTime (t : Throttle) (now : Nat) : Prop where
  past : ∀ last, t.lastRun = some last → last ≤ now
  spaced : ∀ last due, t.lastRun = some last → t.due = some due → last + interval ≤ due

theorem OnTime.new (now : Nat) : OnTime {} now where
  past := fun _ ran => absurd ran (by simp)
  spaced := fun _ _ ran => absurd ran (by simp)

theorem OnTime.mono (onTime : t.OnTime now) {later : Nat} (le : now ≤ later) : t.OnTime later where
  past := fun last ran => (onTime.past last ran).trans le
  spaced := onTime.spaced

theorem OnTime.start (t : Throttle) (now : Nat) : (t.start now).OnTime now where
  past := fun _ ran => Nat.le_of_eq (Option.some.inj ran).symm
  spaced := fun _ _ _ due => absurd due (by simp [Throttle.start])

theorem OnTime.cancel (onTime : t.OnTime now) : t.cancel.OnTime now where
  past := onTime.past
  spaced := fun _ _ _ due => absurd due (by simp [Throttle.cancel])

/-- The remainder that a deadline is taken with is none until shortly before the end of time. -/
theorem deadline_of_lastRun {last : Nat} (ran : t.lastRun = some last) (past : last ≤ now)
    (inTime : now + interval ≤ Page.endOfTime) : t.deadline now = max now (last + interval) := by
  unfold deadline
  rw [ran]
  simp only []
  split
  · rename_i early
    rw [Nat.mod_eq_of_lt (by omega)]
    omega
  · omega

theorem le_deadline (onTime : t.OnTime now) (inTime : now + interval ≤ Page.endOfTime) :
    now ≤ t.deadline now ∧ t.deadline now ≤ now + interval := by
  cases ran : t.lastRun with
  | none =>
    have same : t.deadline now = now := by rw [deadline, ran]
    omega
  | some last =>
    have past := onTime.past last ran
    rw [deadline_of_lastRun ran past inTime]
    omega

theorem OnTime.request (onTime : t.OnTime now) (inTime : now + interval ≤ Page.endOfTime) :
    (t.request now).OnTime now := by
  unfold Throttle.request
  split
  · exact onTime
  · refine ⟨onTime.past, ?_⟩
    intro last due ran same
    obtain rfl : t.deadline now = due := Option.some.inj same
    have deadline := @deadline_of_lastRun t now last ran (onTime.past last ran) inTime
    omega

theorem request_of_pending {due : Nat} (pending : t.due = some due) (now : Nat) : t.request now = t := by
  rw [Throttle.request, pending]

theorem request_of_none (none : t.due = none) (now : Nat) :
    t.request now = { t with due := some (t.deadline now) } := by
  rw [Throttle.request, none]

end Throttle

namespace Engine

variable {σ : Type} {engine : Engine σ}

/-! The clock. -/

/-- Time never goes back, unless it has come to its end. -/
theorem now_le_after {event : Event} (inTime : (engine.after event).page.now < Page.endOfTime) :
    engine.page.now ≤ (engine.after event).page.now := by
  have clock := keptByEngine_clock (σ := σ) engine.page.now engine.page.ready
  cases event with
  | script step => exact (engine.page.now_script step).ge
  | advance milliseconds =>
    have reached : (engine.after (.advance milliseconds)).page.now =
      min (engine.page.now + milliseconds) Page.endOfTime := rfl
    omega
  | useNativeText => exact Nat.le_refl _
  | apply => exact (clock.apply ⟨rfl, rfl⟩).1.ge
  | pump => exact (clock.pump ⟨rfl, rfl⟩).1.ge
  | dispose => exact (clock.dispose ⟨rfl, rfl⟩).1.ge

theorem now_le_afterAll {events : List Event} (inTime : (engine.afterAll events).page.now < Page.endOfTime) :
    engine.page.now ≤ (engine.afterAll events).page.now := by
  induction events generalizing engine with
  | nil => exact Nat.le_refl _
  | cons event rest ih =>
    have others := @ih (engine.after event) inTime
    exact (now_le_after (Nat.lt_of_le_of_lt others inTime)).trans others

/-- If the clock stays clear of its end, then it has been so all the time. -/
theorem early_of_afterAll {event : Event} {rest : List Event}
    (inTime : (engine.afterAll (event :: rest)).page.now + Throttle.interval ≤ Page.endOfTime) :
    engine.page.now ≤ (engine.after event).page.now ∧
      engine.page.now + Throttle.interval ≤ Page.endOfTime := by
  have beforeEnd : (engine.afterAll (event :: rest)).page.now < Page.endOfTime := by
    have positive : 0 < Throttle.interval := by decide
    omega
  have others : (engine.after event).page.now ≤ (engine.afterAll (event :: rest)).page.now :=
    @now_le_afterAll σ (engine.after event) rest beforeEnd
  have here := now_le_after (Nat.lt_of_le_of_lt others beforeEnd)
  exact ⟨here, by omega⟩

theorem now_takeChanges (engine : Engine σ) : engine.takeChanges.page.now = engine.page.now :=
  ((keptByEngine_clock (σ := σ) engine.page.now engine.page.ready).takeChanges ⟨rfl, rfl⟩).1

/-! The throttle in each event. -/

theorem throttle_noteChanges (engine : Engine σ) (records : List Mutation) :
    (engine.noteChanges records).throttle = engine.throttle ∨
      (engine.noteChanges records).throttle = engine.throttle.request engine.page.now := by
  unfold noteChanges
  simp only []
  split
  · exact Or.inl rfl
  · split
    · exact Or.inl rfl
    · exact Or.inr rfl

/-- Changes that are delivered can only request a pass. -/
theorem throttle_takeChanges (engine : Engine σ) :
    engine.takeChanges.throttle = engine.throttle ∨
      engine.takeChanges.throttle = engine.throttle.request engine.page.now := by
  unfold takeChanges
  simp only []
  split
  · exact Or.inl rfl
  · have taken : SameSchedule engine { engine with page := engine.page.takeMutations.1 } :=
      ⟨rfl, rfl, rfl, rfl⟩
    have put := (keptByWork_sameSchedule engine).protectStyles taken engine.page.takeMutations.2
    have noted := throttle_noteChanges
      (({ engine with page := engine.page.takeMutations.1 } : Engine σ).protectStyles
        engine.page.takeMutations.2).dropOwnMutations engine.page.takeMutations.2
    refine noted.imp (fun same => same.trans put.throttle) fun requested => requested.trans ?_
    exact congrArg₂ Throttle.request put.throttle put.now

theorem throttle_takeChanges_of_pending {due : Nat} (pending : engine.throttle.due = some due) :
    engine.takeChanges.throttle = engine.throttle := by
  rcases throttle_takeChanges engine with same | requested
  · exact same
  · rw [requested, Throttle.request_of_pending pending]

theorem throttle_apply (engine : Engine σ) : engine.apply.1.throttle = engine.throttle := by
  obtain ⟨_, same⟩ := apply_eq engine
  rw [same]
  exact throttle_pass engine

/-- The requested pass that runs takes the request with it. -/
theorem throttle_pump_of_isDue (due : engine.takeChanges.isDue = true) :
    engine.pump.1.throttle = ⟨some engine.page.now, none⟩ := by
  have requested : engine.takeChanges.duePass = some ⟨.requested, engine.takeChanges.startDue⟩ :=
    duePass_eq_some.mpr ⟨due, rfl⟩
  have throttle : engine.takeChanges.startDue.pass.1.throttle = ⟨some engine.page.now, none⟩ := by
    rw [throttle_pass, ← now_takeChanges]
    rfl
  have same := throttle_runReady engine.takeChanges.startDue.pass.1
  unfold pump
  rw [runDue_eq, requested, runPass]
  cases engine.takeChanges.startDue.pass.2 with
  | error e => exact throttle
  | ok =>
    simp only [Except.map]
    split <;> rename_i next <;> rw [next] at same <;> exact same.trans throttle

/-- When the requested passes among some passes begin. -/
def requestedTimes (starts : List (PassStart σ)) : List Nat :=
  (starts.filter (·.cause = .requested)).map (·.engine.page.now)

theorem requestedTimes_append (starts more : List (PassStart σ)) :
    requestedTimes (starts ++ more) = requestedTimes starts ++ requestedTimes more := by
  rw [requestedTimes, List.filter_append, List.map_append]
  rfl

theorem requestedTimes_pump (engine : Engine σ) :
    requestedTimes (engine.passesIn .pump) =
      if engine.takeChanges.isDue then [engine.page.now] else [] := by
  have late : requestedTimes (passAfter engine.takeChanges.runDue).toList = [] := by
    unfold passAfter readyPass
    split
    · split <;> rfl
    · rfl
  show requestedTimes (engine.takeChanges.duePass.toList ++ _) = _
  rw [requestedTimes_append, late, List.append_nil]
  unfold duePass
  split
  · rw [← now_takeChanges]
    rfl
  · rfl

/-- The throttle and the clock of an engine agree. -/
def OnTime (engine : Engine σ) : Prop := engine.throttle.OnTime engine.page.now

theorem OnTime.takeChanges (onTime : engine.OnTime)
    (inTime : engine.page.now + Throttle.interval ≤ Page.endOfTime) : engine.takeChanges.OnTime := by
  unfold OnTime
  rw [now_takeChanges]
  rcases throttle_takeChanges engine with same | requested
  · rw [same]
    exact onTime
  · rw [requested]
    exact Throttle.OnTime.request onTime inTime

theorem OnTime.after (onTime : engine.OnTime)
    (inTime : engine.page.now + Throttle.interval ≤ Page.endOfTime) {event : Event}
    (later : engine.page.now ≤ (engine.after event).page.now) : (engine.after event).OnTime := by
  have moved : engine.throttle.OnTime (engine.after event).page.now := Throttle.OnTime.mono onTime later
  cases event with
  | script | advance | useNativeText => exact moved
  | apply =>
    unfold OnTime
    rw [show (engine.after .apply).throttle = engine.throttle from throttle_apply engine]
    exact moved
  | pump =>
    refine Throttle.OnTime.mono ?_ later
    show engine.pump.1.throttle.OnTime _
    cases due : engine.takeChanges.isDue with
    | true =>
      rw [throttle_pump_of_isDue due]
      exact .start engine.throttle _
    | false =>
      have taken := onTime.takeChanges inTime
      rw [throttle_pump due]
      unfold OnTime at taken
      rwa [now_takeChanges] at taken
  | dispose => exact moved.cancel

/-- What an event does: no requested pass runs, and the last one stays the last; or one runs in a delivery of
changes, at least an interval after the last one. -/
theorem requested_in (onTime : engine.OnTime)
    (inTime : engine.page.now + Throttle.interval ≤ Page.endOfTime) (event : Event) :
    requestedTimes (engine.passesIn event) = [] ∧
        (engine.after event).throttle.lastRun = engine.throttle.lastRun ∨
      requestedTimes (engine.passesIn event) = [engine.page.now] ∧
        (engine.after event).throttle.lastRun = some engine.page.now ∧
        ∀ last, engine.throttle.lastRun = some last → last + Throttle.interval ≤ engine.page.now := by
  have lastRun : engine.takeChanges.throttle.lastRun = engine.throttle.lastRun := by
    rcases throttle_takeChanges engine with same | requested
    · rw [same]
    · rw [requested, Throttle.request]
      split <;> rfl
  cases event with
  | script | advance | useNativeText | dispose => exact Or.inl ⟨rfl, rfl⟩
  | apply => exact Or.inl ⟨rfl, congrArg Throttle.lastRun (throttle_apply engine)⟩
  | pump =>
    rw [requestedTimes_pump]
    cases due : engine.takeChanges.isDue with
    | false => exact Or.inl ⟨rfl, (congrArg Throttle.lastRun (throttle_pump due)).trans lastRun⟩
    | true =>
      refine Or.inr ⟨rfl, congrArg Throttle.lastRun (throttle_pump_of_isDue due), ?_⟩
      intro last ran
      obtain ⟨deadline, pending, reached⟩ := isDue_iff.mp due
      have spaced := (onTime.takeChanges inTime).spaced last deadline (lastRun.trans ran) pending
      rw [now_takeChanges] at reached
      exact spaced.trans reached

theorem onTime_afterAll (onTime : engine.OnTime) {events : List Event}
    (inTime : (engine.afterAll events).page.now + Throttle.interval ≤ Page.endOfTime) :
    (engine.afterAll events).OnTime := by
  induction events generalizing engine with
  | nil => exact onTime
  | cons event rest ih =>
    obtain ⟨here, early⟩ := early_of_afterAll inTime
    exact ih (onTime.after early here) inTime

/-- Requested passes are an interval apart, the first one also from the one that ran last before. -/
theorem spaced_passes (onTime : engine.OnTime) {events : List Event}
    (inTime : (engine.afterAll events).page.now + Throttle.interval ≤ Page.endOfTime) :
    (∀ last time, engine.throttle.lastRun = some last → time ∈ requestedTimes (engine.passes events) →
        last + Throttle.interval ≤ time) ∧
      (requestedTimes (engine.passes events)).Pairwise fun time later =>
        time + Throttle.interval ≤ later := by
  induction events generalizing engine with
  | nil => exact ⟨fun _ _ _ member => absurd member (by simp [passes, requestedTimes]), List.Pairwise.nil⟩
  | cons event rest ih =>
    obtain ⟨here, early⟩ := early_of_afterAll inTime
    obtain ⟨after, apart⟩ := ih (onTime.after early here) inTime
    show (∀ last time, _ → time ∈ requestedTimes (_ ++ (engine.after event).passes rest) → _) ∧
      (requestedTimes (_ ++ (engine.after event).passes rest)).Pairwise _
    rw [requestedTimes_append]
    rcases requested_in onTime early event with ⟨none, same⟩ | ⟨one, ran, spaced⟩
    · rw [none, List.nil_append]
      exact ⟨fun last time before => after last time (same.trans before), apart⟩
    · rw [one, List.singleton_append]
      refine ⟨?_, List.pairwise_cons.mpr ⟨fun time => after _ time ran, apart⟩⟩
      intro last time before member
      rcases List.mem_cons.mp member with rfl | member
      · exact spaced last before
      · have between := spaced last before
        have next := after _ time ran member
        omega

/-! A pending pass. -/

/-- Before its deadline only disposal takes a request away. -/
theorem pending_after {due : Nat} (pending : engine.throttle.due = some due) {event : Event}
    (stays : event ≠ .dispose) (early : event = .pump → engine.page.now < due) :
    (engine.after event).throttle.due = some due ∧ requestedTimes (engine.passesIn event) = [] := by
  cases event with
  | script | advance | useNativeText => exact ⟨pending, rfl⟩
  | apply => exact ⟨(congrArg Throttle.due (throttle_apply engine)).trans pending, rfl⟩
  | pump =>
    have same := throttle_takeChanges_of_pending pending
    have undue : engine.takeChanges.isDue = false := by
      rw [Bool.eq_false_iff, ne_eq, isDue_iff, same, now_takeChanges, pending]
      rintro ⟨_, is, reached⟩
      obtain rfl := Option.some.inj is
      exact absurd reached (Nat.not_le.mpr (early rfl))
    rw [requestedTimes_pump, undue]
    refine ⟨?_, rfl⟩
    rw [show (engine.after .pump).throttle = _ from throttle_pump undue, same, pending]
  | dispose => exact absurd rfl stays

theorem pending_afterAll {due : Nat} (pending : engine.throttle.due = some due) {events : List Event}
    (stays : .dispose ∉ events)
    (early : ∀ before rest, events = before ++ .pump :: rest → (engine.afterAll before).page.now < due) :
    (engine.afterAll events).throttle.due = some due ∧ requestedTimes (engine.passes events) = [] := by
  induction events generalizing engine with
  | nil => exact ⟨pending, rfl⟩
  | cons event rest ih =>
    rw [List.mem_cons, not_or] at stays
    have here : event = .pump → engine.page.now < due := by
      rintro rfl
      exact early [] rest rfl
    obtain ⟨still, none⟩ := pending_after pending (Ne.symm stays.1) here
    have others : ∀ before after, rest = before ++ .pump :: after →
        ((engine.after event).afterAll before).page.now < due := by
      rintro before after rfl
      exact early (event :: before) after rfl
    obtain ⟨last, nothing⟩ := ih still stays.2 others
    refine ⟨last, ?_⟩
    show requestedTimes (engine.passesIn event ++ (engine.after event).passes rest) = []
    rw [requestedTimes_append, none, nothing]
    rfl

/-- A delivery of changes at or after the deadline runs the requested pass. -/
theorem requestedTimes_pump_of_pending {due : Nat} (pending : engine.throttle.due = some due)
    (reached : due ≤ engine.page.now) : requestedTimes (engine.passesIn .pump) = [engine.page.now] := by
  have isDue : engine.takeChanges.isDue = true := by
    rw [isDue_iff, throttle_takeChanges_of_pending pending, now_takeChanges]
    exact ⟨due, pending, reached⟩
  rw [requestedTimes_pump, if_pos isDue]

/-- In every run whose clock stays clear of the end of time, requested passes are at least 150 milliseconds apart.
A request gets a deadline that is not before it and at most 150 milliseconds after it. Whatever happens then, no
disposal and no delivery of changes at or after the deadline, the deadline stands and no requested pass runs; and
the delivery that comes next, if the deadline is reached by then, runs it. -/
theorem requested_passes_throttled {page : Page} {configuration : Configuration σ} {hookState : σ}
    {engine : Engine σ} (made : (ofPage page configuration hookState).result = .ok engine)
    {events : List Event} (inTime : (engine.afterAll events).page.now < UInt64.size - 150) :
    (requestedTimes (engine.passes events)).Pairwise (fun time later => time + 150 ≤ later) ∧
      (∀ due, (engine.afterAll events).throttle.due = none →
        (engine.afterAll events).takeChanges.throttle.due = some due →
          (engine.afterAll events).page.now ≤ due ∧ due ≤ (engine.afterAll events).page.now + 150) ∧
      ∀ due, (engine.afterAll events).throttle.due = some due → ∀ more : List Event, .dispose ∉ more →
        (∀ before rest, more = before ++ .pump :: rest →
          (engine.afterAll (events ++ before)).page.now < due) →
        (engine.afterAll (events ++ more)).throttle.due = some due ∧
          requestedTimes ((engine.afterAll events).passes more) = [] ∧
          (due ≤ (engine.afterAll (events ++ more)).page.now →
            requestedTimes ((engine.afterAll (events ++ more)).passesIn .pump) =
              [(engine.afterAll (events ++ more)).page.now]) := by
  have split : ∀ more, engine.afterAll (events ++ more) = (engine.afterAll events).afterAll more :=
    fun more => List.foldl_append
  have limit : (engine.afterAll events).page.now + Throttle.interval ≤ Page.endOfTime := by
    have size : Page.endOfTime = UInt64.size - 1 := rfl
    have interval : Throttle.interval = 150 := rfl
    omega
  have atStart : engine.OnTime := by
    obtain ⟨rules, _, rfl⟩ := engine_of_made made
    exact .new _
  have onTime := onTime_afterAll atStart limit
  refine ⟨(spaced_passes atStart limit).2, ?_, ?_⟩
  · intro due none requested
    rcases throttle_takeChanges (engine.afterAll events) with same | new
    · rw [same, none] at requested
      simp at requested
    · rw [new, Throttle.request_of_none none] at requested
      obtain rfl := Option.some.inj requested
      exact Throttle.le_deadline onTime limit
  · intro due pending more stays early
    rw [split]
    have early : ∀ before rest, more = before ++ .pump :: rest →
        ((engine.afterAll events).afterAll before).page.now < due := by
      intro before rest same
      rw [← split]
      exact early before rest same
    obtain ⟨still, nothing⟩ := pending_afterAll pending stays early
    exact ⟨still, nothing, requestedTimes_pump_of_pending still⟩

/-- An engine for a page with one paragraph to style. -/
def paragraph : Engine Unit :=
  started (Page.ofMarkup "<p class=a></p>") { rules := some [".a { color: red }"] }

/-- A script gives the paragraph an id, and the change is delivered. -/
def renamed (id : String) : List Event := [.script (.setAttribute ⟨1⟩ "id" id), .pump]

/-- The first change runs a pass at once, the second when the interval is over, and the third waits. -/
def renamedOften : List Event :=
  .apply :: renamed "first" ++ renamed "second" ++ [.advance 200, .pump] ++ renamed "third"

/-- Time passes until the deadline is over, with a delivery of changes before it. -/
def untilDue : List Event := [.advance 100, .pump, .advance 70]

theorem requested_passes_throttled_paragraph :
    requestedTimes (paragraph.passes renamedOften) = [0, 200] ∧
      (requestedTimes (paragraph.passes renamedOften)).Pairwise (fun time later => time + 150 ≤ later) ∧
      (paragraph.afterAll renamedOften).throttle.due = some 350 ∧
      (paragraph.afterAll (renamedOften ++ untilDue)).page.now = 370 ∧
      (paragraph.afterAll (renamedOften ++ untilDue)).throttle.due = some 350 ∧
      requestedTimes ((paragraph.afterAll (renamedOften ++ untilDue)).passesIn .pump) =
        [(paragraph.afterAll (renamedOften ++ untilDue)).page.now] := by
  have made : (ofPage (Page.ofMarkup "<p class=a></p>") { rules := some [".a { color: red }"] } ()).result =
      .ok paragraph := ofPage_started (by decide +kernel)
  have inTime : (paragraph.afterAll renamedOften).page.now < UInt64.size - 150 := by decide +kernel
  obtain ⟨apart, _, pending⟩ := requested_passes_throttled made inTime
  have due : (paragraph.afterAll renamedOften).throttle.due = some 350 := by decide +kernel
  have stays : Event.dispose ∉ untilDue := by simp [untilDue]
  have early : ∀ before rest, untilDue = before ++ .pump :: rest →
      (paragraph.afterAll (renamedOften ++ before)).page.now < 350 := by
    intro before rest same
    obtain rfl : before = [.advance 100] := by
      rcases before with _ | ⟨_, _ | ⟨_, _ | ⟨_, _⟩⟩⟩ <;> simp_all [untilDue]
    decide +kernel
  obtain ⟨still, _, runs⟩ := pending 350 due untilDue stays early
  have now : (paragraph.afterAll (renamedOften ++ untilDue)).page.now = 370 := by decide +kernel
  have reached : 350 ≤ (paragraph.afterAll (renamedOften ++ untilDue)).page.now := by omega
  exact ⟨by decide +kernel, apart, due, now, still, runs reached⟩

end Engine

end CosmeticRules
