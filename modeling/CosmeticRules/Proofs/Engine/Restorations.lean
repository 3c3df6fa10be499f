import CosmeticRules.Proofs.Engine.Removals

/-!
How often protections put styles back. Each counts what it does itself, under a number that no other protection
ever gets, and ends at its limit; so scripts cannot keep an engine busy.
-/

namespace CosmeticRules

theorem Affected.node_of_find? {n : NodeId} {entries : List Affected} {a : Affected}
    (found : find? n entries = some a) : a.node = n := by
  have same : (a.node == n) = true := @List.find?_some Affected (·.node == n) a entries found
  exact beq_iff_eq.mp same

/-- An entry after a change of one entry is the changed one, or that of another element. -/
theorem Affected.mem_update {n : NodeId} {f : Affected → Affected} {entries : List Affected}
    (same : ∀ a, (f a).node = a.node) (distinct : (nodes entries).Nodup) {b : Affected}
    (member : b ∈ update n f entries) :
    (∃ a, find? n entries = some a ∧ b = f a) ∨ b.node ≠ n ∧ b ∈ entries := by
  have known : find? b.node (update n f entries) = some b :=
    find?_of_mem ((nodes_update same).symm ▸ distinct) member
  rw [find?_update same] at known
  split at known
  · obtain ⟨a, found, changed⟩ := Option.map_eq_some_iff.mp known
    exact Or.inl ⟨a, found, changed.symm⟩
  · rename_i other
    exact Or.inr ⟨other, mem_of_find? known⟩

/-- Two entries with the same number are one. -/
theorem Affected.eq_of_id {entries : List Affected} (distinct : (protectionIds entries).Nodup)
    {a b : Affected} (first : a ∈ entries) (second : b ∈ entries) {id : Nat}
    (numbered : a.protection.map (·.id) = some id) (again : b.protection.map (·.id) = some id) : a = b := by
  induction entries with
  | nil => simp at first
  | cons c rest ih =>
    obtain ⟨fresh, distinct⟩ := nodup_protectionIds_cons.mp distinct
    have listed : ∀ {d : Affected}, d ∈ rest → d.protection.map (·.id) = some id → id ∈ protectionIds rest :=
      fun member is => List.mem_filterMap.mpr ⟨_, member, is⟩
    rcases List.mem_cons.mp first with here | inRest <;> rcases List.mem_cons.mp second with is | beside
    · exact here.trans is.symm
    · exact absurd (listed beside again) (fresh id (here ▸ numbered))
    · exact absurd (listed inRest numbered) (fresh id (is ▸ again))
    · exact ih distinct inRest beside

namespace Engine

variable {σ : Type} {engine later : Engine σ}

/-- The number of the protection that puts the styles of a node back, if one does. -/
def restoredBy (engine : Engine σ) (n : NodeId) : Option Nat :=
  (((Affected.find? n engine.affected).bind (·.protection)).filter (·.connected)).map (·.id)

/-- The protections that put styles back when nodes are told to have other styles, one after another. -/
def restoredAt (engine : Engine σ) : List NodeId → List Nat
  | [] => []
  | n :: rest => (engine.restoredBy n).toList ++ (engine.protectNode n).restoredAt rest

/-- The protections that put styles back in an event, each as often as it does. -/
def restorationsIn (engine : Engine σ) : Event → List Nat
  | .pump =>
    ({ engine with page := engine.page.takeMutations.1 } : Engine σ).restoredAt
      ((engine.page.mutations.filter (·.isStyleChange)).map (·.target)).eraseDups
  | .script _ | .advance _ | .useNativeText | .apply | .dispose => []

/-- The protections that put styles back in some events in turn. -/
def restorations (engine : Engine σ) : List Event → List Nat
  | [] => []
  | event :: rest => engine.restorationsIn event ++ (engine.after event).restorations rest

/-- What has been put back so far: no protection has done so too often, none that is to come has done so, and
each that is in use has counted it. -/
structure Tallied (restored : List Nat) (engine : Engine σ) : Prop where
  within : ∀ id, restored.count id ≤ Protection.limit
  issued : ∀ id ∈ restored, id < engine.nextProtection
  counted : ∀ a ∈ engine.affected, ∀ p, a.protection = some p → p.count = restored.count p.id

theorem Tallied.of_keeps {restored : List Nat} (tallied : Tallied restored engine)
    (keeps : KeepsProtections engine later) : Tallied restored later where
  within := tallied.within
  issued := fun id member => (tallied.issued id member).trans_le keeps.next_le
  counted := by
    intro b member q guarded
    rcases keeps.entry b member q guarded with ⟨a, known, _, same⟩ | ⟨fresh, none⟩
    · exact tallied.counted a known q same
    · have absent : q.id ∉ restored := fun old => absurd (tallied.issued q.id old) (Nat.not_lt.mpr fresh)
      rw [none, List.count_eq_zero.mpr absent]

theorem protectNode_of_not_restoredBy {n : NodeId} (none : engine.restoredBy n = none) :
    engine.protectNode n = engine := by
  unfold protectNode
  unfold restoredBy at none
  split
  · rfl
  · rename_i p found
    rw [found] at none
    cases works : p.connected with
    | false => rfl
    | true => simp [works] at none

/-- The protection that puts styles back counts it. -/
theorem protectNode_of_restoredBy {n : NodeId} {id : Nat} (restores : engine.restoredBy n = some id) :
    ∃ a p, Affected.find? n engine.affected = some a ∧ a.protection = some p ∧ p.id = id ∧
      p.connected = true ∧
      (engine.protectNode n).affected =
        Affected.update n (fun a => { a with protection := some p.next }) engine.affected ∧
      (engine.protectNode n).nextProtection = engine.nextProtection := by
  obtain ⟨p, held, same⟩ := Option.map_eq_some_iff.mp restores
  obtain ⟨held, works⟩ := Option.filter_eq_some_iff.mp held
  obtain ⟨a, found, guarded⟩ := Option.bind_eq_some_iff.mp held
  refine ⟨a, p, found, guarded, same, works, ?_⟩
  unfold protectNode
  rw [held]
  simp only [works, Bool.not_true, Bool.false_eq_true, if_false]
  exact ⟨rfl, rfl⟩

theorem Tallied.protectNode {restored : List Nat} (tallied : Tallied restored engine)
    (sound : engine.AffectedSound) (n : NodeId) :
    Tallied (restored ++ (engine.restoredBy n).toList) (engine.protectNode n) := by
  cases restores : engine.restoredBy n with
  | none =>
    rw [protectNode_of_not_restoredBy restores, Option.toList_none, List.append_nil]
    exact tallied
  | some id =>
    obtain ⟨a, p, found, guarded, rfl, works, affected, next⟩ := protectNode_of_restoredBy restores
    have known : a ∈ engine.affected := Affected.mem_of_find? found
    have count := tallied.counted a known p guarded
    have below : p.count < Protection.limit :=
      ((sound.entry a known).protection p guarded).connected.mp works
    rw [Option.toList_some]
    refine ⟨?_, ?_, ?_⟩
    · intro id
      rw [List.count_append, List.count_singleton]
      split
      · rename_i same
        rw [← beq_iff_eq.mp same, ← count]
        exact below
      · exact tallied.within id
    · intro id member
      rw [next]
      rcases List.mem_append.mp member with old | new
      · exact tallied.issued id old
      · rw [List.mem_singleton.mp new]
        exact sound.ids_lt p.id (List.mem_filterMap.mpr ⟨a, known, by rw [guarded]; rfl⟩)
    · intro b member q held
      rw [affected] at member
      rw [List.count_append, List.count_singleton]
      rcases Affected.mem_update (f := fun a => { a with protection := some p.next }) (fun _ => rfl)
        sound.nodes_nodup member with ⟨c, _, rfl⟩ | ⟨other, old⟩
      · obtain rfl := Option.some.inj held
        show p.count + 1 = restored.count p.id + if p.id == p.id then 1 else 0
        rw [count, beq_self_eq_true, if_pos rfl]
      · have different : p.id ≠ q.id := by
          intro same
          have numbered : a.protection.map (·.id) = some p.id := by rw [guarded]; rfl
          have again : b.protection.map (·.id) = some p.id := by rw [held, same]; rfl
          obtain rfl := Affected.eq_of_id sound.ids_nodup known old numbered again
          exact other (Affected.node_of_find? found)
        rw [beq_eq_false_iff_ne.mpr different]
        exact tallied.counted b old q held

theorem Tallied.restoredAt {restored : List Nat} (tallied : Tallied restored engine)
    (sound : engine.AffectedSound) (targets : List NodeId) :
    Tallied (restored ++ engine.restoredAt targets) (targets.foldl Engine.protectNode engine) := by
  induction targets generalizing engine restored with
  | nil =>
    rw [Engine.restoredAt, List.append_nil]
    exact tallied
  | cons n rest ih =>
    rw [Engine.restoredAt, ← List.append_assoc]
    exact ih (tallied.protectNode sound n) (sound.protectNode n)

/-- Once the styles are back, delivering changes leaves protections alone. -/
theorem keepsProtections_noteChanges (engine : Engine σ) (records : List Mutation) :
    KeepsProtections engine (engine.dropOwnMutations.noteChanges records) := by
  have dropped : KeepsProtections engine engine.dropOwnMutations :=
    ⟨Nat.le_refl _, (KeepsProtections.refl engine).entry⟩
  exact (keptByPasses_keepsProtections engine).noteChanges dropped records

theorem Tallied.takeChanges {restored : List Nat} (tallied : Tallied restored engine)
    (sound : engine.AffectedSound) :
    Tallied (restored ++ engine.restorationsIn .pump) engine.takeChanges := by
  have taken : Tallied restored ({ engine with page := engine.page.takeMutations.1 } : Engine σ) :=
    ⟨tallied.within, tallied.issued, tallied.counted⟩
  have put := taken.restoredAt sound
    ((engine.page.mutations.filter (·.isStyleChange)).map (·.target)).eraseDups
  unfold Engine.takeChanges
  simp only []
  split
  · rename_i none
    have nothing : engine.restorationsIn .pump = [] := by
      have quiet : engine.page.mutations = [] := List.isEmpty_iff.mp none
      rw [restorationsIn, quiet]
      rfl
    rw [nothing, List.append_nil]
    exact taken
  · exact put.of_keeps (keepsProtections_noteChanges _ _)

theorem Tallied.after {restored : List Nat} (tallied : Tallied restored engine)
    (sound : engine.AffectedSound) (event : Event) :
    Tallied (restored ++ engine.restorationsIn event) (engine.after event) := by
  cases event with
  | pump =>
    have passes := keptByPasses_keepsProtections engine.takeChanges
    exact (tallied.takeChanges sound).of_keeps (passes.pump_of_takeChanges (.refl _))
  | apply =>
    rw [restorationsIn, List.append_nil]
    exact tallied.of_keeps ((keptByPasses_keepsProtections engine).apply (.refl engine))
  | dispose =>
    rw [restorationsIn, List.append_nil]
    exact ⟨tallied.within, tallied.issued, fun a member => absurd member List.not_mem_nil⟩
  | script | advance | useNativeText =>
    rw [restorationsIn, List.append_nil]
    exact ⟨tallied.within, tallied.issued, tallied.counted⟩

theorem tallied_afterAll {restored : List Nat} (tallied : Tallied restored engine)
    (sound : engine.AffectedSound) (events : List Event) :
    Tallied (restored ++ engine.restorations events) (engine.afterAll events) := by
  induction events generalizing engine restored with
  | nil =>
    rw [restorations, List.append_nil]
    exact tallied
  | cons event rest ih =>
    rw [restorations, ← List.append_assoc]
    exact ih (tallied.after sound event) (kept_affectedSound.after sound event)

/-- Whatever scripts do in a run, no protection puts styles back more than 50 times, and each that is in use has
counted how often. No more than 51 elements are taken out of the page with the same path at that time; the count
that is kept for a path is the number of those elements, and nothing else that the engine does takes a node out
of its parent. -/
theorem repeated_work_bounded {page : Page} {configuration : Configuration σ} {hookState : σ}
    (made : (ofPage page configuration hookState).result = .ok engine) (events : List Event) :
    (∀ id, (engine.restorations events).count id ≤ 50) ∧
      (∀ a ∈ (engine.afterAll events).affected, ∀ p, a.protection = some p →
        p.count = (engine.restorations events).count p.id) ∧
      (∀ path, (removedPaths engine events).count path ≤ 51) ∧
      (∀ path, (engine.afterAll events).removalCount path = (removedPaths engine events).count path) ∧
      ∀ before event rest, events = before ++ event :: rest → event.isOutside = false →
        ∀ n, ((engine.afterAll before).page.tree.parent? n).isSome = true →
          (engine.afterAll (before ++ [event])).page.tree.parent? n = none →
          ∃ start ∈ (engine.afterAll before).passesIn event, ∃ visit ∈ start.engine.visits,
            visit.node = n ∧ visit.removedPath?.isSome = true := by
  have sound := affectedSound_ofPage made
  have unused : engine.affected = [] ∧ engine.removals = [] := by
    obtain ⟨rules, _, rfl⟩ := engine_of_made made
    exact ⟨rfl, rfl⟩
  have atStart : Tallied [] engine := ⟨by simp, by simp, by simp [unused.1]⟩
  have tallied := tallied_afterAll atStart sound events
  have none : ∀ path, engine.removalCount path = 0 := by
    intro path
    rw [removalCount, unused.2]
    rfl
  have counted : ∀ path, (engine.afterAll events).removalCount path =
      (removedPaths engine events).count path := by
    intro path
    rw [(removalCount_afterAll engine events path).1, none, Nat.zero_add]
  refine ⟨tallied.within, tallied.counted, ?_, counted, ?_⟩
  · intro path
    rw [← counted]
    exact (removalCount_afterAll engine events path).2 (by rw [none]; exact Nat.zero_le _)
  · rintro before event rest rfl inside n attached gone
    have split : engine.afterAll (before ++ [event]) = (engine.afterAll before).after event :=
      List.foldl_append
    rw [split] at gone
    obtain ⟨visit, member, takes⟩ := (accounts_after inside).lost n attached gone
    obtain ⟨start, listed, visits⟩ := List.mem_flatMap.mp member
    exact ⟨start, listed, visit, visits, takes⟩

/-- An engine that takes an advertisement out of a page and colours a paragraph. -/
def clearing : Engine Unit :=
  started (Page.ofMarkup "<div class=ad></div><p></p>")
    { rules := some [".ad { remove: true }", "p { color: red }"] }

/-- A script adds the advertisement again and gives the paragraph another colour, and the next pass runs. -/
def workedAgainst : List Event :=
  [.script (.appendHtml ⟨4⟩ "<div class=ad></div>"), .script (.setStyleText ⟨2⟩ "color: blue"),
    .advance 200, .pump]

/-- The script does so twice. -/
def clearedThrice : List Event := .apply :: workedAgainst ++ workedAgainst

theorem repeated_work_bounded_clearing :
    removedPaths clearing clearedThrice = List.replicate 3 "html > body > div" ∧
      clearing.restorations clearedThrice = [0, 0] ∧
      (∀ id, (clearing.restorations clearedThrice).count id ≤ 50) ∧
      (∀ path, (removedPaths clearing clearedThrice).count path ≤ 51) ∧
      (clearing.afterAll clearedThrice).removalCount "html > body > div" =
        (removedPaths clearing clearedThrice).count "html > body > div" := by
  have made : (ofPage (Page.ofMarkup "<div class=ad></div><p></p>")
      { rules := some [".ad { remove: true }", "p { color: red }"] } ()).result = .ok clearing :=
    ofPage_started (by decide +kernel)
  obtain ⟨restored, _, removed, counted, _⟩ := repeated_work_bounded made clearedThrice
  exact ⟨by decide +kernel, by decide +kernel, restored, removed, counted _⟩

end Engine

end CosmeticRules
